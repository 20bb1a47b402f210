import Retrace.Bisection
import Retrace.SourceMap.Mapping

/-!
# Mapping tables

The mappings of a source map in the order of the generated text, for looking positions up. Of
mappings with one position the later given comes later. A position is mapped by the last mapping of
its line that does not stand behind it.
-/

namespace Retrace

/-- Mappings in the order of the generated text. -/
structure MappingTable where
  /-- The mappings. -/
  entries : Array Mapping
  /-- They are in order. -/
  sorted : entries.toList.Pairwise (fun a b => a.inOrder b = true)

namespace MappingTable

/-- The table of mappings that are given in any order. -/
def ofList (mappings : List Mapping) : MappingTable where
  entries := (mappings.mergeSort Mapping.inOrder).toArray
  sorted := List.pairwise_mergeSort Mapping.inOrder_trans Mapping.inOrder_total mappings

/-- The number of mappings. -/
def size (t : MappingTable) : Nat := t.entries.size

/-- Is the table empty? -/
def isEmpty (t : MappingTable) : Bool := t.entries.isEmpty

/-- The mapping of a position: of those on its line and at or before its column the last. -/
def find? (t : MappingTable) (line column : UInt32) : Option Mapping :=
  match partitionPoint t.entries (·.isAtOrBefore line column) with
  | 0 => none
  | i + 1 => t.entries[i]?.filter (·.generatedLine = line)

end MappingTable

end Retrace
