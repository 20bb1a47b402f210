import Retrace.Proofs.Json.Printing
import Retrace.Proofs.Json.Record
import Retrace.SourceMap.Document

/-!
# Documents of source maps

What a document is read as depends only on five members of it (`read_eq_ok_iff`): on their values,
and neither on their order nor on what else the document holds, however it is nested and written. A
member that is `null` is the same as one that is missing. So two documents that agree on the five
members are both read as the same map or both refused (`read_spec`).

A further member is skipped token by token, while the five are read as values of their kinds; that
both leave the same tokens behind is what `Json.Shape.takes_object` rests on. The name of a further
member is any Unicode text, and in its value there may also be texts that are none.
-/

namespace Retrace.SourceMap

open Json (Tree IsDocument assemble?)

/-- The names of the members on which a map depends. -/
def memberNames : List String :=
  ["version", "sourceRoot", "sources", "sourcesContent", "mappings"]

/-- What an object says of a member: nothing when it is missing or `null`. -/
def said : Option Tree → Option Tree
  | some .null => none
  | value => value

/-- Two objects say the same of the five members. -/
def SameMap (members members' : List (String × Tree)) : Prop :=
  ∀ name ∈ memberNames, said (members.lookup name) = said (members'.lookup name)

/-- An object states each of the five members at most once. -/
def StatesOnce (members : List (String × Tree)) : Prop :=
  ∀ name ∈ memberNames, (members.map Prod.fst).count name ≤ 1

instance (members : List (String × Tree)) : Decidable (StatesOnce members) :=
  inferInstanceAs (Decidable (∀ name ∈ memberNames, (members.map Prod.fst).count name ≤ 1))

/-- The five members of an object have the right types, and a map has their values. -/
structure States (members : List (String × Tree)) (m : SourceMap) : Prop where
  /-- The version is a number of 32 bits. -/
  version : (members.lookup "version").bind Tree.word? = some m.version
  /-- The common root is a text, or is missing or `null`. -/
  sourceRoot : Tree.given? Tree.text? (members.lookup "sourceRoot") = some m.sourceRoot
  /-- The sources are a list of texts. -/
  sources : (members.lookup "sources").bind (Tree.list? Tree.text?) = some m.sources
  /-- The contents are a list of texts, some of which may be `null`, or are missing or `null`. -/
  sourcesContent : Tree.given? (Tree.list? (Tree.optional? Tree.text?))
    (members.lookup "sourcesContent") = some m.sourcesContent
  /-- The mappings are a text. -/
  mappings : (members.lookup "mappings").bind Tree.text? = some m.mappings

variable {members members' : List (String × Tree)} {document document' : List UInt8}
  {m : SourceMap}

/-! ### Reading -/

/-- The members of a map can be taken in any order. -/
theorem isRegular_shape : shape.IsRegular := by
  -- The reader of the contents is nested too deep for the simplifier.
  simp [shape, Json.Reader.text_decodes.optional.list.optional.self]

/-- The map that the members of an object give is the one that they state. -/
theorem assemble?_eq_some_iff :
    assemble? (members.lookup ·) shape.members blank = some m ↔ States members m := by
  have htext := Json.Reader.text_decodes
  have hcontents := htext.optional.list
  constructor
  · intro h
    obtain ⟨version, hversion, h⟩ := (Json.assemble?_required Json.Reader.word_decodes).mp h
    obtain ⟨root, hroot, h⟩ := (Json.assemble?_optional htext (by decide) rfl).mp h
    obtain ⟨sources, hsources, h⟩ := (Json.assemble?_required htext.list).mp h
    obtain ⟨contents, hcontents, h⟩ := (Json.assemble?_optional hcontents (by decide) rfl).mp h
    obtain ⟨mappings, hmappings, h⟩ := (Json.assemble?_required htext).mp h
    cases h
    exact ⟨hversion, hroot, hsources, hcontents, hmappings⟩
  · rintro ⟨hversion, hroot, hsources, hcontents', hmappings⟩
    refine (Json.assemble?_required Json.Reader.word_decodes).mpr ⟨_, hversion, ?_⟩
    refine (Json.assemble?_optional htext (by decide) rfl).mpr ⟨_, hroot, ?_⟩
    refine (Json.assemble?_required htext.list).mpr ⟨_, hsources, ?_⟩
    refine (Json.assemble?_optional hcontents (by decide) rfl).mpr ⟨_, hcontents', ?_⟩
    exact (Json.assemble?_required htext).mpr ⟨_, hmappings, rfl⟩

/-- The record of a document is the map that its members state. -/
theorem read_shape_eq_ok_iff (hdocument : IsDocument (.object members) document)
    (honce : StatesOnce members) :
    Json.read (shape.reader blank) document = .ok m ↔ States members m := by
  have honce' : shape.StatesOnce (members.map Prod.fst) := by
    intro member hmem
    exact honce member.name (List.mem_map_of_mem (f := (·.name)) hmem)
  rw [Json.read_eq_ok_iff (Json.Shape.takes_object isRegular_shape honce' blank) hdocument,
    assemble?_eq_some_iff]

/-- A document whose record can be read is accepted if the version is three. -/
theorem read_of_ok (h : Json.read (shape.reader blank) document = .ok m) :
    read document = if m.version = 3 then .ok m else .error (.version m.version) := by
  unfold read checkVersion
  rw [h]
  by_cases hversion : m.version = 3 <;>
    simp [hversion, supportedVersion, Except.mapError, bind, Except.bind, pure, Except.pure]

/-- A document is read as the map that its members state, if the version is three. -/
theorem read_eq_ok_iff (hdocument : IsDocument (.object members) document)
    (honce : StatesOnce members) :
    read document = .ok m ↔ States members m ∧ m.version = 3 := by
  rw [← read_shape_eq_ok_iff hdocument honce]
  cases hrecord : Json.read (shape.reader blank) document with
  | error fault =>
    unfold read
    rw [hrecord]
    simp [Except.mapError, bind, Except.bind]
  | ok found =>
    rw [read_of_ok hrecord]
    by_cases hversion : found.version = 3
    · rw [if_pos hversion]
      constructor
      · rintro h
        cases h
        exact ⟨rfl, hversion⟩
      · rintro ⟨h, -⟩
        cases h
        rfl
    · rw [if_neg hversion]
      constructor
      · exact nofun
      · rintro ⟨h, hversion'⟩
        cases h
        exact absurd hversion' hversion

/-! ### Documents that say the same -/

/-- A value that may be missing is what is said of it. -/
theorem given?_said {α : Type} (decode : Tree → Option α) (value : Option Tree) :
    Tree.given? decode (said value) = Tree.given? decode value := by
  match value with
  | none => rfl
  | some .null => rfl
  | some (.bool _) | some (.number _) | some (.text _) | some (.list _) | some (.record _) => rfl

/-- A required value is what is said of it, as `null` is of no kind. -/
theorem bind_said {α : Type} {decode : Tree → Option α} (hnull : decode .null = none)
    (value : Option Tree) : (said value).bind decode = value.bind decode := by
  match value with
  | none => rfl
  | some .null => exact hnull.symm
  | some (.bool _) | some (.number _) | some (.text _) | some (.list _) | some (.record _) => rfl

/-- Objects that say the same of the five members state the same map. -/
theorem SameMap.states (hsame : SameMap members members') (h : States members m) :
    States members' m := by
  have hgiven {α : Type} (decode : Tree → Option α) {name : String} (hname : name ∈ memberNames) :
      Tree.given? decode (members'.lookup name) = Tree.given? decode (members.lookup name) := by
    rw [← given?_said, ← hsame name hname, given?_said]
  have hbind {α : Type} {decode : Tree → Option α} (hnull : decode .null = none) {name : String}
      (hname : name ∈ memberNames) :
      (members'.lookup name).bind decode = (members.lookup name).bind decode := by
    rw [← bind_said hnull, ← hsame name hname, bind_said hnull]
  exact {
    version := (hbind rfl (by decide)).trans h.version
    sourceRoot := (hgiven _ (by decide)).trans h.sourceRoot
    sources := (hbind rfl (by decide)).trans h.sources
    sourcesContent := (hgiven _ (by decide)).trans h.sourcesContent
    mappings := (hbind rfl (by decide)).trans h.mappings }

/-- Two documents that say the same of the five members, each at most once, are both refused or both
read as the same map, in whatever order and among whatever other members they state them. A document
is read as a map exactly when its five members have the right types, with the values of the map, and
the version is three; with right types and another version it is refused for its version. -/
theorem read_spec (hdocument : IsDocument (.object members) document)
    (hdocument' : IsDocument (.object members') document') (honce : StatesOnce members)
    (honce' : StatesOnce members') (hsame : SameMap members members') :
    (∀ m, read document = .ok m ↔ read document' = .ok m) ∧
      (∀ m, read document = .ok m ↔ States members m ∧ m.version = 3) ∧
      (∀ m, States members m → m.version ≠ 3 →
        read document = .error (.version m.version)) := by
  have hsame' : SameMap members' members := fun name hname => (hsame name hname).symm
  refine ⟨fun m => ?_, fun m => read_eq_ok_iff hdocument honce, fun m hstates hversion => ?_⟩
  · rw [read_eq_ok_iff hdocument honce, read_eq_ok_iff hdocument' honce']
    exact ⟨fun h => ⟨hsame.states h.1, h.2⟩, fun h => ⟨hsame'.states h.1, h.2⟩⟩
  · rw [read_of_ok ((read_shape_eq_ok_iff hdocument honce).mpr hstates), if_neg hversion]

/-- A document with the required members alone, and one with them in another order, the root as
`null`, further members between them and spacing around them: both are read as the same map. -/
theorem read_spec_two_layouts :
    let sources : Json.Value := .list [.text "a.ts"]
    let members := [("version", .number 3), ("sources", sources), ("mappings", .text "AAAA")]
    let members' := [("mappings", .text "AAAA"),
      ("names", .list [.null, .record [("version", .number 4)]]), ("sourceRoot", .null),
      ("sources", sources), ("names", .bool true), ("version", .number 3)]
    read (Text.Utf8.encode (Json.Value.record members).print) =
        .ok ⟨3, none, ["a.ts"], none, "AAAA"⟩ ∧
      read (Text.Utf8.encode (['\n'] ++ ((Json.Value.record members').print ++ [' ']))) =
        .ok ⟨3, none, ["a.ts"], none, "AAAA"⟩ := by
  intro sources members members'
  have hspacing : Json.IsSpacing ['\n'] ∧ Json.IsSpacing [' '] := by simp [Json.IsSpacing]
  have hdocument : IsDocument (.object (Json.Value.memberTrees members))
      (Text.Utf8.encode (Json.Value.record members).print) :=
    Json.isDocument_print (.record members)
  have hdocument' : IsDocument (.object (Json.Value.memberTrees members'))
      (Text.Utf8.encode (['\n'] ++ ((Json.Value.record members').print ++ [' ']))) :=
    ⟨_, .intro hspacing.1 (Json.isValue_print (.record members')) hspacing.2, rfl⟩
  have hsame : SameMap (Json.Value.memberTrees members) (Json.Value.memberTrees members') := by
    simp only [SameMap, memberNames, List.forall_mem_cons]
    exact ⟨rfl, rfl, rfl, rfl, rfl, nofun⟩
  have hstates : States (Json.Value.memberTrees members) ⟨3, none, ["a.ts"], none, "AAAA"⟩ :=
    ⟨Json.word?_ofNat 3, rfl, rfl, rfl, rfl⟩
  obtain ⟨hboth, hread, -⟩ :=
    read_spec hdocument hdocument' (by decide +kernel) (by decide +kernel) hsame
  have hok := (hread _).mpr ⟨hstates, rfl⟩
  exact ⟨hok, (hboth _).mp hok⟩

end Retrace.SourceMap
