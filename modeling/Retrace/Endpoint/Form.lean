import Retrace.Text.Utf8
import Retrace.Url.Percent

/-!
# Forms

The query of a request as a form: names and values with equals signs between them and ampersands
between the pairs. A plus sign stands for a blank, other bytes may be written out in percent signs,
and what is then not UTF-8 is replaced.
-/

namespace Retrace.Form

/-- The text of a written name or value. -/
def decode (written : List UInt8) : String :=
  let spaced := written.map fun byte => if byte = 43 then 32 else byte
  String.ofList (Text.Utf8.lenient (Url.percentDecode spaced))

/-- A written pair; what has no equals sign is a name with an empty value. -/
def decodePair (written : List UInt8) : String × String :=
  let name := written.takeWhile (· ≠ 61)
  (decode name, decode ((written.dropWhile (· ≠ 61)).drop 1))

/-- The pairs of a query, of which the empty ones do not count. -/
def pairs (query : List Char) : List (String × String) :=
  (((Text.Utf8.encode query).splitOn 38).filter (!·.isEmpty)).map decodePair

end Retrace.Form
