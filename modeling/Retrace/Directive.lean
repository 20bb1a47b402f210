import Retrace.Text.Lines

/-!
# Directives

How an artifact says where its source map is: a line comment that starts its line and holds
`sourceMappingURL=` with a reference behind it. The reference goes on to the next blank. A reference
that is a JSON data URL in base64 holds the map itself; the first of these decides, wherever it
stands. Otherwise the first reference does.

Lines end at line feeds only here.
-/

namespace Retrace

/-- What the deciding directive refers to. -/
inductive MapReference where
  /-- The map itself, as a base64 payload. -/
  | inline (payload : String)
  /-- The path or the URL of the map. -/
  | external (reference : String)
  deriving Repr, DecidableEq

namespace Directive

/-- Is the character a space or a tab? -/
def isGap (c : Char) : Bool := c = ' ' || c = '\t'

/-- The text behind a piece that it starts with. -/
def behind? (piece : String) (text : List Char) : Option (List Char) :=
  if piece.toList.isPrefixOf text then some (text.drop piece.length) else none

/-- The text up to the first blank, when it is not empty. -/
def word? (text : List Char) : Option (List Char) :=
  let word := text.takeWhile (!Unicode.isBlank ·)
  if word.isEmpty then none else some word

/-- What stands behind the equals sign of a line that starts as a directive. -/
def behindMark? (line : List Char) : Option (List Char) := do
  match ← behind? "//" (line.dropWhile isGap) with
  | mark :: rest =>
    guard (mark = '#' ∨ mark = '@')
    behind? "sourceMappingURL=" (rest.dropWhile isGap)
  | [] => none

/-- The reference of a directive. -/
def reference? (line : List Char) : Option (List Char) :=
  behindMark? line >>= word?

/-- The text behind an optional character set. -/
def dropCharset (text : List Char) : List Char :=
  match behind? ";charset=" text with
  | none => text
  | some rest =>
    let isNameChar (c : Char) : Bool := !(c = ';' || c = ',' || Unicode.isBlank c)
    if (rest.takeWhile isNameChar).isEmpty then text else rest.dropWhile isNameChar

/-- The payload of a directive that holds the map itself. -/
def payload? (line : List Char) : Option (List Char) := do
  let text ← behindMark? line
  let text ← behind? "data:application/json" text
  word? (← behind? ";base64," (dropCharset text))

/-- What the deciding directive of a text refers to. -/
def find? (text : String) : Option MapReference :=
  let lines := text.toList.splitOn '\n'
  match lines.findSome? payload? with
  | some payload => some (.inline (String.ofList payload))
  | none => (lines.findSome? reference?).map fun r => .external (String.ofList r)

end Directive

end Retrace
