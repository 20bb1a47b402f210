import Retrace.Unicode.Category

/-!
# General categories by name

The general categories of characters, their groups, and the names under which patterns ask for them.
In a name neither case nor spaces, hyphens and underscores matter, nor an `is` in front.
-/

namespace Retrace.Unicode

open Category in
/-- The categories with their names, first the short one. -/
def namedCategories : List (List String × Ranges) :=
  [(["lu", "uppercaseletter"], uppercaseLetter), (["ll", "lowercaseletter"], lowercaseLetter),
    (["lt", "titlecaseletter"], titlecaseLetter), (["lm", "modifierletter"], modifierLetter),
    (["lo", "otherletter"], otherLetter), (["mn", "nonspacingmark"], nonspacingMark),
    (["mc", "spacingmark"], spacingMark), (["me", "enclosingmark"], enclosingMark),
    (["nd", "decimalnumber", "digit"], decimalNumber), (["nl", "letternumber"], letterNumber),
    (["no", "othernumber"], otherNumber), (["pc", "connectorpunctuation"], connectorPunctuation),
    (["pd", "dashpunctuation"], dashPunctuation), (["ps", "openpunctuation"], openPunctuation),
    (["pe", "closepunctuation"], closePunctuation),
    (["pi", "initialpunctuation"], initialPunctuation),
    (["pf", "finalpunctuation"], finalPunctuation), (["po", "otherpunctuation"], otherPunctuation),
    (["sm", "mathsymbol"], mathSymbol), (["sc", "currencysymbol"], currencySymbol),
    (["sk", "modifiersymbol"], modifierSymbol), (["so", "othersymbol"], otherSymbol),
    (["zs", "spaceseparator"], spaceSeparator), (["zl", "lineseparator"], lineSeparator),
    (["zp", "paragraphseparator"], paragraphSeparator), (["cc", "control", "cntrl"], control),
    (["cf", "format"], format), (["co", "privateuse"], privateUse),
    (["cn", "unassigned"], unassigned)]

/-- The groups of categories with their names: the short names of the members start alike. -/
def namedGroups : List (List String × List String) :=
  [(["l", "letter"], ["lu", "ll", "lt", "lm", "lo"]),
    (["lc", "casedletter"], ["lu", "ll", "lt"]),
    (["m", "mark", "combiningmark"], ["mn", "mc", "me"]),
    (["n", "number"], ["nd", "nl", "no"]),
    (["p", "punctuation", "punct"], ["pc", "pd", "ps", "pe", "pi", "pf", "po"]),
    (["s", "symbol"], ["sm", "sc", "sk", "so"]),
    (["z", "separator"], ["zs", "zl", "zp"]),
    (["c", "other"], ["cc", "cf", "co", "cn"])]

/-- A name without what does not matter in it. -/
def looseName (name : List Char) : String :=
  let counted (name : List Char) : List Char :=
    (name.filter fun c => c ≠ ' ' ∧ c ≠ '_' ∧ c ≠ '-' ∧ c.toNat < 128).map Char.toLower
  String.ofList <|
    match name with
    | i :: s :: rest =>
      if i.toLower = 'i' ∧ s.toLower = 's' then counted rest else counted name
    | _ => counted name

/-- The short names of the categories that a loose name stands for. -/
def categoriesOf? (name : String) : Option (List String) :=
  match namedGroups.find? (·.1.contains name) with
  | some (_, members) => some members
  | none => (namedCategories.find? (·.1.contains name)).map (·.1.take 1)

/-- The characters of a category given by its short name. -/
def categoryRanges (name : String) : Ranges :=
  ((namedCategories.find? (·.1.head? = some name)).map (·.2)).getD ⟨#[]⟩

end Retrace.Unicode
