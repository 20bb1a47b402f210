import Retrace.Json.Record
import Retrace.Proofs.Json.Skipping

/-!
# Readers of JSON documents

What readers make of values, told by the values and not by their tokens. A reader decodes values
(`Reader.Decodes`) when it takes the tokens of each of them off the front of any tokens and comes to
what a function says of the value, or fails where the function says nothing. So what a document is
read as is decided by the value that it states (`read_eq_ok_iff`).
-/

namespace Retrace.Json

variable {α β : Type}

/-! ### Values -/

namespace Tree

/-- The content of a text. -/
def text? : Tree → Option String
  | .text content => content
  | _ => none

/-- The number of 32 bits that is written as digits alone. -/
def word? : Tree → Option UInt32
  | .number ⟨false, whole, none, none⟩ =>
    if Numeral.valueOf whole < UInt32.size then some (UInt32.ofNat (Numeral.valueOf whole)) else none
  | _ => none

/-- What a value stands for that may be absent. -/
def optional? (decode : Tree → Option α) : Tree → Option (Option α)
  | .null => some none
  | tree => (decode tree).map some

/-- What the elements of a list stand for. -/
def list? (decode : Tree → Option α) : Tree → Option (List α)
  | .list elements => elements.mapM decode
  | _ => none

end Tree

namespace Reader

/-! ### Decoding -/

/-- A reading comes to a result and leaves `rest` of the tokens, or fails when there is none. -/
def Leaves {tokens : List Token} (reading : Except Fault (α × Rest tokens)) (rest : List Token) :
    Option α → Prop
  | some value => ∃ h, reading = .ok (value, ⟨rest, h⟩)
  | none => ∃ fault, reading = .error fault

/-- A reader takes the tokens of a value off the front of tokens and comes to a result. -/
def Takes (reader : Reader α) (tree : Tree) (result : Option α) : Prop :=
  ∀ rest, Leaves (reader (tree.tokens ++ rest)) rest result

/-- A reader comes to what a function says of each value. -/
def Decodes (reader : Reader α) (decode : Tree → Option α) : Prop :=
  ∀ tree, reader.Takes tree (decode tree)

/-- What a reader makes of the tokens of a value alone. -/
def ofTree? (reader : Reader α) (tree : Tree) : Option α :=
  (reader tree.tokens).toOption.map Prod.fst

section Leaves

variable {tokens rest : List Token} {reading : Except Fault (α × Rest tokens)} {result : Option α}

/-- A change of what is read changes the result. -/
theorem Leaves.map (h : Leaves reading rest result) (f : α → β) :
    Leaves (reading.map fun (value, left) => (f value, left)) rest (result.map f) := by
  cases result with
  | none =>
    obtain ⟨fault, rfl⟩ := h
    exact ⟨fault, rfl⟩
  | some value =>
    obtain ⟨hlt, rfl⟩ := h
    exact ⟨hlt, rfl⟩

/-- A token that has been taken before does not change what is left. -/
theorem Leaves.behind (h : Leaves reading rest result) (token : Token) :
    Leaves (reading.map fun (value, left) => (value, left.behind token)) rest result := by
  cases result with
  | none =>
    obtain ⟨fault, rfl⟩ := h
    exact ⟨fault, rfl⟩
  | some value =>
    obtain ⟨hlt, rfl⟩ := h
    exact ⟨Nat.lt_succ_of_lt hlt, rfl⟩

/-- A reading comes to one result. -/
theorem Leaves.toOption_eq (h : Leaves reading rest result) :
    reading.toOption.map Prod.fst = result := by
  cases result with
  | none =>
    obtain ⟨fault, rfl⟩ := h
    rfl
  | some value =>
    obtain ⟨hlt, rfl⟩ := h
    rfl

end Leaves

/-- A reader comes to one result. -/
theorem Takes.ofTree?_eq {reader : Reader α} {tree : Tree} {result : Option α}
    (h : reader.Takes tree result) : reader.ofTree? tree = result := by
  have hleaves := h []
  rw [List.append_nil] at hleaves
  exact hleaves.toOption_eq

/-- What a reader decodes is what it makes of values alone. -/
theorem Decodes.ofTree?_eq {reader : Reader α} {decode : Tree → Option α}
    (h : reader.Decodes decode) : reader.ofTree? = decode :=
  funext fun tree => (h tree).ofTree?_eq

/-- A reader that decodes values decodes what it makes of them alone. -/
theorem Decodes.self {reader : Reader α} {decode : Tree → Option α} (h : reader.Decodes decode) :
    reader.Decodes reader.ofTree? := by
  rwa [h.ofTree?_eq]

/-- A change of what is read changes what is decoded. -/
theorem Decodes.map {reader : Reader α} {decode : Tree → Option α} (h : reader.Decodes decode)
    (f : α → β) : (reader.map f).Decodes fun tree => (decode tree).map f :=
  fun tree rest => (h tree rest).map f

/-! ### Texts, numbers and absent values -/

/-- A text is decoded as its content. -/
theorem text_decodes : Reader.text.Decodes Tree.text? := by
  intro tree
  cases tree with
  | text content =>
    cases content with
    | none => exact fun rest => ⟨_, rfl⟩
    | some content => exact fun rest => ⟨_, rfl⟩
  | _ => exact fun rest => ⟨_, rfl⟩

/-- A numeral is a natural number of at most 64 bits exactly when it is written as digits alone and
their number is not greater. -/
theorem number_eq_natural_iff {numeral : Numeral} {value : Nat} :
    numeral.number = .natural value ↔ ∃ whole, numeral = ⟨false, whole, none, none⟩ ∧
      Numeral.valueOf whole = value ∧ value < UInt64.size := by
  obtain ⟨negative, whole, fraction, exponent⟩ := numeral
  unfold Numeral.number
  dsimp only
  split
  next h =>
    obtain ⟨hnegative, hfraction, hexponent, hlt⟩ := h
    obtain rfl : negative = false := by simpa using hnegative
    obtain rfl : fraction = none := by simpa using hfraction
    obtain rfl : exponent = none := by simpa using hexponent
    constructor
    · intro heq
      cases heq
      exact ⟨whole, rfl, rfl, hlt⟩
    · rintro ⟨_, heq, rfl, -⟩
      cases heq
      rfl
  next h =>
    have hfinite (infinite : Bool) :
        (if infinite then Number.infinite else Number.other) ≠ .natural value := by
      cases infinite <;> exact nofun
    constructor
    · exact fun heq => absurd heq (hfinite _)
    · rintro ⟨_, heq, rfl, hlt⟩
      cases heq
      exact absurd ⟨rfl, rfl, rfl, hlt⟩ h

/-- A number has 32 bits when it is natural and below their bound. -/
theorem word?_number (numeral : Numeral) :
    Tree.word? (.number numeral) =
      match numeral.number with
      | .natural value => if value < UInt32.size then some (UInt32.ofNat value) else none
      | _ => none := by
  cases hnumber : numeral.number with
  | natural value =>
    obtain ⟨whole, rfl, rfl, -⟩ := number_eq_natural_iff.mp hnumber
    rfl
  | _ =>
    unfold Tree.word?
    split
    next whole heq =>
      cases heq
      refine if_neg fun hlt => ?_
      have hlt' : Numeral.valueOf whole < UInt64.size := Nat.lt_trans hlt (by decide)
      cases hnumber.symm.trans (number_eq_natural_iff.mpr ⟨whole, rfl, rfl, hlt'⟩)
    next => rfl

/-- A number of 32 bits is decoded when it is written as digits alone. -/
theorem word_decodes : Reader.word.Decodes Tree.word? := by
  intro tree rest
  cases tree with
  | number numeral =>
    rw [word?_number]
    show Leaves (Reader.word (.number numeral.number :: rest)) rest _
    cases numeral.number with
    | natural value =>
      by_cases hlt : value < UInt32.size
      · have hnatural : natural UInt32.size (.number (.natural value) :: rest) =
            .ok (value, .tail _ rest) := if_pos hlt
        dsimp only
        rw [if_pos hlt]
        show Leaves ((natural _ _).map _) rest _
        rw [hnatural]
        exact ⟨_, rfl⟩
      · have hnatural : natural UInt32.size (.number (.natural value) :: rest) =
            .error .mismatched := if_neg hlt
        dsimp only
        rw [if_neg hlt]
        show Leaves ((natural _ _).map _) rest _
        rw [hnatural]
        exact ⟨_, rfl⟩
    | _ => exact ⟨_, rfl⟩
  | _ => exact ⟨_, rfl⟩

/-- A value that may be absent is decoded as absent where it is `null`. -/
theorem Decodes.optional {reader : Reader α} {decode : Tree → Option α}
    (h : reader.Decodes decode) : (Reader.optional reader).Decodes (Tree.optional? decode) := by
  intro tree rest
  cases tree with
  | null => exact ⟨_, rfl⟩
  | _ => exact (h _ rest).map some

/-! ### Lists -/

/-- An element before the closing bracket is the last one. -/
theorem elements_of_close {reader : Reader α} {tokens rest : List Token} {result : Option α}
    (h : Leaves (reader tokens) (.closeList :: rest) result) :
    Leaves (elements reader tokens) rest (result.map ([·])) := by
  cases result with
  | none =>
    obtain ⟨fault, herror⟩ := h
    exact ⟨fault, by rw [elements, herror]⟩
  | some value =>
    obtain ⟨hlt, hok⟩ := h
    exact ⟨Nat.lt_of_succ_lt hlt, by rw [elements, hok]⟩

/-- Behind an element before a comma further ones are read. -/
theorem elements_of_comma {reader : Reader α} {tokens behind rest : List Token}
    {result : Option α} {results : Option (List α)}
    (h : Leaves (reader tokens) (.comma :: behind) result)
    (hrest : Leaves (elements reader behind) rest results) :
    Leaves (elements reader tokens) rest
      (result.bind fun value => results.map fun values => value :: values) := by
  cases result with
  | none =>
    obtain ⟨fault, herror⟩ := h
    exact ⟨fault, by rw [elements, herror]⟩
  | some value =>
    obtain ⟨hlt, hok⟩ := h
    cases results with
    | none =>
      obtain ⟨fault, herror⟩ := hrest
      refine ⟨fault, ?_⟩
      rw [elements, hok]
      dsimp only
      rw [herror]
    | some values =>
      obtain ⟨hlt', hok'⟩ := hrest
      refine ⟨Nat.lt_trans hlt' (Nat.lt_of_succ_lt hlt), ?_⟩
      rw [elements, hok]
      dsimp only
      rw [hok']

/-- Elements are read up to the closing bracket, each as what is decoded of it. -/
theorem elements_leaves {reader : Reader α} {decode : Tree → Option α}
    (hreader : reader.Decodes decode) {trees : List Tree} (hne : trees ≠ []) (rest : List Token) :
    Leaves (elements reader (Tree.elementTokens trees ++ .closeList :: rest)) rest
      (trees.mapM decode) := by
  induction trees with
  | nil => exact absurd rfl hne
  | cons tree trees ih =>
    rw [List.mapM_cons]
    cases trees with
    | nil =>
      have hlast := elements_of_close (hreader tree (.closeList :: rest))
      cases hvalue : decode tree <;> rwa [hvalue] at hlast
    | cons next trees =>
      rw [Tree.elementTokens, List.append_assoc]
      have hboth := elements_of_comma (hreader tree (.comma :: _)) (ih (List.cons_ne_nil _ _))
      cases hvalue : decode tree with
      | none => rwa [hvalue] at hboth
      | some value =>
        rw [hvalue] at hboth
        cases hvalues : (next :: trees).mapM decode <;> rwa [hvalues] at hboth

/-- No element begins with a closing bracket. -/
theorem elementTokens_ne_close (tree : Tree) (trees : List Tree) (rest behind : List Token) :
    Tree.elementTokens (tree :: trees) ++ rest ≠ .closeList :: behind := by
  cases trees <;> cases tree <;> exact nofun

/-- A list is decoded element by element. -/
theorem Decodes.list {reader : Reader α} {decode : Tree → Option α} (h : reader.Decodes decode) :
    (Reader.list reader).Decodes (Tree.list? decode) := by
  intro tree rest
  cases tree with
  | list trees =>
    cases trees with
    | nil => exact ⟨_, rfl⟩
    | cons tree trees =>
      have helements := elements_leaves h (List.cons_ne_nil tree trees) rest
      rw [Tree.tokens_list_append, Reader.list]
      · exact helements.behind .openList
      · exact elementTokens_ne_close tree trees _
  | _ => exact ⟨_, rfl⟩

/-! ### What readers make of values -/

@[simp]
theorem text_decodes_ofTree? : Reader.text.Decodes Reader.text.ofTree? :=
  text_decodes.self

@[simp]
theorem word_decodes_ofTree? : Reader.word.Decodes Reader.word.ofTree? :=
  word_decodes.self

@[simp]
theorem optional_decodes_ofTree? {reader : Reader α} (h : reader.Decodes reader.ofTree?) :
    (Reader.optional reader).Decodes (Reader.optional reader).ofTree? :=
  h.optional.self

@[simp]
theorem list_decodes_ofTree? {reader : Reader α} (h : reader.Decodes reader.ofTree?) :
    (Reader.list reader).Decodes (Reader.list reader).ofTree? :=
  h.list.self

end Reader

/-! ### Documents -/

/-- A document is read as what its value is decoded as. -/
theorem read_eq_ok_iff {reader : Reader α} {tree : Tree} {result : Option α}
    (h : reader.Takes tree result) {document : List UInt8} (hdocument : IsDocument tree document)
    {value : α} : read reader document = .ok value ↔ result = some value := by
  have hleaves : Reader.Leaves (reader (tokens document)) [] result := by
    have htokens : tokens document = tree.tokens ++ [] := by
      rw [tokens_of_isDocument hdocument, List.append_nil]
    rw [htokens]
    exact h []
  unfold read
  cases result with
  | none =>
    obtain ⟨fault, herror⟩ := hleaves
    rw [herror]
    simp
  | some value' =>
    obtain ⟨_, hok⟩ := hleaves
    rw [hok]
    simp

end Retrace.Json
