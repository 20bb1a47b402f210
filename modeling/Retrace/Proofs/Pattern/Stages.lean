import Retrace.Pattern.Search

/-!
# Stages of a match

Many expressions are read in stages, each of which takes a piece off the text and leaves no choice
to the next one. `Passes` tells what a stage does, whatever stands before it: the ways at its
beginning come down to the ways at its end behind the piece, or to nothing where the text does not
begin with such a piece. Stages are put together by `Passes.trans`; there is one for a literal text
(`passes_literal`), for a repetition of characters that the next one does not belong to
(`passes_star`), and for a part that may be left out (`passes_optional`).

A repetition behind the stages of an expression can be captured in its leftmost match, and what is
captured at a place are the characters of this repetition behind the pieces (`captureAt?_eq`).
-/

namespace Retrace.Pattern

namespace Explore

variable {seen : List Way}

/-- Nothing is found and nothing seen. -/
@[simp] theorem nowhere_apply : nowhere seen = ([], seen) := rfl

/-- One outcome is found. -/
@[simp] theorem lead_apply (outcome : Outcome) : lead outcome seen = ([outcome], seen) := rfl

/-- What has been seen is not explored again. -/
@[simp] theorem once_apply (way : Way) (explore : Explore) :
    once way explore seen = if way ∈ seen then ([], seen) else explore (way :: seen) := by
  simp [once]

/-- The outcomes of both are found. -/
@[simp] theorem followedBy_apply (first second : Explore) : first.followedBy second seen =
    ((first seen).1 ++ (second (first seen).2).1, (second (first seen).2).2) := rfl

/-- A greedy choice goes on before it stops. -/
@[simp] theorem choose_true (goOn stop : Explore) : choose true goOn stop = goOn.followedBy stop :=
  rfl

end Explore

/-- The way of expressions one after the other, in front of a way. -/
def wayOf (parts : List Expr) (rest : Way) : Way :=
  if parts.isEmpty then rest else .ofList parts :: rest

/-- Exploring ways, at whatever place, leads to taking a character of one of these sets and never to
the end of the expression. -/
def Leads (ways : List Way) (taken : List (CharSet × Way)) : Prop :=
  ∀ before after, exploreWays before after ways = taken.map fun step => .takes step.1 step.2

variable {s s' g : CharSet} {parts parts' : List Expr} {rest rest' : Way} {ways ways' : List Way}
  {taken : List (CharSet × Way)} {before : Option Char} {n : Nat} {best : Option Nat} {c : Char}
  {text : List Char}

/-! ### One character -/

/-- No way has itself behind other expressions. -/
theorem ne_cons_cons (a b : Expr) (way : Way) : way ≠ a :: b :: way :=
  ne_of_apply_ne List.length (by simp only [List.length_cons]; omega)

/-- A set takes one of its characters. -/
theorem leads_set (s : CharSet) (parts : List Expr) (rest : Way) :
    Leads [wayOf (.set s :: parts) rest] [(s, wayOf parts rest)] := by
  intro before after
  cases parts <;> simp [wayOf, Expr.ofList, exploreWays, exploreWay, explore]

/-- Of two sets each takes one of its characters. -/
theorem leads_two (hne : s ≠ s') :
    Leads [wayOf (.set s :: parts) rest, wayOf (.set s' :: parts') rest']
      [(s, wayOf parts rest), (s', wayOf parts' rest')] := by
  intro before after
  cases parts <;> cases parts' <;>
    simp [wayOf, Expr.ofList, exploreWays, exploreWay, explore, hne.symm]

/-- A repetition takes one of its characters, or the set behind it one of its own. -/
theorem leads_star (g s : CharSet) (parts : List Expr) (rest : Way) :
    Leads [wayOf (.star (.set g) true :: .set s :: parts) rest]
      [(g, .star (.set g) true :: wayOf (.set s :: parts) rest), (s, wayOf parts rest)] := by
  intro before after
  cases parts <;>
    simp [wayOf, Expr.ofList, exploreWays, exploreWay, explore, ne_cons_cons]

/-- A repetition that has been begun goes on in the same way. -/
theorem leads_star_again (g s : CharSet) (parts : List Expr) (rest : Way) :
    Leads [.star (.set g) true :: wayOf (.set s :: parts) rest]
      [(g, .star (.set g) true :: wayOf (.set s :: parts) rest), (s, wayOf parts rest)] := by
  intro before after
  cases parts <;>
    simp [wayOf, Expr.ofList, exploreWays, exploreWay, explore, ne_cons_cons]

/-- Beside a repetition that has been begun another set takes one of its own characters. -/
theorem leads_star_two (g : CharSet) (hne : s ≠ s') :
    Leads [.star (.set g) true :: wayOf (.set s :: parts) [], wayOf (.set s' :: parts') []]
      [(g, .star (.set g) true :: wayOf (.set s :: parts) []), (s, wayOf parts []),
        (s', wayOf parts' [])] := by
  intro before after
  cases parts <;> cases parts' <;>
    simp [wayOf, Expr.ofList, exploreWays, exploreWay, explore, hne.symm]

/-- Outcomes that take characters are kept, and none of them is a match. -/
theorem cutAtMatch_takes (taken : List (CharSet × Way)) :
    cutAtMatch (taken.map fun step => .takes step.1 step.2) = (taken, false) := by
  induction taken with
  | nil => rfl
  | cons step taken ih => rw [List.map_cons, cutAtMatch, ih]

/-- At the end of the text no character is taken. -/
theorem Leads.matchFrom_nil (h : Leads ways taken) : matchFrom before ways n best [] = best := by
  rw [matchFrom.eq_def, h, cutAtMatch_takes]
  rfl

/-- A character is taken by the sets that have it. -/
theorem Leads.matchFrom_cons (h : Leads ways taken) : matchFrom before ways n best (c :: text) =
    let next := taken.filterMap fun step => if step.1.contains c then some step.2 else none
    if next.isEmpty then best else matchFrom (some c) next (n + 1) best text := by
  rw [matchFrom.eq_def, h, cutAtMatch_takes]
  rfl

/-- Ways that lead to the same match the same. -/
theorem Leads.matchFrom_congr (h : Leads ways taken) (h' : Leads ways' taken) :
    matchFrom before ways n best text = matchFrom before ways' n best text := by
  cases text with
  | nil => rw [h.matchFrom_nil, h'.matchFrom_nil]
  | cons c text => rw [h.matchFrom_cons, h'.matchFrom_cons]

/-! ### Pieces of a text -/

/-- Matching comes down from some ways to others behind the piece that `read?` takes off the front
of a text, and where there is no such piece it ends. -/
structure Passes (ways ways' : List Way) (read? : List Char → Option (List Char)) : Prop where
  /-- Without the piece nothing further is matched. -/
  ends : ∀ {before n best text}, read? text = none → matchFrom before ways n best text = best
  /-- With it the other ways are matched behind it. -/
  goesOn : ∀ before n best {text behind}, read? text = some behind →
    behind <:+ text ∧ ∃ before', matchFrom before ways n best text =
      matchFrom before' ways' (n + (text.length - behind.length)) best behind

variable {read? next? : List Char → Option (List Char)} {middle : List Way}

/-- Without a step nothing is taken off. -/
theorem Passes.refl (ways : List Way) : Passes ways ways some where
  ends := nofun
  goesOn := by
    rintro before n best text behind ⟨⟩
    exact ⟨List.suffix_refl _, before, by rw [Nat.sub_self, Nat.add_zero]⟩

/-- One stage comes after the other. -/
theorem Passes.trans (h : Passes ways middle read?) (h' : Passes middle ways' next?) :
    Passes ways ways' fun text => (read? text).bind next? where
  ends := by
    intro before n best text hnone
    cases hread : read? text with
    | none => exact h.ends hread
    | some behind =>
      rw [hread] at hnone
      obtain ⟨-, before', hfirst⟩ := h.goesOn before n best hread
      rw [hfirst]
      exact h'.ends hnone
  goesOn := by
    intro before n best text behind' hsome
    obtain ⟨behind, hread, hnext⟩ := Option.bind_eq_some_iff.mp hsome
    obtain ⟨hsuffix, before', hfirst⟩ := h.goesOn before n best hread
    obtain ⟨hsuffix', before'', hsecond⟩ :=
      h'.goesOn before' (n + (text.length - behind.length)) best hnext
    have hlength : n + (text.length - behind.length) + (behind.length - behind'.length) =
        n + (text.length - behind'.length) := by
      have hle := hsuffix.length_le
      have hle' := hsuffix'.length_le
      omega
    exact ⟨hsuffix'.trans hsuffix, before'', by rw [hfirst, hsecond, hlength]⟩

/-- Ways that lead to the same pass the same. -/
theorem Passes.of_leads (h : Passes ways ways' read?) (hways : Leads ways taken)
    (hmiddle : Leads middle taken) : Passes middle ways' read? := by
  refine ⟨fun hnone => ?_, fun before n best _ _ hsome => ?_⟩
  · rw [hmiddle.matchFrom_congr hways]
    exact h.ends hnone
  · rw [hmiddle.matchFrom_congr hways]
    exact h.goesOn before n best hsome

/-- The text behind its first character, when this belongs to a set. -/
def behindSet? (s : CharSet) : List Char → Option (List Char)
  | [] => none
  | c :: text => if s.contains c then some text else none

/-- A step to one way passes one character. -/
theorem Leads.passes {way way' : Way} (h : Leads [way] [(s, way')]) :
    Passes [way] [way'] (behindSet? s) where
  ends := by
    intro before n best text hnone
    cases text with
    | nil => exact h.matchFrom_nil
    | cons c text =>
      have hc : s.contains c = false := by simpa [behindSet?] using hnone
      simp [h.matchFrom_cons, hc]
  goesOn := by
    intro before n best text behind hsome
    cases text with
    | nil => cases hsome
    | cons c text =>
      obtain ⟨hc, rfl⟩ : s.contains c = true ∧ text = behind := by simpa [behindSet?] using hsome
      exact ⟨List.suffix_cons _ _, some c, by simp [h.matchFrom_cons, hc]⟩

/-- A way that comes back to itself or goes on as another one passes all characters of the set by
which it comes back, when the other one cannot take them. -/
theorem Leads.passes_dropWhile {way way' way'' : Way} (h : Leads [way] [(g, way), (s, way'')])
    (h' : Leads [way'] [(s, way'')]) (hdisjoint : ∀ c, g.contains c = true → s.contains c = false) :
    Passes [way] [way'] fun text => some (text.dropWhile g.contains) where
  ends := nofun
  goesOn := by
    rintro before n best text behind ⟨⟩
    refine ⟨List.dropWhile_suffix _, ?_⟩
    induction text generalizing before n with
    | nil => exact ⟨before, by rw [h.matchFrom_nil, List.dropWhile_nil, h'.matchFrom_nil]⟩
    | cons c text ih =>
      cases hc : g.contains c with
      | true =>
        -- The way comes back to itself behind the character.
        obtain ⟨before', hbehind⟩ := ih (some c) (n + 1)
        have hle := (List.dropWhile_suffix (l := text) g.contains).length_le
        have hlength : n + 1 + (text.length - (text.dropWhile g.contains).length) =
            n + ((c :: text).length - (text.dropWhile g.contains).length) := by
          rw [List.length_cons]
          omega
        refine ⟨before', ?_⟩
        rw [List.dropWhile_cons_of_pos hc, ← hlength, ← hbehind, h.matchFrom_cons]
        simp [hc, hdisjoint c hc]
      | false =>
        -- The character is left to the other way.
        refine ⟨before, ?_⟩
        rw [List.dropWhile_cons_of_neg (by simp [hc]), Nat.sub_self, Nat.add_zero,
          h.matchFrom_cons, h'.matchFrom_cons]
        simp [hc]

/-! ### Kinds of stages -/

/-- The text behind a piece that it starts with. -/
def behindPiece? (piece text : List Char) : Option (List Char) :=
  if piece.isPrefixOf text then some (text.drop piece.length) else none

/-- The text behind the characters of a set that it starts with, when there are any. -/
def behindRun? (g : CharSet) (text : List Char) : Option (List Char) :=
  if (text.takeWhile g.contains).isEmpty then none else some (text.dropWhile g.contains)

/-- A set of one character has this one only. -/
theorem contains_single (c d : Char) : (CharSet.single c).contains d = (c == d) := by
  rw [Bool.eq_iff_iff, beq_iff_eq, CharSet.single, CharSet.contains, Bool.and_eq_true,
    decide_eq_true_eq, decide_eq_true_eq]
  exact ⟨fun h => Char.le_antisymm h.1 h.2, fun h => h ▸ ⟨Char.le_refl _, Char.le_refl _⟩⟩

/-- A character that a set does not have is apart from the set. -/
theorem contains_single_eq_false {d : Char} (hd : g.contains d = false) :
    ∀ c, g.contains c = true → (CharSet.single d).contains c = false := by
  intro c hc
  rw [contains_single, beq_eq_false_iff_ne]
  rintro rfl
  cases hd.symm.trans hc

/-- A set passes one of its characters. -/
theorem passes_set (s : CharSet) (parts : List Expr) (rest : Way) :
    Passes [wayOf (.set s :: parts) rest] [wayOf parts rest] (behindSet? s) :=
  (leads_set s parts rest).passes

/-- A literal passes its text. -/
theorem passes_literal (piece : List Char) (parts : List Expr) (rest : Way) :
    Passes [wayOf (piece.map .char ++ parts) rest] [wayOf parts rest] (behindPiece? piece) := by
  induction piece with
  | nil => exact Passes.refl _
  | cons c piece ih =>
    have hread : behindPiece? (c :: piece) =
        fun text => (behindSet? (.single c) text).bind (behindPiece? piece) := by
      funext text
      cases text with
      | nil => rfl
      | cons d text =>
        rw [behindSet?, contains_single]
        cases hc : c == d <;> simp [behindPiece?, List.isPrefixOf, hc]
    rw [hread]
    exact (passes_set _ _ _).trans ih

/-- A repetition passes all of its characters that the text begins with, when the set behind it has
none of them. -/
theorem passes_star (more : List Expr) (rest : Way) (hmore : more = .set s :: parts)
    (hdisjoint : ∀ c, g.contains c = true → s.contains c = false) :
    Passes [wayOf (.star (.set g) true :: more) rest] [wayOf more rest]
      fun text => some (text.dropWhile g.contains) := by
  subst hmore
  have hagain := leads_star_again g s parts rest
  exact (hagain.passes_dropWhile (leads_set s parts rest) hdisjoint).of_leads hagain
    (leads_star g s parts rest)

/-- A repetition at the end of a part that may be left out passes its characters, of which there
must be one, when the set behind the part has none of them. -/
theorem passes_plus_upTo (g s : CharSet) (e : Expr) (parts : List Expr) (rest : Way)
    (hdisjoint : ∀ c, g.contains c = true → s.contains c = false) :
    Passes [wayOf [.plus (.set g) true] (.upTo e 0 true :: wayOf (.set s :: parts) rest)]
      [wayOf (.set s :: parts) rest] (behindRun? g) := by
  have hbegin : Leads [wayOf [.plus (.set g) true] (.upTo e 0 true :: wayOf (.set s :: parts) rest)]
      [(g, .star (.set g) true :: .upTo e 0 true :: wayOf (.set s :: parts) rest)] := by
    intro before after
    simp [wayOf, Expr.ofList, exploreWays, exploreWay, explore]
  have hagain : Leads [.star (.set g) true :: .upTo e 0 true :: wayOf (.set s :: parts) rest]
      [(g, .star (.set g) true :: .upTo e 0 true :: wayOf (.set s :: parts) rest),
        (s, wayOf parts rest)] := by
    intro before after
    have hne (a b c : Expr) : rest ≠ a :: b :: c :: rest :=
      ne_of_apply_ne List.length (by simp only [List.length_cons]; omega)
    cases parts <;>
      simp [wayOf, Expr.ofList, exploreWays, exploreWay, explore, Explore.optionalCopies,
        ne_cons_cons, hne]
  have hread : behindRun? g =
      fun text => (behindSet? g text).bind fun text => some (text.dropWhile g.contains) := by
    funext text
    cases text with
    | nil => rfl
    | cons c text =>
      cases hc : g.contains c <;> simp [behindRun?, behindSet?, hc]
  rw [hread]
  exact hbegin.passes.trans (hagain.passes_dropWhile (leads_set s parts rest) hdisjoint)

/-- A part that may be left out is passed where the text begins with it, when what follows begins in
the same way but has another second character. -/
theorem passes_optional {s a b : Char} {e : Expr} {ps qs : List Expr} {rest : Way}
    (he : e = .ofList (.char s :: .char a :: ps)) (hne : a ≠ b)
    (h : Passes [wayOf ps (.upTo e 0 true :: wayOf (.char s :: .char b :: qs) rest)]
      [wayOf (.char s :: .char b :: qs) rest] next?) :
    Passes [wayOf (.upTo e 1 true :: .char s :: .char b :: qs) rest]
      [wayOf (.char s :: .char b :: qs) rest]
      fun text => some (((behindPiece? [s, a] text).bind next?).getD text) where
  ends := nofun
  goesOn := by
    rintro before n best text behind ⟨⟩
    -- The first character is the same in the part and behind it, and the second one decides.
    have hbegin : Leads [wayOf (.upTo e 1 true :: .char s :: .char b :: qs) rest]
        [(.single s, wayOf (.char a :: ps) (.upTo e 0 true ::
          wayOf (.char s :: .char b :: qs) rest)), (.single s, wayOf (.char b :: qs) rest)] := by
      intro before after
      subst he
      cases qs <;>
        simp [wayOf, Expr.ofList, Expr.char, exploreWays, exploreWay, explore,
          Explore.optionalCopies, ne_cons_cons]
    have hsecond : Leads [wayOf (.char a :: ps) (.upTo e 0 true ::
        wayOf (.char s :: .char b :: qs) rest), wayOf (.char b :: qs) rest]
        [(.single a, wayOf ps (.upTo e 0 true :: wayOf (.char s :: .char b :: qs) rest)),
          (.single b, wayOf qs rest)] :=
      leads_two fun h => hne (CharSet.span.inj h).1
    have hleave : Leads [wayOf (.char s :: .char b :: qs) rest]
        [(.single s, wayOf (.char b :: qs) rest)] :=
      leads_set _ _ _
    have hleft : Leads [wayOf (.char b :: qs) rest] [(.single b, wayOf qs rest)] := leads_set _ _ _
    -- Where the part is missing, it makes no difference.
    have hmissing (hnone : behindPiece? [s, a] text = none) :
        matchFrom before [wayOf (.upTo e 1 true :: .char s :: .char b :: qs) rest] n best text =
          matchFrom before [wayOf (.char s :: .char b :: qs) rest] n best text := by
      match text with
      | [] => rw [hbegin.matchFrom_nil, hleave.matchFrom_nil]
      | c :: text =>
        rw [hbegin.matchFrom_cons, hleave.matchFrom_cons]
        cases hc : s == c with
        | false => simp [contains_single, hc]
        | true =>
          obtain rfl := beq_iff_eq.mp hc
          cases text with
          | nil => simp [contains_single, hsecond.matchFrom_nil, hleft.matchFrom_nil]
          | cons d text =>
            have hd : a ≠ d := by simpa [behindPiece?] using hnone
            simp [contains_single, hd, hsecond.matchFrom_cons, hleft.matchFrom_cons]
    cases hread : behindPiece? [s, a] text with
    | none =>
      refine ⟨List.suffix_refl _, before, ?_⟩
      rw [Option.bind_none, Option.getD_none, Nat.sub_self, Nat.add_zero]
      exact hmissing hread
    | some behind =>
      obtain rfl : text = s :: a :: behind := by
        obtain ⟨⟨tail, rfl⟩, rfl⟩ : [s, a] <+: text ∧ text.drop 2 = behind := by
          simpa [behindPiece?] using hread
        rfl
      have htwo : matchFrom before [wayOf (.upTo e 1 true :: .char s :: .char b :: qs) rest] n best
          (s :: a :: behind) = matchFrom (some a) [wayOf ps (.upTo e 0 true ::
            wayOf (.char s :: .char b :: qs) rest)] (n + 2) best behind := by
        simp [hbegin.matchFrom_cons, hsecond.matchFrom_cons, contains_single, hne.symm]
      rw [htwo, Option.bind_some]
      cases hnext : next? behind with
      | none =>
        -- The part breaks off, and what follows it does not begin here either.
        refine ⟨List.suffix_refl _, before, ?_⟩
        simp [h.ends hnext, hleave.matchFrom_cons, hleft.matchFrom_cons, contains_single, hne.symm]
      | some behind' =>
        obtain ⟨hsuffix, before', hgoes⟩ := h.goesOn (some a) (n + 2) best hnext
        have hlength : n + 2 + (behind.length - behind'.length) =
            n + ((s :: a :: behind).length - behind'.length) := by
          have hle := hsuffix.length_le
          simp only [List.length_cons]
          omega
        refine ⟨hsuffix.trans (List.suffix_append [s, a] behind), before', ?_⟩
        rw [hgoes, hlength]
        rfl

/-! ### The beginning and the end -/

/-- Ways that can be explored only where a condition holds are read there. -/
theorem matchFrom_of_guarded {a : Assertion} (h : exploreWays before text.head? ways =
      if a.holds before text.head? then exploreWays before text.head? ways' else []) :
    matchFrom before ways n none text =
      if a.holds before text.head? then matchFrom before ways' n none text else none := by
  rw [matchFrom.eq_def, h]
  cases hholds : a.holds before text.head? with
  | true =>
    rw [matchFrom.eq_def before ways']
    rfl
  | false => cases text <;> rfl

/-- An expression that begins with a condition is read where this holds. -/
theorem matchLength?_look (a : Assertion) (g s : CharSet) (parts : List Expr)
    (before : Option Char) (text : List Char) :
    (Expr.ofList (.look a :: .star (.set g) true :: .set s :: parts)).matchLength? before text =
      if a.holds before text.head?
        then matchFrom before [wayOf (.star (.set g) true :: .set s :: parts) []] 0 none text
        else none := by
  refine matchFrom_of_guarded ?_
  cases parts <;> cases hholds : a.holds before text.head? <;>
    simp [wayOf, Expr.ofList, exploreWays, exploreWay, explore, hholds]

/-- An expression that begins with nothing and a condition is read where this holds. -/
theorem matchLength?_empty_look (a : Assertion) (g s : CharSet) (parts : List Expr)
    (before : Option Char) (text : List Char) :
    (Expr.ofList (.empty :: .look a :: .star (.set g) true :: .set s :: parts)).matchLength? before
      text = if a.holds before text.head?
        then matchFrom before [wayOf (.star (.set g) true :: .set s :: parts) []] 0 none text
        else none := by
  refine matchFrom_of_guarded ?_
  cases parts <;> cases hholds : a.holds before text.head? <;>
    simp [wayOf, Expr.ofList, exploreWays, exploreWay, explore, hholds]

/-- The end of an expression matches nothing more. -/
theorem matchFrom_end : matchFrom before [wayOf [] []] n best text = some n := by
  have hexplore : exploreWays before text.head? [wayOf [] []] = [.matched] := by
    simp [wayOf, exploreWays, exploreWay]
  rw [matchFrom.eq_def, hexplore]
  cases text <;> rfl

/-- A repetition that has been begun at the end matches all of its characters that follow. -/
theorem matchFrom_star_end (g : CharSet) :
    matchFrom before [[.star (.set g) true]] n best text =
      some (n + (text.takeWhile g.contains).length) := by
  have hexplore (before after : Option Char) : exploreWays before after [[.star (.set g) true]] =
      [.takes g [.star (.set g) true], .matched] := by
    simp [exploreWays, exploreWay, explore]
  induction text generalizing before n best with
  | nil =>
    rw [matchFrom.eq_def, hexplore]
    rfl
  | cons c text ih =>
    rw [matchFrom.eq_def, hexplore]
    cases hc : g.contains c with
    | true => simp [cutAtMatch, hc, ih, Nat.add_assoc, Nat.add_comm 1]
    | false => simp [cutAtMatch, hc]

/-- The characters of a set that a text begins with, when there are any. -/
def run? (g : CharSet) (text : List Char) : Option (List Char) :=
  let run := text.takeWhile g.contains
  if run.isEmpty then none else some run

/-- A run stands at the front of its text. -/
theorem isPrefix_of_run? {run : List Char} (h : run? g text = some run) : run <+: text := by
  obtain ⟨-, rfl⟩ : text.takeWhile g.contains ≠ [] ∧ text.takeWhile g.contains = run := by
    simpa [run?] using h
  exact List.takeWhile_prefix _

/-- A repetition at the end matches all of its characters that the text begins with. -/
theorem matchFrom_plus_end (g : CharSet) :
    matchFrom before [wayOf [.plus (.set g) true] []] n none text =
      (run? g text).map fun run => n + run.length := by
  have hleads : Leads [wayOf [.plus (.set g) true] []] [(g, [.star (.set g) true])] := by
    intro before after
    simp [wayOf, Expr.ofList, exploreWays, exploreWay, explore]
  cases text with
  | nil => exact hleads.matchFrom_nil
  | cons c text =>
    rw [hleads.matchFrom_cons]
    cases hc : g.contains c with
    | true => simp [run?, hc, matchFrom_star_end, Nat.add_assoc, Nat.add_comm 1]
    | false => simp [run?, hc]

/-! ### Captures -/

/-- What stands, at the front of a text, behind the match of a head in the match of an
expression. -/
def Expr.captureAt? (e head : Expr) (before : Option Char) (text : List Char) :
    Option (List Char) :=
  (e.matchLength? before text).map fun length =>
    (text.take length).drop ((head.matchLength? before text).getD 0)

/-- What stands behind the match of a head in the leftmost match of an expression; `before` is the
character before the text. -/
def Expr.captureFrom? (e head : Expr) (before : Option Char) : List Char → Option (List Char)
  | [] => e.captureAt? head before []
  | c :: text => (e.captureAt? head before (c :: text)).or (e.captureFrom? head (some c) text)

/-- Where a condition holds, stages are read one after the other and the repetition behind them is
captured. -/
theorem captureAt?_eq {w : CharSet} {a : Assertion} {stages : List Expr → List Expr}
    (h : ∀ more, Passes [wayOf (.star (.set g) true :: .set s :: stages more) []] [wayOf more []]
      read?) :
    (Expr.ofList (.empty :: .look a :: .star (.set g) true :: .set s ::
        stages [.plus (.set w) true])).captureAt?
      (.ofList (.empty :: .look a :: .star (.set g) true :: .set s :: stages [])) before text =
      if a.holds before text.head? then (read? text).bind (run? w) else none := by
  rw [Expr.captureAt?, matchLength?_empty_look, matchLength?_empty_look]
  cases a.holds before text.head? with
  | false => rfl
  | true =>
    simp only [if_true]
    cases hread : read? text with
    | none =>
      rw [(h [.plus (.set w) true]).ends hread]
      rfl
    | some behind =>
      obtain ⟨⟨piece, rfl⟩, _, hwhole⟩ := (h [.plus (.set w) true]).goesOn before 0 none hread
      obtain ⟨-, _, hhead⟩ := (h []).goesOn before 0 none hread
      have hlength : (piece ++ behind).length - behind.length = piece.length := by simp
      rw [hwhole, hhead, matchFrom_plus_end, matchFrom_end, hlength, Nat.zero_add]
      cases hrun : run? w behind with
      | none => simp [hrun]
      | some run =>
        obtain ⟨rest, rfl⟩ := isPrefix_of_run? hrun
        simp only [Option.map_some, Option.getD_some, Option.bind_some, hrun,
          List.take_length_add_append, List.take_left, List.drop_left]

end Retrace.Pattern
