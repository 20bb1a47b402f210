import Mathlib.Data.List.Induction
import Retrace.Proofs.Pattern.Stages
import Retrace.Proofs.Settings.Rules

/-!
# The prefix that is removed by default

Some bundlers put a build directory and the name of a route in front of a path. The pattern that is
removed by default takes this prefix off: characters that are not colons, as many as there are, and a
literal whose last character is a colon. A path may hold more colons and the literal again, and yet
there is no choice: the match ends at the first colon, if the literal does
(`matchLength?_append_cons`).

The argument follows the search. After characters that are not colons two things may come next, one
more of them or the part of the literal that is still lacking (`lacking`), and as the literal does
not hold its first character again there is one such part at most. Every character keeps the search
in this state (`matchFrom_append`), and what is lacking says what was read last
(`foldl_lacking_eq_iff`), so that at the colon only the colon is lacking exactly if the rest of the
literal was read before. As the pattern matches at the start of a path only, nothing else is removed
(`eq_of_anchored`).
-/

namespace Retrace

namespace Pattern

/-! ### A literal that ends a run -/

/-- What a literal still lacks behind one more character, where it lacked `part` before; `more` is
the literal behind its first character. Nothing is lacking where the literal has not begun. -/
def lacking (first : Char) (more part : List Char) (c : Char) : List Char :=
  if c = first then more else if part.head? = some c then part.tail else []

/-- The ways behind characters of a set that is repeated in front of a literal, which lacks `part`:
the repetition goes on, or the literal does. -/
def waysAmid (g : CharSet) (first : Char) (more part : List Char) : List Way :=
  (.star (.set g) true :: wayOf ((first :: more).map .char) []) ::
    if part.isEmpty then [] else [wayOf (part.map .char) []]

variable {g : CharSet} {mark first : Char} {more part : List Char} {before : Option Char} {n : Nat}
  {best : Option Nat} {c : Char} {run text : List Char}

/-- What was read last is the beginning of a literal, either the last character alone or together
with such a beginning before it. -/
theorem cons_suffix_concat_iff {read : List Char} : first :: read <:+ run ++ [c] ↔
    (c = first ∧ read = []) ∨ ∃ read', read = read' ++ [c] ∧ first :: read' <:+ run := by
  rw [List.suffix_concat_iff]
  constructor
  · rintro (hnil | ⟨_ | ⟨_, read'⟩, hread, hsuffix⟩)
    · cases hnil
    · obtain ⟨rfl, rfl⟩ := List.cons.inj hread
      exact .inl ⟨rfl, rfl⟩
    · obtain ⟨rfl, rfl⟩ := List.cons.inj hread
      exact .inr ⟨read', rfl, hsuffix⟩
  · rintro (⟨rfl, rfl⟩ | ⟨read', rfl, hsuffix⟩)
    · exact .inr ⟨[], rfl, List.nil_suffix⟩
    · exact .inr ⟨first :: read', rfl, hsuffix⟩

/-- A literal that does not hold its first character again lacks a part behind some characters
exactly if what comes before the part was read last. -/
theorem foldl_lacking_eq_iff (hfirst : first ∉ more) (hpart : part ≠ []) :
    run.foldl (lacking first more) [] = part ↔
      ∃ read, read ++ part = more ∧ first :: read <:+ run := by
  -- The last character decides, so that the induction is from the end, and for all parts at once.
  induction run using List.reverseRecOn generalizing part with
  | nil => simp [hpart.symm]
  | append_singleton run c ih =>
    have hbegun := ih (List.cons_ne_nil c part)
    simp only [List.foldl_concat, lacking, cons_suffix_concat_iff]
    by_cases hc : c = first
    · -- The literal begins here, and nothing that was begun before goes on.
      rw [if_pos hc]
      constructor
      · exact fun h => ⟨[], h.symm, .inl ⟨hc, rfl⟩⟩
      · rintro ⟨read, rfl, ⟨-, rfl⟩ | ⟨read', rfl, -⟩⟩
        · rfl
        · exact absurd (by simp [hc]) hfirst
    · rw [if_neg hc]
      constructor
      · intro h
        by_cases hhead : (run.foldl (lacking first more) []).head? = some c
        · -- The part that was lacking has the character in front.
          rw [if_pos hhead] at h
          obtain ⟨read, hread, hsuffix⟩ := hbegun.mp (h ▸ List.eq_cons_of_mem_head? hhead)
          exact ⟨read ++ [c], by rw [← hread, List.append_assoc]; rfl, .inr ⟨read, rfl, hsuffix⟩⟩
        · rw [if_neg hhead] at h
          exact absurd h.symm hpart
      · rintro ⟨read, rfl, ⟨rfl, -⟩ | ⟨read', rfl, hsuffix⟩⟩
        · exact absurd rfl hc
        · rw [hbegun.mpr ⟨read', by simp, hsuffix⟩]
          exact if_pos rfl

/-- A literal is complete but for its last character exactly if the rest of it was read last. -/
theorem foldl_lacking_eq_mark_iff (hfirst : first ∉ more ++ [mark]) :
    run.foldl (lacking first (more ++ [mark])) [] = [mark] ↔ first :: more <:+ run := by
  rw [foldl_lacking_eq_iff hfirst (List.cons_ne_nil mark [])]
  constructor
  · rintro ⟨read, hread, hsuffix⟩
    rwa [← List.append_cancel_right hread]
  · exact fun hsuffix => ⟨more, rfl, hsuffix⟩

/-- What is lacking is an end of the literal. -/
theorem lacking_suffix (hpart : part <:+ more) (c : Char) : lacking first more part c <:+ more := by
  unfold lacking
  split_ifs
  · exact List.suffix_refl more
  · exact (List.tail_suffix part).trans hpart
  · exact List.nil_suffix

/-- What is lacking behind some characters is an end of the literal. -/
theorem foldl_lacking_suffix (run : List Char) :
    run.foldl (lacking first more) [] <:+ more :=
  List.foldlRecOn (motive := (· <:+ more)) run _ List.nil_suffix fun _ hpart c _ =>
    lacking_suffix hpart c

/-! ### The search -/

/-- Amid the characters of the set one more of them is taken, the first character of the literal, or
the one that is lacking next. -/
theorem leads_waysAmid (hfirst : first ∉ more) (hpart : part <:+ more) :
    Leads (waysAmid g first more part) <|
      (g, .star (.set g) true :: wayOf ((first :: more).map .char) []) ::
        (.single first, wayOf (more.map .char) []) ::
        match part with
        | [] => []
        | b :: part => [(.single b, wayOf (part.map .char) [])] := by
  cases part with
  | nil => exact leads_star_again g (.single first) (more.map .char) []
  | cons b part =>
    have hne : CharSet.single first ≠ CharSet.single b := by
      intro h
      obtain rfl : first = b := (CharSet.span.inj h).1
      exact hfirst (hpart.subset List.mem_cons_self)
    exact leads_star_two g hne

/-- A character of the set leaves the search amid such characters, unless it completes the
literal. -/
theorem matchFrom_waysAmid_cons (hfirst : first ∉ more) (hpart : part <:+ more) (hmore : more ≠ [])
    (hc : g.contains c = true) (hlast : part ≠ [c]) :
    matchFrom before (waysAmid g first more part) n best (c :: text) =
      matchFrom (some c) (waysAmid g first more (lacking first more part c)) (n + 1) best text := by
  rw [(leads_waysAmid hfirst hpart).matchFrom_cons]
  have hwaysMore : waysAmid g first more more =
      [.star (.set g) true :: wayOf ((first :: more).map .char) [],
        wayOf (more.map .char) []] := by
    rw [waysAmid, if_neg (by simpa using hmore)]
  -- The literal begins with the character, goes on with it, or is left to the repetition.
  cases part with
  | nil =>
    by_cases hcfirst : c = first
    · subst hcfirst
      simp [contains_single, hc, lacking, hwaysMore]
    · simp [contains_single, hc, lacking, hcfirst, Ne.symm hcfirst, waysAmid]
  | cons b part =>
    have hbfirst : b ≠ first := by
      rintro rfl
      exact hfirst (hpart.subset List.mem_cons_self)
    by_cases hcfirst : c = first
    · subst hcfirst
      simp [contains_single, hc, lacking, hwaysMore, hbfirst]
    · by_cases hcb : b = c
      · subst hcb
        have hrest : part ≠ [] := fun hnil => hlast (by rw [hnil])
        simp [contains_single, hc, lacking, hcfirst, Ne.symm hcfirst, waysAmid, hrest]
      · simp [contains_single, hc, lacking, hcfirst, Ne.symm hcfirst, hcb, waysAmid]

/-- A mark closes a literal: it is the only character that is not in a set, and it stands at the end
of the literal only. The first character of the literal stands at its beginning only. -/
structure Closes (mark : Char) (g : CharSet) (first : Char) (more : List Char) : Prop where
  /-- The set has all characters but the mark. -/
  contains_iff : ∀ c, g.contains c = true ↔ c ≠ mark
  /-- The mark is not in front of the end. -/
  mark_notMem : mark ∉ more
  /-- The first character is not behind the beginning. -/
  first_notMem : first ∉ more ++ [mark]

namespace Closes

/-- Something that is lacking ends in the mark, and holds it at the end only. -/
theorem eq_concat (h : Closes mark g first more) (hpart : part <:+ more ++ [mark])
    (hne : part ≠ []) : ∃ front, part = front ++ [mark] ∧ mark ∉ front := by
  obtain hnil | ⟨front, hfront, hsuffix⟩ := List.suffix_concat_iff.mp hpart
  · exact absurd hnil hne
  · exact ⟨front, hfront, fun hmem => h.mark_notMem (hsuffix.subset hmem)⟩

/-- Characters that are not the mark leave the search amid such characters, with what the literal
lacks behind them. -/
theorem matchFrom_append (h : Closes mark g first more) (hpart : part <:+ more ++ [mark])
    (hrun : mark ∉ run) (before : Option Char) (n : Nat) :
    ∃ before', matchFrom before (waysAmid g first (more ++ [mark]) part) n best (run ++ text) =
      matchFrom before'
        (waysAmid g first (more ++ [mark]) (run.foldl (lacking first (more ++ [mark])) part))
        (n + run.length) best text := by
  induction run generalizing before part n with
  | nil => exact ⟨before, rfl⟩
  | cons c run ih =>
    obtain ⟨hc, hrun⟩ : mark ≠ c ∧ mark ∉ run := by simpa using hrun
    have hlast : part ≠ [c] := by
      rintro rfl
      obtain ⟨front, hfront, -⟩ := h.eq_concat hpart (List.cons_ne_nil c [])
      have hmem : mark ∈ [c] := hfront ▸ List.mem_append_right front List.mem_cons_self
      exact hc (List.mem_singleton.mp hmem)
    obtain ⟨before', hbehind⟩ := ih (lacking_suffix hpart c) hrun (some c) (n + 1)
    refine ⟨before', ?_⟩
    rw [List.cons_append, matchFrom_waysAmid_cons h.first_notMem hpart (by simp)
      ((h.contains_iff c).mpr hc.symm) hlast, hbehind, List.foldl_cons, List.length_cons,
      Nat.add_assoc, Nat.add_comm 1]

/-- At the mark the search ends, with a match if nothing else was lacking. -/
theorem matchFrom_cons (h : Closes mark g first more) (hpart : part <:+ more ++ [mark]) :
    matchFrom before (waysAmid g first (more ++ [mark]) part) n best (mark :: text) =
      if part = [mark] then some (n + 1) else best := by
  have hg : g.contains mark = false := by simpa using (h.contains_iff mark).not
  have hne : first ≠ mark := fun heq => h.first_notMem (by simp [heq])
  rw [(leads_waysAmid h.first_notMem hpart).matchFrom_cons]
  cases part with
  | nil => simp [contains_single, hg, hne]
  | cons b part =>
    by_cases hb : b = mark
    · -- Nothing is lacking behind the mark.
      subst hb
      obtain ⟨front, hfront, hnotMem⟩ := h.eq_concat hpart (List.cons_ne_nil b part)
      cases front with
      | nil =>
        obtain rfl : part = [] := (List.cons.inj hfront).2
        simp [contains_single, hg, hne, matchFrom_end]
      | cons d front =>
        obtain rfl : b = d := (List.cons.inj hfront).1
        exact absurd List.mem_cons_self hnotMem
    · simp [contains_single, hg, hne, hb]

end Closes

/-! ### The expression -/

/-- The expression of the start of a text, characters of a set, as many as there are, and a literal
with a mark at its end. -/
def prefixExpr (g : CharSet) (first : Char) (more : List Char) (mark : Char) : Expr :=
  .ofList (.look .textStart :: .star (.set g) true :: (first :: more ++ [mark]).map .char)

/-- The expression matches at the start of a text only. -/
theorem matchLength?_prefixExpr_some :
    (prefixExpr g first more mark).matchLength? (some c) text = none :=
  matchLength?_look .textStart g (.single first) ((more ++ [mark]).map .char) (some c) text

/-- At the start of a text the search begins amid the characters of the set. -/
theorem matchLength?_prefixExpr_none : (prefixExpr g first more mark).matchLength? none text =
    matchFrom none (waysAmid g first (more ++ [mark]) []) 0 none text := by
  have hbegin := leads_star g (.single first) ((more ++ [mark]).map .char) []
  have hagain := leads_star_again g (.single first) ((more ++ [mark]).map .char) []
  exact (matchLength?_look .textStart g (.single first) _ none text).trans
    (hbegin.matchFrom_congr hagain)

namespace Closes

/-- Where the mark is missing, nothing matches. -/
theorem matchLength?_of_notMem (h : Closes mark g first more) (htext : mark ∉ text) :
    (prefixExpr g first more mark).matchLength? none text = none := by
  obtain ⟨before, hrun⟩ := h.matchFrom_append List.nil_suffix htext none 0
  rw [List.append_nil] at hrun
  rw [matchLength?_prefixExpr_none, hrun]
  exact (leads_waysAmid h.first_notMem (foldl_lacking_suffix text)).matchFrom_nil

/-- The match ends at the first mark, if the literal does. -/
theorem matchLength?_append_cons (h : Closes mark g first more) (hrun : mark ∉ run) :
    (prefixExpr g first more mark).matchLength? none (run ++ mark :: text) =
      if first :: more <:+ run then some (run.length + 1) else none := by
  obtain ⟨before, hamid⟩ := h.matchFrom_append List.nil_suffix hrun none 0
  rw [matchLength?_prefixExpr_none, hamid, h.matchFrom_cons (foldl_lacking_suffix run), Nat.zero_add]
  simp only [foldl_lacking_eq_mark_iff h.first_notMem]

end Closes

/-! ### Removing the match -/

/-- Of a rule that matches at the start of a text only, the match there is removed. -/
theorem Rule.LosesMatch.eq_of_anchored {rule : Rule} {left : List Char}
    (h : rule.LosesMatch text left)
    (hanchored : ∀ c text, rule.matchLength? (some c) text = none) :
    left = ((rule.matchLength? none text).map text.drop).getD text := by
  cases h with
  | unmatched hnone =>
    rw [show rule.matchLength? none text = none from hnone [] text rfl]
    rfl
  | @matched before after length hmatch =>
    -- A match that starts behind a character would have this one before it.
    cases hlast : before.getLast? with
    | none =>
      obtain rfl := List.getLast?_eq_none_iff.mp hlast
      simp only [List.nil_append, show rule.matchLength? none after = some length from hmatch]
      rfl
    | some c =>
      rw [hlast, hanchored] at hmatch
      cases hmatch

namespace Closes

/-- A text is cut behind the first mark, if the literal ends there, and is left as it is
otherwise. -/
theorem remove_append_cons (h : Closes mark g first more) (hrun : mark ∉ run) :
    (prefixExpr g first more mark).rule.remove (run ++ mark :: text) =
      if first :: more <:+ run then text else run ++ mark :: text := by
  have hloses := (prefixExpr g first more mark).rule.losesMatch_remove (run ++ mark :: text)
  rw [hloses.eq_of_anchored fun _ _ => matchLength?_prefixExpr_some, Expr.matchLength?_rule,
    h.matchLength?_append_cons hrun]
  split_ifs
  · simp
  · rfl

/-- A text without the mark is left as it is. -/
theorem remove_of_notMem (h : Closes mark g first more) (htext : mark ∉ text) :
    (prefixExpr g first more mark).rule.remove text = text := by
  have hloses := (prefixExpr g first more mark).rule.losesMatch_remove text
  rw [hloses.eq_of_anchored fun _ _ => matchLength?_prefixExpr_some, Expr.matchLength?_rule,
    h.matchLength?_of_notMem htext]
  rfl

end Closes

end Pattern

/-! ### The default pattern -/

namespace Cleanup

/-- A path has a route in front of another one: what stands before its first colon ends as the name
of a route, and the other path comes behind. -/
def IsRouted (path rest : String) : Prop :=
  ∃ front, path.toList = front ++ ':' :: rest.toList ∧ ':' ∉ front ∧ "route".toList <:+ front

/-- What the default pattern is read as. -/
def routePrefix : Pattern.Expr :=
  Pattern.prefixExpr (.compl (.union .none (.single ':'))) 'r' "oute".toList ':'

/-- The default pattern is an expression. -/
theorem read?_default : Pattern.read? ResolverLayer.defaultStripPattern = some routePrefix := by
  decide +kernel

/-- The cleanup of the default pattern has the rule of this expression. -/
theorem ofPatterns?_default :
    ofPatterns? .standard [ResolverLayer.defaultStripPattern] = some ⟨[routePrefix.rule]⟩ := by
  unfold ofPatterns?
  rw [List.mapM_cons, Pattern.Engine.compile?_standard, read?_default]
  rfl

/-- A colon closes the name of a route. -/
theorem closes_routePrefix :
    Pattern.Closes ':' (.compl (.union .none (.single ':'))) 'r' "oute".toList where
  contains_iff c := by
    show (!(false || (Pattern.CharSet.single ':').contains c)) = true ↔ c ≠ ':'
    rw [Pattern.contains_single, Bool.false_or, Bool.not_eq_true', beq_eq_false_iff_ne, ne_comm]
  mark_notMem := by decide
  first_notMem := by decide

/-- A path is cut behind its first colon, if the name of a route ends there, and is left as it is
otherwise. -/
theorem apply_routePrefix {path : String} {front rest : List Char}
    (hpath : path.toList = front ++ ':' :: rest) (hfront : ':' ∉ front) :
    apply ⟨[routePrefix.rule]⟩ path =
      if "route".toList <:+ front then String.ofList rest else path := by
  have hremove : routePrefix.rule.remove (front ++ ':' :: rest) =
      if "route".toList <:+ front then rest else front ++ ':' :: rest :=
    closes_routePrefix.remove_append_cons hfront
  show String.ofList (routePrefix.rule.remove path.toList) = _
  rw [hpath, hremove, apply_ite String.ofList, ← hpath, String.ofList_toList]

/-- A path without a colon is left as it is. -/
theorem apply_routePrefix_of_notMem {path : String} (hpath : ':' ∉ path.toList) :
    apply ⟨[routePrefix.rule]⟩ path = path := by
  show String.ofList (routePrefix.rule.remove path.toList) = path
  rw [routePrefix, closes_routePrefix.remove_of_notMem hpath, String.ofList_toList]

/-- Of a path with a route in front the rest is left. -/
theorem apply_of_isRouted {path rest : String} (h : IsRouted path rest) :
    apply ⟨[routePrefix.rule]⟩ path = rest := by
  obtain ⟨front, hpath, hfront, hroute⟩ := h
  rw [apply_routePrefix hpath hfront, if_pos hroute, String.ofList_toList]

/-- A path without a route in front is left as it is. -/
theorem apply_of_not_isRouted {path : String} (h : ∀ rest, ¬ IsRouted path rest) :
    apply ⟨[routePrefix.rule]⟩ path = path := by
  by_cases hmem : ':' ∈ path.toList
  · obtain ⟨front, rest, hpath, hfront⟩ := List.eq_append_cons_of_mem hmem
    have hroute : ¬ "route".toList <:+ front := fun hroute =>
      h (String.ofList rest) ⟨front, by rw [hpath, String.toList_ofList], hfront, hroute⟩
    rw [apply_routePrefix hpath hfront, if_neg hroute]
  · exact apply_routePrefix_of_notMem hmem

/-- The path behind a route is not the path itself. -/
theorem IsRouted.ne {path rest : String} (h : IsRouted path rest) : rest ≠ path := by
  rintro rfl
  obtain ⟨front, hpath, -, -⟩ := h
  have hlength := congrArg List.length hpath
  rw [List.length_append, List.length_cons] at hlength
  omega

/-- The default pattern takes a route off the front of a path, and changes nothing else: a path is
changed exactly if the text before its first colon ends as the name of a route, and then what comes
behind this colon is left. So the real path comes out behind any build directory and the name of a
route, and a path behind a scheme or a drive that does not end so is left as it is. -/
theorem apply_default_spec :
    ∃ cleanup, ofPatterns? .standard [ResolverLayer.defaultStripPattern] = some cleanup ∧
      (∀ path rest, IsRouted path rest → cleanup.apply path = rest) ∧
      (∀ path, cleanup.apply path ≠ path ↔ ∃ rest, IsRouted path rest) ∧
      (∀ directory rest : String, ':' ∉ directory.toList →
        cleanup.apply (directory ++ "route:" ++ rest) = rest) ∧
      ∀ scheme rest : String, ':' ∉ scheme.toList → ¬ "route".toList <:+ scheme.toList →
        cleanup.apply (scheme ++ ":" ++ rest) = scheme ++ ":" ++ rest := by
  refine ⟨_, ofPatterns?_default, fun _ _ => apply_of_isRouted, fun path => ⟨fun hne => ?_, ?_⟩,
    fun directory rest hdirectory => ?_, fun scheme rest hscheme hroute => ?_⟩
  · by_contra hnone
    exact hne (apply_of_not_isRouted (not_exists.mp hnone))
  · rintro ⟨rest, hrest⟩
    rw [apply_of_isRouted hrest]
    exact hrest.ne
  · refine apply_of_isRouted ⟨directory.toList ++ "route".toList, ?_, ?_, List.suffix_append _ _⟩
    · simp [String.toList_append]
    · simp [hdirectory]
  · have hpath : (scheme ++ ":" ++ rest).toList = scheme.toList ++ ':' :: rest.toList := by
      simp [String.toList_append]
    rw [apply_routePrefix hpath hscheme, if_neg hroute]

/-- Of two routes the first one ends the prefix, and an address and a path without a colon are left as
they are. -/
theorem apply_default_spec_two_routes :
    ∃ cleanup, ofPatterns? .standard [ResolverLayer.defaultStripPattern] = some cleanup ∧
      cleanup.apply "/app/build/route:/app/route:\n.js" = "/app/route:\n.js" ∧
      cleanup.apply "https://localhost/route:/a.js" = "https://localhost/route:/a.js" ∧
      cleanup.apply "/app/route.js" = "/app/route.js" := by
  obtain ⟨cleanup, hcleanup, -, hchanged, hdirectory, hscheme⟩ := apply_default_spec
  refine ⟨cleanup, hcleanup, hdirectory "/app/build/" "/app/route:\n.js" (by decide),
    hscheme "https" "//localhost/route:/a.js" (by decide) (by decide), ?_⟩
  by_contra hne
  obtain ⟨rest, front, hpath, -, -⟩ := (hchanged "/app/route.js").mp hne
  have hcolon : ':' ∈ "/app/route.js".toList :=
    hpath ▸ List.mem_append_right front List.mem_cons_self
  exact absurd hcolon (by decide)

end Cleanup

end Retrace
