import Retrace.Proofs.Resolve

/-!
# The mark of route modules

Bundlers put a mark in front of the names of route modules, and it is removed from the file of a
position. What loses it is not the name of the source but its path behind the common root, and the
first occurrence goes, wherever it is. So the mark is removed in front of the name, and nothing else
is, exactly where the root does not hold it and the name holds it in front or not at all
(`resolve_file_spec`).

The argument follows the path: it is the name behind a front that ends in a slash
(`exists_isFront`). As the mark has no slash, its first occurrence lies in the front, or it is the
first one in the name (`IsFront.removeFirst_eq_iff`).
-/

namespace Retrace.SourceMap

/-- A name without the mark of route modules in front of it, if it has one. -/
def IsUnprefixed (source name : String) : Prop :=
  source = routeModuleMark ++ name ∨ (¬ routeModuleMark.toList <+: source.toList ∧ name = source)

/-- The common root does not hold the mark of route modules, and the name of the source holds it in
front or not at all. -/
def MarkedInFront (root : Option String) (source : String) : Prop :=
  (∀ r ∈ root, ¬ routeModuleMark.toList <:+: r.toList) ∧
    (routeModuleMark.toList <+: source.toList ∨ ¬ routeModuleMark.toList <:+: source.toList)

/-- What stands in front of the names of all sources behind a common root. -/
structure IsFront (root : Option String) (front : List Char) : Prop where
  /-- The path of a source is its name behind the front. -/
  path_iff : ∀ source path, IsPathBehind root source path ↔ path.toList = front ++ source.toList
  /-- The front is empty, or a slash ends it. -/
  ends : front = [] ∨ ∃ stem, front = stem ++ ['/']
  /-- The front holds the mark of route modules if the root does. -/
  mark_iff : routeModuleMark.toList <:+: front ↔
    ∃ r ∈ root, routeModuleMark.toList <:+: r.toList

variable {source : String}

/-! ### The front of the names -/

/-- The mark has characters. -/
theorem routeModuleMark_ne_nil : routeModuleMark.toList ≠ [] := by decide

/-- The mark has no slash. -/
theorem slash_notMem_routeModuleMark : '/' ∉ routeModuleMark.toList := by decide

/-- Slashes at the end do not matter for the mark. -/
theorem mark_infix_append_iff {stem slashes : List Char} (h : ∀ c ∈ slashes, c = '/') :
    routeModuleMark.toList <:+: stem ++ slashes ↔ routeModuleMark.toList <:+: stem := by
  refine ⟨fun hoccurs => ?_, fun hoccurs => hoccurs.trans (List.prefix_append _ _).isInfix⟩
  cases slashes with
  | nil => rwa [List.append_nil] at hoccurs
  | cons c slashes =>
    obtain rfl : c = '/' := h c List.mem_cons_self
    rcases Text.infix_or_infix_of_infix slash_notMem_routeModuleMark hoccurs with hstem | hslashes
    · exact hstem
    · have hcolon : ':' ∈ slashes := hslashes.subset (by decide)
      exact absurd (h ':' (List.mem_cons_of_mem _ hcolon)) (by decide)

/-- What is left of a root without the slashes at its end is told by the root. -/
theorem eq_stem_of_append {root stem slashes : List Char} (hroot : root = stem ++ slashes)
    (hslashes : ∀ c ∈ slashes, c = '/') (hlast : stem.getLast? ≠ some '/') :
    stem = Text.dropTrailing (fun c => decide (c = '/')) root := by
  have hkept : ∀ c ∈ stem.getLast?, decide (c = '/') = false := by
    intro c hc
    rw [decide_eq_false_iff_not]
    rintro rfl
    exact hlast hc
  rw [hroot, Text.dropTrailing_append (by simpa using hslashes), Text.dropTrailing_eq_self hkept]

/-- Behind a root with characters, the front is the root up to the slashes at its end, and one slash
more. -/
theorem isFront_of_ne_empty {root : String} (hroot : root ≠ "") :
    IsFront (some root) (Text.dropTrailing (fun c => decide (c = '/')) root.toList ++ ['/']) := by
  obtain ⟨slashes, hsplit, hslashes, hlast⟩ :=
    Text.dropTrailing_spec (fun c => decide (c = '/')) root.toList
  have hslashes : ∀ c ∈ slashes, c = '/' := by simpa using hslashes
  have hlast : (Text.dropTrailing (fun c => decide (c = '/')) root.toList).getLast? ≠ some '/' :=
    fun h => by simpa using hlast _ h
  refine ⟨fun source path => ?_, .inr ⟨_, rfl⟩, ?_⟩
  · rw [IsPathBehind, if_neg hroot, List.append_assoc, List.singleton_append]
    constructor
    · rintro ⟨stem, others, hroot, hothers, hstem, hpath⟩
      rw [← eq_stem_of_append hroot hothers hstem, hpath]
    · intro hpath
      exact ⟨_, slashes, hsplit, hslashes, hlast, hpath⟩
  · rw [mark_infix_append_iff (by simp)]
    simp only [Option.mem_def, Option.some.injEq, exists_eq_left']
    conv_rhs => rw [hsplit]
    exact (mark_infix_append_iff hslashes).symm

/-- There is a front of the names behind each common root. -/
theorem exists_isFront (root : Option String) : ∃ front, IsFront root front := by
  cases root with
  | none =>
    refine ⟨[], fun source path => ?_, .inl rfl, ?_⟩
    · rw [List.nil_append, String.toList_inj]
      rfl
    · rw [List.infix_nil]
      exact ⟨fun h => absurd h routeModuleMark_ne_nil, nofun⟩
  | some root =>
    by_cases hroot : root = ""
    · -- An empty root counts as none.
      refine ⟨[], fun source path => ?_, .inl rfl, ?_⟩
      · rw [List.nil_append, String.toList_inj]
        simp [IsPathBehind, hroot]
      · rw [hroot]
        simp
    · exact ⟨_, isFront_of_ne_empty hroot⟩

/-! ### The file of a position -/

/-- Behind a front that does not hold the mark, the mark is removed from the name. -/
theorem IsFront.removeFirst_append {root : Option String} {front : List Char}
    (h : IsFront root front) (hfront : ¬ routeModuleMark.toList <:+: front) (name : List Char) :
    Text.removeFirst routeModuleMark.toList (front ++ name) =
      front ++ Text.removeFirst routeModuleMark.toList name := by
  rcases h.ends with rfl | ⟨stem, rfl⟩
  · rfl
  · have hstem : ¬ routeModuleMark.toList <:+: stem := fun hstem =>
      hfront (hstem.trans (List.prefix_append _ _).isInfix)
    rw [List.append_assoc, List.append_assoc, List.singleton_append, List.singleton_append,
      Text.removeFirst_append_cons routeModuleMark_ne_nil slash_notMem_routeModuleMark hstem]

/-- No front ends in the mark. -/
theorem IsFront.ne_append_mark {root : Option String} {front : List Char} (h : IsFront root front)
    (kept : List Char) : kept ++ routeModuleMark.toList ≠ front := by
  intro heq
  have hlast : front.getLast? = some ':' := by
    rw [← heq, Text.getLast?_append_of_ne_nil routeModuleMark_ne_nil]
    decide
  rcases h.ends with rfl | ⟨stem, rfl⟩
  · cases hlast
  · rw [List.getLast?_concat] at hlast
    exact absurd hlast (by decide)

/-- Without its first mark a name is the one without the mark in front, if the mark is in front of
it or nowhere. -/
theorem removeFirst_name_iff :
    (∃ name, IsUnprefixed source name ∧
      Text.removeFirst routeModuleMark.toList source.toList = name.toList) ↔
    routeModuleMark.toList <+: source.toList ∨ ¬ routeModuleMark.toList <:+: source.toList := by
  constructor
  · rintro ⟨name, rfl | ⟨-, rfl⟩, heq⟩
    · rw [String.toList_append]
      exact .inl (List.prefix_append _ _)
    · exact .inr ((Text.removeFirst_eq_self_iff routeModuleMark_ne_nil).mp heq)
  · rintro (hbegins | hnot)
    · obtain ⟨name, hname⟩ := hbegins
      refine ⟨String.ofList name, .inl ?_, ?_⟩
      · rw [← String.toList_inj, String.toList_append, String.toList_ofList, hname]
      · rw [Text.removeFirst_eq_drop ⟨name, hname⟩, ← hname, List.drop_left, String.toList_ofList]
    · exact ⟨source, .inr ⟨fun hbegins => hnot hbegins.isInfix, rfl⟩,
        Text.removeFirst_of_not_infix hnot⟩

/-- The name alone loses the mark, and only in front, where the root does not hold the mark and the
name holds it in front or not at all. -/
theorem IsFront.removeFirst_eq_iff {root : Option String} {front : List Char}
    (h : IsFront root front) :
    (∃ name, IsUnprefixed source name ∧
      Text.removeFirst routeModuleMark.toList (front ++ source.toList) = front ++ name.toList) ↔
    MarkedInFront root source := by
  by_cases hfront : routeModuleMark.toList <:+: front
  · -- The front loses a mark, which nothing behind it can make up for.
    have hroot : ¬ MarkedInFront root source := fun hmarked => by
      obtain ⟨r, hr, hoccurs⟩ := h.mark_iff.mp hfront
      exact hmarked.1 r hr hoccurs
    refine iff_of_false ?_ hroot
    rintro ⟨name, hname, heq⟩
    rw [Text.removeFirst_append_of_infix routeModuleMark_ne_nil hfront] at heq
    rcases hname with rfl | ⟨-, rfl⟩
    · -- What is left of the front would have the mark of the name behind it.
      rw [String.toList_append, ← List.append_assoc] at heq
      exact h.ne_append_mark _ (List.append_cancel_right heq)
    · -- Nothing would be missing from the front.
      have hsame := List.append_cancel_right heq
      exact (Text.removeFirst_eq_self_iff routeModuleMark_ne_nil).mp hsame hfront
  · have hroot : ∀ r ∈ root, ¬ routeModuleMark.toList <:+: r.toList := fun r hr hoccurs =>
      hfront (h.mark_iff.mpr ⟨r, hr, hoccurs⟩)
    have hname : MarkedInFront root source ↔ routeModuleMark.toList <+: source.toList ∨
        ¬ routeModuleMark.toList <:+: source.toList := and_iff_right hroot
    rw [hname, ← removeFirst_name_iff, h.removeFirst_append hfront]
    simp only [List.append_cancel_left_eq]

/-- The file that is found for a position: a file is found only for positions that come from a
source, and for all of these but those of the greatest line, if the next line is refused. It is the
path of the source without the first mark of route modules in it. That is the path of the name
without the mark in front, if it has one, exactly where the root does not hold the mark and the name
holds it in front or not at all. -/
theorem resolve_file_spec (m : SourceMap) (overflow : Overflow) (line column : UInt32) :
    (∀ position, m.resolve? overflow line column = some (.ok position) →
      ∃ o source, m.ComesFrom line column o source) ∧
    ∀ o source, m.ComesFrom line column o source →
      (m.resolve? overflow line column = none ↔
        overflow = .refused ∧ o.line.toNat = 2 ^ 32 - 1) ∧
      ∀ result, m.resolve? overflow line column = some result →
        ∃ position, result = .ok position ∧
          (∃ path, IsPathBehind m.sourceRoot source path ∧
            Text.LosesFirst routeModuleMark.toList path.toList position.file.toList) ∧
          ((∃ name, IsUnprefixed source name ∧ IsPathBehind m.sourceRoot name position.file) ↔
            MarkedInFront m.sourceRoot source) := by
  refine ⟨fun position hresolve => ?_, fun o source hfrom => ⟨?_, fun result hresult => ?_⟩⟩
  · rcases m.exists_fault_or_comesFrom overflow line column with ⟨fault, hfault⟩ | hfrom
    · cases hfault.symm.trans hresolve
    · exact hfrom
  · rw [hfrom.resolve?_eq, Option.map_eq_none_iff, Overflow.next?_eq_none_iff]
  · rw [hfrom.resolve?_eq] at hresult
    obtain ⟨next, -, rfl⟩ := Option.map_eq_some_iff.mp hresult
    obtain ⟨front, hfront⟩ := exists_isFront m.sourceRoot
    have hpath := isPathBehind_sourcePath m source
    refine ⟨_, rfl, ⟨_, hpath, ?_⟩, ?_⟩
    · rw [positionOf, String.toList_ofList]
      exact Text.losesFirst_removeFirst _ _
    · rw [← hfront.removeFirst_eq_iff]
      refine exists_congr fun name => and_congr_right fun _ => ?_
      rw [hfront.path_iff, positionOf, String.toList_ofList, (hfront.path_iff _ _).mp hpath]

/-- A name that has the mark in front is found without it behind a root. -/
theorem resolve_file_spec_root :
    let m : SourceMap := ⟨3, some "src/", ["route-module:a.ts"], none, "AAAA"⟩
    m.ComesFrom 1 7 ⟨0, 0, 0, none⟩ "route-module:a.ts" ∧
      MarkedInFront (some "src/") "route-module:a.ts" ∧
      ∃ position, m.resolve? .refused 1 7 = some (.ok position) ∧
        (∃ o source, m.ComesFrom 1 7 o source) ∧
        ∃ name, IsUnprefixed "route-module:a.ts" name ∧
          IsPathBehind (some "src/") name position.file := by
  intro m
  have hread : Mappings.readList "AAAA".toList = .ok [⟨0, 0, some ⟨0, 0, 0, none⟩⟩] := by rfl
  have hnearest : IsNearest [⟨0, 0, some ⟨0, 0, 0, none⟩⟩] (1 - 1) 7
      ⟨0, 0, some ⟨0, 0, 0, none⟩⟩ := ⟨rfl, by decide, rfl⟩
  have hfrom : m.ComesFrom 1 7 ⟨0, 0, 0, none⟩ "route-module:a.ts" :=
    ⟨rfl, by decide, ⟨_, _, hread, hnearest, rfl⟩, rfl⟩
  have hmarked : MarkedInFront (some "src/") "route-module:a.ts" := by
    refine ⟨fun root hroot => ?_, .inl (by decide +kernel)⟩
    obtain rfl : "src/" = root := Option.mem_some.mp hroot
    decide +kernel
  obtain ⟨hsource, hresolves⟩ := resolve_file_spec m .refused 1 7
  obtain ⟨hnone, hfile⟩ := hresolves _ _ hfrom
  have hanswered : m.resolve? .refused 1 7 ≠ none := fun h =>
    absurd (hnone.mp h).2 (by decide)
  obtain ⟨result, hresult⟩ := Option.ne_none_iff_exists'.mp hanswered
  obtain ⟨position, rfl, -, hname⟩ := hfile result hresult
  exact ⟨hfrom, hmarked, position, hresult, hsource position hresult, hname.mpr hmarked⟩

/-- A name that holds the mark behind a folder loses it there. -/
theorem resolve_mark_behind_folder :
    let m : SourceMap := ⟨3, none, ["src/route-module:a.ts"], none, "AAAA"⟩
    m.resolve? .refused 1 0 = some (.ok ⟨"src/a.ts", 1, 0, none⟩) ∧
      m.ComesFrom 1 0 ⟨0, 0, 0, none⟩ "src/route-module:a.ts" ∧
      ¬ ∃ name, IsUnprefixed "src/route-module:a.ts" name ∧ IsPathBehind none name "src/a.ts" := by
  intro m
  have hread : Mappings.readList "AAAA".toList = .ok [⟨0, 0, some ⟨0, 0, 0, none⟩⟩] := by rfl
  have hnearest : IsNearest [⟨0, 0, some ⟨0, 0, 0, none⟩⟩] (1 - 1) 0
      ⟨0, 0, some ⟨0, 0, 0, none⟩⟩ := ⟨rfl, by decide, rfl⟩
  have hfrom : m.ComesFrom 1 0 ⟨0, 0, 0, none⟩ "src/route-module:a.ts" :=
    ⟨rfl, by decide, ⟨_, _, hread, hnearest, rfl⟩, rfl⟩
  have hfile : (m.positionOf ⟨"src/route-module:a.ts", 0, 1, 0⟩) = ⟨"src/a.ts", 1, 0, none⟩ := by
    decide +kernel
  refine ⟨?_, hfrom, ?_⟩
  · rw [hfrom.resolve?_eq, ← hfile]
    rfl
  · rintro ⟨name, hname, hpath⟩
    obtain rfl : "src/a.ts" = name := hpath
    rcases hname with hmark | ⟨-, hsame⟩
    · exact absurd hmark (by decide +kernel)
    · exact absurd hsame (by decide +kernel)

end Retrace.SourceMap
