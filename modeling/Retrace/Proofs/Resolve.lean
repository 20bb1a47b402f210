import Retrace.Proofs.MappingTable
import Retrace.Proofs.Mappings.Reading
import Retrace.Proofs.Text
import Retrace.SourceMap.Resolve

/-!
# Resolving positions

What resolving a position gives is told by the mappings in the order of their text. Unless the
version or the mappings are refused, whatever the position is, the nearest mapping decides: without
one, or where it has no origin, the position is unmapped; otherwise its origin names a source, which
may not be listed, and the place in it.

The line that is found counts from one, the line of an origin from zero and up to the greatest
number of 32 bits. So the one is the other and one more everywhere but at this number, which a text
can reach (`findsLine_spec`). There the next line does not fit: nothing is answered, or line zero is
found, as the program is built (`Overflow.next?_eq_none_iff`, `Overflow.toNat_of_next?`).
-/

namespace Retrace

namespace Overflow

variable {overflow : Overflow} {n next : UInt32}

/-- There is no next number exactly where it is refused behind the greatest one. -/
theorem next?_eq_none_iff :
    overflow.next? n = none ↔ overflow = .refused ∧ n.toNat = 2 ^ 32 - 1 := by
  have hbound : n.toNat < UInt32.size := n.toNat_lt
  rw [next?, Option.map_eq_none_iff, sum?_eq_none_iff, UInt32.size] at *
  refine and_congr_right fun _ => ?_
  omega

/-- The next number is exact, but that it starts over behind the greatest one. -/
theorem toNat_of_next? (h : overflow.next? n = some next) :
    next.toNat = (n.toNat + 1) % 2 ^ 32 := by
  obtain ⟨sum, hsum, rfl⟩ := Option.map_eq_some_iff.mp h
  rw [UInt32.toNat_ofNat']
  cases overflow with
  | refused =>
    obtain ⟨-, hsum⟩ := Option.ite_none_right_eq_some.mp hsum
    rw [← Option.some.inj hsum]
  | wrapped =>
    obtain rfl := Option.some.inj hsum
    exact Nat.mod_mod _ _

/-- Below the greatest number there is a next one, and it is exact. -/
theorem exists_next?_of_lt (overflow : Overflow) (h : n.toNat < 2 ^ 32 - 1) :
    ∃ next, overflow.next? n = some next ∧ next.toNat = n.toNat + 1 := by
  cases hnext : overflow.next? n with
  | none => exact absurd (next?_eq_none_iff.mp hnext).2 (Nat.ne_of_lt h)
  | some next =>
    refine ⟨next, rfl, ?_⟩
    rw [toNat_of_next? hnext]
    exact Nat.mod_eq_of_lt (by omega)

/-- The next number is the exact one just where there is one below it that is not the greatest. -/
theorem next?_exact_iff (h : overflow.next? n = some next) :
    (next.toNat = n.toNat + 1 ↔ n.toNat < 2 ^ 32 - 1) ∧
      (1 ≤ next.toNat ↔ n.toNat < 2 ^ 32 - 1) := by
  have hbound := n.toNat_lt
  rw [toNat_of_next? h]
  omega

end Overflow

namespace SourceMap

/-- Which path a source has behind a common root: the root's slashes at the end do not count, and
one slash stands between. An empty root counts as none. -/
def IsPathBehind (root : Option String) (source path : String) : Prop :=
  match root with
  | none => path = source
  | some root =>
    if root = "" then path = source
    else ∃ stem slashes : List Char, root.toList = stem ++ slashes ∧ (∀ c ∈ slashes, c = '/') ∧
      stem.getLast? ≠ some '/' ∧ path.toList = stem ++ '/' :: source.toList

/-- The mark of route modules occurs neither in the common root nor in a source. -/
def Unmarked (root : Option String) (source : String) : Prop :=
  (∀ r ∈ root, ¬ routeModuleMark.toList <:+: r.toList) ∧
    ¬ routeModuleMark.toList <:+: source.toList

/-- A position of the generated text comes from an origin in a source that the map lists. -/
structure ComesFrom (m : SourceMap) (line column : UInt32) (o : Origin) (source : String) :
    Prop where
  /-- The map can be read. -/
  version : m.version = 3
  /-- Lines count from one. -/
  line_ne : line ≠ 0
  /-- The nearest mapping has the origin. -/
  exists_nearest : ∃ mappings e, Mappings.readList m.mappings.toList = .ok mappings ∧
    IsNearest mappings (line - 1) column e ∧ e.origin = some o
  /-- The source of the origin is listed. -/
  listed : m.sources[o.sourceIndex.toNat]? = some source

variable {m : SourceMap} {overflow : Overflow} {line column : UInt32} {o : Origin} {source : String}

/-- Another version than three is refused. -/
theorem index_of_version_ne (h : m.version ≠ 3) : m.index = .error (.version m.version) := by
  unfold index
  rw [checkVersion, if_neg (show m.version ≠ supportedVersion from h)]
  rfl

/-- The mappings of version three are read. -/
theorem index_of_version_eq (h : m.version = 3) :
    m.index = (Mappings.readList m.mappings.toList).map fun mappings => ⟨m, .ofList mappings⟩ := by
  unfold index
  rw [checkVersion, if_pos (show m.version = supportedVersion from h), Mappings.read]
  cases Mappings.readList m.mappings.toList <;> rfl

/-- The origin of a position is that of the nearest mapping. -/
theorem originAt?_eq_some_iff {mappings : List Mapping} {line column : UInt32} {o : Origin} :
    (IndexedMap.mk m (.ofList mappings)).originAt? line column = some o ↔
      line ≠ 0 ∧ ∃ e, IsNearest mappings (line - 1) column e ∧ e.origin = some o := by
  unfold IndexedMap.originAt?
  split
  next h => simp [h]
  next h => simp [h, Option.bind_eq_some_iff, MappingTable.find?_ofList_eq_some_iff]

/-- A position is unmapped if it is on line zero, no mapping is near or the nearest one has no
origin. -/
theorem originAt?_eq_none_iff {mappings : List Mapping} {line column : UInt32} :
    (IndexedMap.mk m (.ofList mappings)).originAt? line column = none ↔
      line = 0 ∨ (∀ e ∈ mappings, e.isCandidate (line - 1) column = false) ∨
        ∃ e, IsNearest mappings (line - 1) column e ∧ e.origin = none := by
  unfold IndexedMap.originAt?
  split
  next h => simp [h]
  next h =>
    simp only [← MappingTable.find?_ofList_eq_none_iff, ← MappingTable.find?_ofList_eq_some_iff]
    cases (MappingTable.ofList mappings).find? (line - 1) column <;> simp [h]

/-- What resolving gives where version and mappings can be read. -/
theorem resolve?_eq (hversion : m.version = 3) {mappings : List Mapping}
    (hread : Mappings.readList m.mappings.toList = .ok mappings) (overflow : Overflow)
    (line column : UInt32) :
    m.resolve? overflow line column =
      match (IndexedMap.mk m (.ofList mappings)).originAt? line column with
      | none => some (.error (.unmapped line column))
      | some o =>
        match m.sources[o.sourceIndex.toNat]? with
        | none => some (.error (.malformedMap (.sourceIndex o.sourceIndex)))
        | some source => (overflow.next? o.line).map fun next =>
          .ok (m.positionOf ⟨m.sourcePath source, o.sourceIndex, next, o.column⟩) := by
  unfold resolve?
  rw [index_of_version_eq hversion, hread]
  dsimp only [Except.map]
  unfold IndexedMap.sourcePosition?
  cases (IndexedMap.mk m (.ofList mappings)).originAt? line column with
  | none => rfl
  | some o =>
    dsimp only
    cases m.sources[o.sourceIndex.toNat]? with
    | none => rfl
    | some source => exact Option.map_map _ _ _

/-- What comes from a source has an origin. -/
theorem ComesFrom.exists_originAt? (h : m.ComesFrom line column o source) :
    ∃ mappings, Mappings.readList m.mappings.toList = .ok mappings ∧
      (IndexedMap.mk m (.ofList mappings)).originAt? line column = some o := by
  obtain ⟨mappings, e, hread, hnearest, horigin⟩ := h.exists_nearest
  exact ⟨mappings, hread, originAt?_eq_some_iff.mpr ⟨h.line_ne, e, hnearest, horigin⟩⟩

/-- What comes from a source is resolved, if there is a next line. -/
theorem ComesFrom.resolve?_eq (h : m.ComesFrom line column o source) (overflow : Overflow) :
    m.resolve? overflow line column = (overflow.next? o.line).map fun next =>
      .ok (m.positionOf ⟨m.sourcePath source, o.sourceIndex, next, o.column⟩) := by
  obtain ⟨mappings, hread, horigin⟩ := h.exists_originAt?
  rw [SourceMap.resolve?_eq h.version hread, horigin]
  dsimp only
  rw [h.listed]

/-- A source behind the common root. -/
theorem isPathBehind_sourcePath (m : SourceMap) (source : String) :
    IsPathBehind m.sourceRoot source (m.sourcePath source) := by
  unfold IsPathBehind sourcePath
  cases m.sourceRoot with
  | none => rfl
  | some root =>
    dsimp only
    by_cases hroot : root = ""
    · simp [hroot]
    · obtain ⟨slashes, hsplit, hslashes, hlast⟩ :=
        Text.dropTrailing_spec (fun c => decide (c = '/')) root.toList
      simp only [hroot, if_false, String.isEmpty_iff]
      refine ⟨_, slashes, hsplit, by simpa using hslashes, ?_, by simp⟩
      intro h
      simpa using hlast _ h

/-- The path behind the common root has a mark only if root or source has one. -/
theorem not_infix_sourcePath {source : String} (h : Unmarked m.sourceRoot source) :
    ¬ routeModuleMark.toList <:+: (m.sourcePath source).toList := by
  obtain ⟨hroot, hsource⟩ := h
  have hpath := isPathBehind_sourcePath m source
  unfold IsPathBehind at hpath
  cases hm : m.sourceRoot with
  | none =>
    rw [hm] at hpath
    rwa [hpath]
  | some root =>
    rw [hm] at hpath
    dsimp only at hpath
    split at hpath
    next => rwa [hpath]
    next =>
      obtain ⟨stem, slashes, hsplit, -, -, hpath⟩ := hpath
      rw [hpath]
      intro hoccurs
      -- The mark has no slash, so it cannot reach over the one that joins root and source.
      have hslash : '/' ∉ routeModuleMark.toList := by decide
      rcases Text.infix_or_infix_of_infix hslash hoccurs with hoccurs | hoccurs
      · exact hroot root hm (hoccurs.trans ⟨[], slashes, by simp [hsplit]⟩)
      · exact hsource hoccurs

/-- Without mark the file of a position is the source behind the common root. -/
theorem isPathBehind_file {source : String} (h : Unmarked m.sourceRoot source)
    (index line column : UInt32) : IsPathBehind m.sourceRoot source
      (m.positionOf ⟨m.sourcePath source, index, line, column⟩).file := by
  simp only [positionOf, Text.removeFirst_of_not_infix (not_infix_sourcePath h),
    String.ofList_toList]
  exact isPathBehind_sourcePath m source

/-- The embedded content of a source, if it is there. -/
theorem contentOf?_eq_some_iff {index : UInt32} {content : String} :
    m.contentOf? index = some content ↔ ∃ contents, m.sourcesContent = some contents ∧
      contents[index.toNat]? = some (some content) := by
  show (m.sourcesContent.bind fun contents => contents[index.toNat]?.bind id) = some content ↔ _
  simp [Option.bind_eq_some_iff]

/-- What resolving a position gives. -/
theorem resolve_spec (m : SourceMap) (overflow : Overflow) (line column : UInt32) :
    (m.version ≠ 3 →
      m.resolve? overflow line column = some (.error (.malformedMap (.version m.version)))) ∧
    (m.version = 3 → ∀ fault, Mappings.readList m.mappings.toList = .error fault →
      m.resolve? overflow line column = some (.error (.malformedMap fault))) ∧
    (m.version = 3 → ∀ mappings, Mappings.readList m.mappings.toList = .ok mappings →
      (m.resolve? overflow line column = some (.error (.unmapped line column)) ↔
        line = 0 ∨ (∀ e ∈ mappings, e.isCandidate (line - 1) column = false) ∨
          ∃ e, IsNearest mappings (line - 1) column e ∧ e.origin = none) ∧
      ∀ e o, line ≠ 0 → IsNearest mappings (line - 1) column e → e.origin = some o →
        (m.resolve? overflow line column =
            some (.error (.malformedMap (.sourceIndex o.sourceIndex))) ↔
          m.sources.length ≤ o.sourceIndex.toNat) ∧
        ∀ source, m.sources[o.sourceIndex.toNat]? = some source → o.line.toNat < 2 ^ 32 - 1 →
          ∃ position, m.resolve? overflow line column = some (.ok position) ∧
            position.line.toNat = o.line.toNat + 1 ∧ position.column = o.column ∧
            (∀ content, position.sourceContent = some content ↔
              ∃ contents, m.sourcesContent = some contents ∧
                contents[o.sourceIndex.toNat]? = some (some content)) ∧
            (Unmarked m.sourceRoot source → IsPathBehind m.sourceRoot source position.file)) := by
  refine ⟨fun hversion => ?_, fun hversion fault hread => ?_, fun hversion mappings hread => ?_⟩
  · unfold resolve?
    rw [index_of_version_ne hversion]
  · unfold resolve?
    rw [index_of_version_eq hversion, hread]
    rfl
  · have hresolve := resolve?_eq hversion hread overflow line column
    refine ⟨?_, fun e o hline hnearest horigin => ?_⟩
    · -- A position with an origin fails otherwise, if it does.
      rw [← originAt?_eq_none_iff (m := m), hresolve]
      split
      next hnone => simp [hnone]
      next o hsome =>
        rw [hsome]
        split <;> simp
    · refine ⟨?_, fun source hsource hlast => ?_⟩
      · rw [hresolve, originAt?_eq_some_iff.mpr ⟨hline, e, hnearest, horigin⟩,
          ← List.getElem?_eq_none_iff]
        dsimp only
        split
        next hnone => simp [hnone]
        next source hsome => simp [hsome]
      · have hfrom : m.ComesFrom line column o source :=
          ⟨hversion, hline, ⟨mappings, e, hread, hnearest, horigin⟩, hsource⟩
        obtain ⟨next, hnext, hexact⟩ := overflow.exists_next?_of_lt hlast
        refine ⟨m.positionOf ⟨m.sourcePath source, o.sourceIndex, next, o.column⟩, ?_, hexact, rfl,
          fun content => contentOf?_eq_some_iff, fun hunmarked => ?_⟩
        · rw [hfrom.resolve?_eq, hnext]
          rfl
        · exact isPathBehind_file hunmarked _ _ _

/-- What resolving gives for another version, for mappings with a fault and for a source behind a
common root. -/
theorem resolve_spec_index :
    (⟨2, none, [], none, "AAAA"⟩ : SourceMap).resolve? .refused 1 0 =
      some (.error (.malformedMap (.version 2))) ∧
    (⟨3, none, [], none, "D"⟩ : SourceMap).resolve? .refused 1 0 =
      some (.error (.malformedMap (.segment "D" (.outOfRange .generatedColumn)))) ∧
    ∃ position,
      (⟨3, some "src/", ["index.ts"], some [some "code"], "AAAA"⟩ : SourceMap).resolve?
          .refused 1 7 = some (.ok position) ∧
        position.line.toNat = 1 ∧ position.sourceContent = some "code" ∧
        IsPathBehind (some "src/") "index.ts" position.file := by
  refine ⟨?_, ?_, ?_⟩
  · exact (resolve_spec ⟨2, none, [], none, "AAAA"⟩ .refused 1 0).1 (by decide)
  · have hread : Mappings.readList "D".toList =
        .error (.segment "D" (.outOfRange .generatedColumn)) := by rfl
    obtain ⟨-, hfault, -⟩ := resolve_spec ⟨3, none, [], none, "D"⟩ .refused 1 0
    exact hfault rfl _ hread
  · have hread : Mappings.readList "AAAA".toList = .ok [⟨0, 0, some ⟨0, 0, 0, none⟩⟩] := by rfl
    have hnearest : IsNearest [⟨0, 0, some ⟨0, 0, 0, none⟩⟩] (1 - 1) 7
        ⟨0, 0, some ⟨0, 0, 0, none⟩⟩ := ⟨rfl, by decide, rfl⟩
    obtain ⟨-, -, hok⟩ :=
      resolve_spec ⟨3, some "src/", ["index.ts"], some [some "code"], "AAAA"⟩ .refused 1 7
    obtain ⟨-, hplaces⟩ := hok rfl _ hread
    obtain ⟨position, hresolve, hline, -, hcontent, hfile⟩ :=
      (hplaces _ _ (by decide) hnearest rfl).2 "index.ts" rfl (by decide)
    have hunmarked : Unmarked (some "src/") "index.ts" := by
      refine ⟨fun root hroot => ?_, by decide +kernel⟩
      obtain rfl : "src/" = root := Option.mem_some.mp hroot
      decide +kernel
    exact ⟨position, hresolve, hline, (hcontent "code").mpr ⟨_, rfl, rfl⟩, hfile hunmarked⟩

/-- A position is resolved to a fault, or it comes from a source. -/
theorem exists_fault_or_comesFrom (m : SourceMap) (overflow : Overflow) (line column : UInt32) :
    (∃ fault, m.resolve? overflow line column = some (.error fault)) ∨
      ∃ o source, m.ComesFrom line column o source := by
  by_cases hversion : m.version = 3
  · cases hread : Mappings.readList m.mappings.toList with
    | error fault =>
      refine .inl ⟨.malformedMap fault, ?_⟩
      unfold resolve?
      rw [index_of_version_eq hversion, hread]
      rfl
    | ok mappings =>
      rw [resolve?_eq hversion hread]
      split
      next => exact .inl ⟨_, rfl⟩
      next o horigin =>
        split
        next => exact .inl ⟨_, rfl⟩
        next source hsource =>
          obtain ⟨hline, e, hnearest, he⟩ := originAt?_eq_some_iff.mp horigin
          exact .inr ⟨o, source, hversion, hline, ⟨mappings, e, hread, hnearest, he⟩, hsource⟩
  · refine .inl ⟨.malformedMap (.version m.version), ?_⟩
    unfold resolve?
    rw [index_of_version_ne hversion]

/-- Nothing is answered exactly for a position that comes from the greatest line, if the next one is
refused. -/
theorem resolve?_eq_none_iff :
    m.resolve? overflow line column = none ↔
      overflow = .refused ∧
        ∃ o source, m.ComesFrom line column o source ∧ o.line.toNat = 2 ^ 32 - 1 := by
  constructor
  · intro hnone
    rcases m.exists_fault_or_comesFrom overflow line column with ⟨fault, hfault⟩ | ⟨o, source, hfrom⟩
    · cases hfault.symm.trans hnone
    · rw [hfrom.resolve?_eq, Option.map_eq_none_iff, Overflow.next?_eq_none_iff] at hnone
      exact ⟨hnone.1, o, source, hfrom, hnone.2⟩
  · rintro ⟨hrefused, o, source, hfrom, hline⟩
    rw [hfrom.resolve?_eq, Option.map_eq_none_iff, Overflow.next?_eq_none_iff]
    exact ⟨hrefused, hline⟩

/-! ### The line that is found -/

/-- A lookup of a place finds a line. -/
def LooksUpLine (m : SourceMap) (overflow : Overflow) (line column found : UInt32) : Prop :=
  ∃ index place, m.index = .ok index ∧
    index.sourcePosition? overflow line column = some (.ok (some place)) ∧ place.line = found

/-- Resolving a position finds a line. -/
def ResolvesLine (m : SourceMap) (overflow : Overflow) (line column found : UInt32) : Prop :=
  ∃ position, m.resolve? overflow line column = some (.ok position) ∧ position.line = found

/-- What is resolved is looked up before. -/
theorem resolve?_eq_of_index {index : IndexedMap} (h : m.index = .ok index) (overflow : Overflow)
    (line column : UInt32) :
    m.resolve? overflow line column =
      (index.sourcePosition? overflow line column).map fun found =>
        match found with
        | .error fault => .error (.malformedMap fault)
        | .ok none => .error (.unmapped line column)
        | .ok (some place) => .ok (m.positionOf place) := by
  unfold resolve?
  generalize m.index = indexed at h ⊢
  subst h
  rfl

/-- Both ways find the same line. -/
theorem looksUpLine_iff {found : UInt32} :
    m.LooksUpLine overflow line column found ↔ m.ResolvesLine overflow line column found := by
  constructor
  · rintro ⟨index, place, hindex, hplace, rfl⟩
    refine ⟨m.positionOf place, ?_, rfl⟩
    rw [resolve?_eq_of_index hindex, hplace]
    rfl
  · rintro ⟨position, hresolve, rfl⟩
    cases hindex : m.index with
    | error fault =>
      unfold resolve? at hresolve
      rw [hindex] at hresolve
      cases hresolve
    | ok index =>
      rw [resolve?_eq_of_index hindex] at hresolve
      obtain ⟨found, hfound, hposition⟩ := Option.map_eq_some_iff.mp hresolve
      split at hposition
      next => cases hposition
      next => cases hposition
      next place =>
        cases hposition
        exact ⟨index, place, hindex, hfound, rfl⟩

/-- A line is found for a position, by a lookup of its place or by resolving it. -/
def FindsLine (m : SourceMap) (overflow : Overflow) (line column found : UInt32) : Prop :=
  m.LooksUpLine overflow line column found ∨ m.ResolvesLine overflow line column found

/-- The line that is found is the next one to that of an origin. -/
theorem FindsLine.exists_comesFrom {found : UInt32} (h : m.FindsLine overflow line column found) :
    ∃ o source, m.ComesFrom line column o source ∧ overflow.next? o.line = some found := by
  obtain ⟨position, hresolve, rfl⟩ := h.elim looksUpLine_iff.mp id
  rcases m.exists_fault_or_comesFrom overflow line column with ⟨fault, hfault⟩ | ⟨o, source, hfrom⟩
  · cases hfault.symm.trans hresolve
  · rw [hfrom.resolve?_eq, Option.map_eq_some_iff] at hresolve
    obtain ⟨next, hnext, hposition⟩ := hresolve
    cases hposition
    exact ⟨o, source, hfrom, hnext⟩

/-- What comes from a source with a next line is found there. -/
theorem ComesFrom.resolvesLine {next : UInt32} (h : m.ComesFrom line column o source)
    (hnext : overflow.next? o.line = some next) : m.ResolvesLine overflow line column next := by
  refine ⟨m.positionOf ⟨m.sourcePath source, o.sourceIndex, next, o.column⟩, ?_, rfl⟩
  rw [h.resolve?_eq, hnext]
  rfl

/-- The line that is found is counted from the line of an origin, which is a running total of the
mappings text. It is the next number, and so not zero, unless the total is the greatest number of 32
bits. Below this number a line is always found; there, nothing is answered if sums that do not fit
are refused, and nowhere else. -/
theorem findsLine_spec (m : SourceMap) (overflow : Overflow) (line column : UInt32) :
    (∀ found, m.FindsLine overflow line column found →
      ∃ mappings e o earlier s later, Mappings.readList m.mappings.toList = .ok mappings ∧
        IsNearest mappings (line - 1) column e ∧ e.origin = some o ∧
        Mappings.segments m.mappings.toList = earlier ++ s :: later ∧
        (o.line.toNat : Int) = Mappings.runningTotal .sourceLine earlier s ∧
        (found.toNat = o.line.toNat + 1 ↔ o.line.toNat < 2 ^ 32 - 1) ∧
        (1 ≤ found.toNat ↔ o.line.toNat < 2 ^ 32 - 1)) ∧
      (∀ o source, m.ComesFrom line column o source → o.line.toNat < 2 ^ 32 - 1 →
        ∃ found, m.LooksUpLine overflow line column found ∧
          m.ResolvesLine overflow line column found ∧ found.toNat = o.line.toNat + 1) ∧
      (m.resolve? overflow line column = none ↔
        overflow = .refused ∧ ∃ o source, m.ComesFrom line column o source ∧
          o.line.toNat = 2 ^ 32 - 1) ∧
      ∀ index, m.index = .ok index →
        (index.sourcePosition? overflow line column = none ↔
          m.resolve? overflow line column = none) := by
  refine ⟨fun found hfinds => ?_, fun o source hfrom hline => ?_, resolve?_eq_none_iff,
    fun index hindex => ?_⟩
  · obtain ⟨o, source, hfrom, hnext⟩ := hfinds.exists_comesFrom
    obtain ⟨mappings, e, hread, hnearest, horigin⟩ := hfrom.exists_nearest
    -- The nearest mapping is that of a segment, at which the total of the lines is its line.
    obtain ⟨earlier, s, later, hsegments, hdescribes⟩ :=
      Mappings.exists_segment_of_mem hread hnearest.mem
    have htotal : (o.line.toNat : Int) = Mappings.runningTotal .sourceLine earlier s := by
      have horigins := hdescribes.origin
      rw [horigin] at horigins
      exact horigins.2.1
    obtain ⟨hexact, hpositive⟩ := Overflow.next?_exact_iff hnext
    exact ⟨mappings, e, o, earlier, s, later, hread, hnearest, horigin, hsegments, htotal, hexact,
      hpositive⟩
  · obtain ⟨next, hnext, hexact⟩ := overflow.exists_next?_of_lt hline
    have hresolves := hfrom.resolvesLine hnext
    exact ⟨next, looksUpLine_iff.mpr hresolves, hresolves, hexact⟩
  · rw [resolve?_eq_of_index hindex, Option.map_eq_none_iff]

/-- The first line of a source is found as line one. -/
theorem findsLine_spec_first :
    let m : SourceMap := ⟨3, none, ["a.ts"], none, "AAAA"⟩
    let o : Origin := ⟨0, 0, 0, none⟩
    m.ComesFrom 1 0 o "a.ts" ∧ o.line.toNat < 2 ^ 32 - 1 ∧
      ∃ found, m.FindsLine .refused 1 0 found ∧ found.toNat = o.line.toNat + 1 ∧
        1 ≤ found.toNat := by
  intro m o
  have hread : Mappings.readList "AAAA".toList = .ok [⟨0, 0, some o⟩] := by rfl
  have hnearest : IsNearest [⟨0, 0, some o⟩] (1 - 1) 0 ⟨0, 0, some o⟩ := ⟨rfl, by decide, rfl⟩
  have hfrom : m.ComesFrom 1 0 o "a.ts" := ⟨rfl, by decide, ⟨_, _, hread, hnearest, rfl⟩, rfl⟩
  obtain ⟨-, hbelow, -, -⟩ := findsLine_spec m .refused 1 0
  obtain ⟨found, hlookup, -, hexact⟩ := hbelow o "a.ts" hfrom (by decide)
  exact ⟨hfrom, by decide, found, .inl hlookup, hexact, hexact ▸ Nat.le_add_left 1 _⟩

/-- A position can come from the greatest line. -/
theorem comesFrom_greatest : ComesFrom ⟨3, none, ["a.ts"], none, "AA+/////DA,AA+/////DA,AACA"⟩ 1 0
    ⟨0, 4294967295, 0, none⟩ "a.ts" := by
  -- The differences of the lines are `2 ^ 31 - 1` twice and then one.
  have hread : Mappings.readList "AA+/////DA,AA+/////DA,AACA".toList =
      .ok [⟨0, 0, some ⟨0, 2147483647, 0, none⟩⟩, ⟨0, 0, some ⟨0, 4294967294, 0, none⟩⟩,
        ⟨0, 0, some ⟨0, 4294967295, 0, none⟩⟩] := by rfl
  have hnearest : IsNearest [⟨0, 0, some ⟨0, 2147483647, 0, none⟩⟩,
      ⟨0, 0, some ⟨0, 4294967294, 0, none⟩⟩, ⟨0, 0, some ⟨0, 4294967295, 0, none⟩⟩] (1 - 1) 0
      ⟨0, 0, some ⟨0, 4294967295, 0, none⟩⟩ := ⟨rfl, by decide, rfl⟩
  exact ⟨rfl, by decide, ⟨_, _, hread, hnearest, rfl⟩, rfl⟩

/-- A running total can be the greatest number of 32 bits. Then nothing is answered, or line zero is
found. -/
theorem exists_comesFrom_greatest :
    ∃ (m : SourceMap) (o : Origin), m.ComesFrom 1 0 o "a.ts" ∧ o.line.toNat = 2 ^ 32 - 1 ∧
      m.resolve? .refused 1 0 = none ∧ m.FindsLine .wrapped 1 0 0 ∧
      (0 : UInt32).toNat ≠ o.line.toNat + 1 :=
  ⟨_, _, comesFrom_greatest, by decide,
    resolve?_eq_none_iff.mpr ⟨rfl, _, _, comesFrom_greatest, by decide⟩,
    .inr (comesFrom_greatest.resolvesLine (by decide)), by decide⟩

end SourceMap

end Retrace
