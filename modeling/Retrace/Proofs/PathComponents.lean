import Retrace.FrameAnswer
import Retrace.Proofs.Text

/-!
# Components of paths

Whether a file lies in a root directory is decided by the components of the two paths, and not by
their texts. The components are what a path starts with, its head, and its names, the segments that
count. A head is told from every name (`ne_of_mem_names`), so that of two paths the components of one
begin those of the other exactly when the heads are the same and the names begin the names
(`head_eq_and_names_prefix`). What stands behind the names of a directory is a relative path with the
components that are left (`components_of_stripPrefix?`), and there is such a path exactly when the
components of the directory begin those of the path (`exists_stripPrefix?_iff`).
-/

namespace Retrace.Path

/-- The names of a path: its segments that count. -/
def names (path : List Char) : List (List Char) :=
  (segments path).filter (!isSilent ·)

variable {path directory first : List Char} {pieces rest : List (List Char)}

/-! ### Heads and names -/

/-- Only segments without a character or with a dot alone do not count. -/
theorem isSilent_eq_false_iff : isSilent first = false ↔ first ≠ [] ∧ first ≠ ['.'] := by
  simp [isSilent]

/-- A path starts at the root, with a dot, or with neither. -/
theorem head_cases (path : List Char) :
    (splitHead path).1 = [] ∨ (splitHead path).1 = ['/'] ∨ (splitHead path).1 = ['.'] := by
  unfold splitHead
  split <;> simp

/-- The root is the head of exactly the absolute paths. -/
theorem head_eq_root_iff : (splitHead path).1 = ['/'] ↔ isAbsolute path = true := by
  unfold splitHead
  split <;> simp_all [isAbsolute]
  next hroot _ _ => cases path <;> simp_all

/-- Of the components only the first may be the root or a dot: no name is either. -/
theorem ne_of_mem_names {name : List Char} (h : name ∈ names path) : name ≠ ['/'] ∧ name ≠ ['.'] := by
  obtain ⟨hsegment, hcounts⟩ := List.mem_filter.mp h
  refine ⟨?_, (isSilent_eq_false_iff.mp (by simpa using hcounts)).2⟩
  rintro rfl
  exact (Text.mem_of_mem_splitOn hsegment List.mem_cons_self).2 rfl

/-- A path whose first segment counts has no head. -/
theorem splitHead_of_counts (h : path.splitOn '/' = first :: pieces)
    (hcounts : isSilent first = false) : splitHead path = ([], path) := by
  rw [isSilent_eq_false_iff] at hcounts
  unfold splitHead
  split
  next body =>
    have hsplit := Text.splitOn_append_cons '/' [] body
    rw [List.nil_append, h] at hsplit
    exact absurd (List.cons.inj hsplit).1 hcounts.1
  next => exact absurd (List.cons.inj h).1.symm hcounts.2
  next body =>
    have hsplit := Text.splitOn_append_cons '/' ['.'] body
    rw [List.singleton_append, h] at hsplit
    exact absurd (List.cons.inj hsplit).1 hcounts.2
  next => rfl

/-- In a path that is not empty and has no head the first segment counts. -/
theorem exists_counts_of_head_eq_nil (hne : path ≠ []) (hhead : (splitHead path).1 = []) :
    ∃ first pieces, path.splitOn '/' = first :: pieces ∧ isSilent first = false := by
  obtain ⟨c, tail, rfl⟩ := List.exists_cons_of_ne_nil hne
  have hc : c ≠ '/' := by
    rintro rfl
    cases hhead
  obtain ⟨piece, pieces, hpieces⟩ := List.exists_cons_of_ne_nil (List.splitOn_ne_nil '/' tail)
  refine ⟨c :: piece, pieces, ?_, ?_⟩
  · rw [List.splitOn_cons_eq_if_modifyHead, if_neg (by simpa using hc), hpieces,
      List.modifyHead_cons]
  · refine isSilent_eq_false_iff.mpr ⟨List.cons_ne_nil _ _, fun hdot => ?_⟩
    obtain ⟨rfl, rfl⟩ := List.cons_eq_cons.mp hdot
    -- Behind the dot the path would end, or go on with a slash.
    cases tail with
    | nil => cases hhead
    | cons d tail =>
      obtain rfl | hd := eq_or_ne d '/'
      · cases hhead
      · obtain ⟨_, _, hrest⟩ := List.exists_cons_of_ne_nil (List.splitOn_ne_nil '/' tail)
        rw [List.splitOn_cons_eq_if_modifyHead, if_neg (by simpa using hd), hrest,
          List.modifyHead_cons] at hpieces
        cases hpieces

/-! ### Components -/

/-- Without a head the components are the names. -/
theorem components_of_head_eq_nil (h : (splitHead path).1 = []) : components path = names path := by
  unfold components
  dsimp only
  rw [if_pos h, List.nil_append]
  rfl

/-- The head is a component in front of the names. -/
theorem components_of_head_ne_nil (h : (splitHead path).1 ≠ []) :
    components path = (splitHead path).1 :: names path := by
  unfold components
  dsimp only
  rw [if_neg h, List.singleton_append]
  rfl

/-- Without a head, but with a character, a path has a first name. -/
theorem exists_names_cons (hne : path ≠ []) (hhead : (splitHead path).1 = []) :
    ∃ name others, names path = name :: others := by
  obtain ⟨first, pieces, hsplit, hcounts⟩ := exists_counts_of_head_eq_nil hne hhead
  refine ⟨first, pieces.filter (!isSilent ·), ?_⟩
  unfold names segments
  rw [splitHead_of_counts hsplit hcounts, hsplit, List.filter_cons_of_pos (by simp [hcounts])]

/-- Only the empty path has no component. -/
theorem components_eq_nil_iff : components path = [] ↔ path = [] := by
  constructor
  · intro hnone
    by_contra hne
    rcases eq_or_ne (splitHead path).1 [] with hhead | hhead
    · obtain ⟨name, others, hnames⟩ := exists_names_cons hne hhead
      rw [components_of_head_eq_nil hhead, hnames] at hnone
      cases hnone
    · rw [components_of_head_ne_nil hhead] at hnone
      cases hnone
  · rintro rfl
    decide

/-- Where the components of one path begin those of another one, the heads are the same and the
names begin the names. -/
theorem head_eq_and_names_prefix (hne : directory ≠ [])
    (h : components directory <+: components path) :
    (splitHead directory).1 = (splitHead path).1 ∧ names directory <+: names path := by
  rcases eq_or_ne (splitHead directory).1 [] with hdirectory | hdirectory <;>
    rcases eq_or_ne (splitHead path).1 [] with hpath | hpath
  · rw [components_of_head_eq_nil hdirectory, components_of_head_eq_nil hpath] at h
    exact ⟨hdirectory.trans hpath.symm, h⟩
  · -- The first name of the directory would be the head of the path.
    obtain ⟨name, others, hnames⟩ := exists_names_cons hne hdirectory
    rw [components_of_head_eq_nil hdirectory, components_of_head_ne_nil hpath, hnames,
      List.cons_prefix_cons] at h
    have hname := ne_of_mem_names (hnames ▸ List.mem_cons_self : name ∈ names directory)
    rcases head_cases path with hhead | hhead | hhead
    · exact absurd hhead hpath
    · exact absurd (h.1.trans hhead) hname.1
    · exact absurd (h.1.trans hhead) hname.2
  · -- The head of the directory would be a name of the path.
    rw [components_of_head_ne_nil hdirectory, components_of_head_eq_nil hpath] at h
    have hname := ne_of_mem_names (h.subset List.mem_cons_self)
    rcases head_cases directory with hhead | hhead | hhead
    · exact absurd hhead hdirectory
    · exact absurd hhead hname.1
    · exact absurd hhead hname.2
  · rw [components_of_head_ne_nil hdirectory, components_of_head_ne_nil hpath,
      List.cons_prefix_cons] at h
    exact h

/-- A slash behind a path makes no difference to its components. -/
theorem components_append_slash (hne : path ≠ []) :
    components (path ++ ['/']) = components path := by
  have hsplit : splitHead (path ++ ['/']) = ((splitHead path).1, (splitHead path).2 ++ ['/']) := by
    rcases eq_or_ne (splitHead path).1 [] with hhead | hhead
    · obtain ⟨first, pieces, hpieces, hcounts⟩ := exists_counts_of_head_eq_nil hne hhead
      have happend : (path ++ ['/']).splitOn '/' = first :: (pieces ++ [[]]) := by
        rw [Text.splitOn_append_cons, hpieces]
        rfl
      rw [splitHead_of_counts happend hcounts, splitHead_of_counts hpieces hcounts]
    · unfold splitHead at hhead ⊢
      split at hhead
      next => rfl
      next => rfl
      next => rfl
      next => exact absurd rfl hhead
  have hnames : names (path ++ ['/']) = names path := by
    unfold names segments
    rw [hsplit, Text.splitOn_append_cons, List.filter_append]
    exact List.append_nil _
  unfold names at hnames
  unfold components
  rw [hnames, hsplit]

/-! ### Segments behind components -/

/-- Segments that do not count may be dropped from the front. -/
theorem filter_dropWhile_isSilent (pieces : List (List Char)) :
    (pieces.dropWhile isSilent).filter (!isSilent ·) = pieces.filter (!isSilent ·) := by
  induction pieces with
  | nil => rfl
  | cons piece pieces ih => cases hpiece : isSilent piece <;> simp [hpiece, ih]

/-- Segments that do not count may be dropped from the end. -/
theorem filter_trimEnd (pieces : List (List Char)) :
    (trimEnd pieces).filter (!isSilent ·) = pieces.filter (!isSilent ·) := by
  unfold trimEnd
  rw [List.filter_reverse, filter_dropWhile_isSilent, List.filter_reverse, List.reverse_reverse]

/-- What is left of segments are the first of them. -/
theorem trimEnd_prefix (pieces : List (List Char)) : trimEnd pieces <+: pieces := by
  unfold trimEnd
  rw [← List.reverse_suffix, List.reverse_reverse]
  exact List.dropWhile_suffix isSilent

/-- Components that are dropped from segments are the first that count, and the rest counts as
before. -/
theorem filter_of_dropComponents? {components pieces rest : List (List Char)}
    (h : dropComponents? components pieces = some rest) :
    rest <:+ pieces ∧
      pieces.filter (!isSilent ·) = components ++ rest.filter (!isSilent ·) := by
  induction components generalizing pieces with
  | nil =>
    cases h
    exact ⟨List.suffix_refl _, rfl⟩
  | cons component components ih =>
    unfold dropComponents? at h
    split at h
    next => cases h
    next segment others hdrop =>
      split at h
      next hsegment =>
        obtain ⟨hsuffix, hfilter⟩ := ih h
        have hothers : segment :: others <:+ pieces := hdrop ▸ List.dropWhile_suffix isSilent
        have hcounts : isSilent segment = false :=
          Text.head?_dropWhile_eq_false (congrArg List.head? hdrop)
        refine ⟨hsuffix.trans ((List.suffix_cons segment others).trans hothers), ?_⟩
        rw [← filter_dropWhile_isSilent, hdrop, List.filter_cons_of_pos (by simp [hcounts]),
          hfilter, hsegment, List.cons_append]
      next => cases h

/-- Components that cannot be dropped are not the first that count. -/
theorem not_prefix_of_dropComponents? {components pieces : List (List Char)}
    (h : dropComponents? components pieces = none) :
    ¬ components <+: pieces.filter (!isSilent ·) := by
  induction components generalizing pieces with
  | nil => cases h
  | cons component components ih =>
    unfold dropComponents? at h
    rw [← filter_dropWhile_isSilent]
    split at h
    next hdrop => simp [hdrop]
    next segment others hdrop =>
      have hcounts : isSilent segment = false :=
        Text.head?_dropWhile_eq_false (congrArg List.head? hdrop)
      rw [hdrop, List.filter_cons_of_pos (by simp [hcounts]), List.cons_prefix_cons]
      rintro ⟨rfl, hbegins⟩
      rw [if_pos rfl] at h
      exact ih h hbegins

/-- Segments of which the first counts are joined to a relative path, whose components are those
that count. -/
theorem components_joinSegments (hslash : ∀ piece ∈ pieces, '/' ∉ piece)
    (hfirst : ∀ piece ∈ pieces.head?, isSilent piece = false) :
    isAbsolute (joinSegments pieces) = false ∧
      components (joinSegments pieces) = pieces.filter (!isSilent ·) := by
  cases pieces with
  | nil => decide
  | cons first pieces =>
    have hsplit : (joinSegments (first :: pieces)).splitOn '/' = first :: pieces :=
      List.splitOn_intercalate '/' hslash (List.cons_ne_nil _ _)
    have hhead := splitHead_of_counts hsplit (hfirst first rfl)
    refine ⟨?_, ?_⟩
    · rw [← Bool.not_eq_true, ← head_eq_root_iff, hhead]
      exact (List.cons_ne_nil _ _).symm
    · rw [components_of_head_eq_nil (by rw [hhead])]
      unfold names segments
      rw [hhead, hsplit]

/-! ### Paths behind a directory -/

/-- What stands behind a directory is a relative path, with the components that are left. -/
theorem components_of_stripPrefix? {behind : List Char}
    (h : stripPrefix? directory path = some behind) : isAbsolute behind = false ∧
      components path = components directory ++ components behind := by
  unfold stripPrefix? at h
  split at h
  next hhead =>
    obtain ⟨rest, hdrop, rfl⟩ := Option.map_eq_some_iff.mp h
    obtain ⟨hsuffix, hnames⟩ := filter_of_dropComponents? hdrop
    have htrimmed := trimEnd_prefix (rest.dropWhile isSilent)
    have hslash : ∀ piece ∈ trimEnd (rest.dropWhile isSilent), '/' ∉ piece := by
      intro piece hpiece hmem
      have hrest : piece ∈ rest := (List.dropWhile_suffix isSilent).subset (htrimmed.subset hpiece)
      exact (Text.mem_of_mem_splitOn (hsuffix.subset hrest) hmem).2 rfl
    have hfirst : ∀ piece ∈ (trimEnd (rest.dropWhile isSilent)).head?, isSilent piece = false := by
      intro piece hpiece
      have hhead : (rest.dropWhile isSilent).head? = some piece := by
        obtain ⟨others, hothers⟩ := List.head?_eq_some_iff.mp hpiece
        obtain ⟨tail, htail⟩ := hothers ▸ htrimmed
        rw [← htail]
        rfl
      exact Text.head?_dropWhile_eq_false hhead
    obtain ⟨hrelative, hbehind⟩ := components_joinSegments hslash hfirst
    refine ⟨hrelative, ?_⟩
    rw [hbehind, filter_trimEnd, filter_dropWhile_isSilent]
    unfold components
    dsimp only
    rw [hhead, hnames, List.append_assoc]
  next => cases h

/-- There is a path behind a directory exactly when the components of the directory are the first
ones of the path. -/
theorem exists_stripPrefix?_iff (hne : directory ≠ []) :
    (∃ behind, stripPrefix? directory path = some behind) ↔
      components directory <+: components path := by
  constructor
  · rintro ⟨behind, hbehind⟩
    exact ⟨_, (components_of_stripPrefix? hbehind).2.symm⟩
  · intro h
    obtain ⟨hhead, hnames⟩ := head_eq_and_names_prefix hne h
    refine Option.ne_none_iff_exists'.mp fun hnone => ?_
    unfold stripPrefix? at hnone
    rw [if_pos hhead, Option.map_eq_none_iff] at hnone
    exact not_prefix_of_dropComponents? hnone hnames

/-- What stands behind a directory is told by its components. -/
theorem stripPrefix?_congr {directory' : List Char} (hne : directory ≠ []) (hne' : directory' ≠ [])
    (h : components directory = components directory') (path : List Char) :
    stripPrefix? directory path = stripPrefix? directory' path := by
  have hbegins : components directory <+: components directory' := h ▸ List.prefix_rfl
  have hbegins' : components directory' <+: components directory := h ▸ List.prefix_rfl
  obtain ⟨hhead, hnames⟩ := head_eq_and_names_prefix hne hbegins
  obtain ⟨-, hnames'⟩ := head_eq_and_names_prefix hne' hbegins'
  have heq : names directory = names directory' :=
    hnames.eq_of_length_le hnames'.length_le
  unfold names at heq
  unfold stripPrefix?
  rw [hhead, heq]

/-- Of an absolute and a relative path neither has the first components of the other. -/
theorem not_prefix_of_isAbsolute_ne (hne : directory ≠ [])
    (h : isAbsolute directory ≠ isAbsolute path) :
    ¬ components directory <+: components path := by
  intro hbegins
  obtain ⟨hhead, -⟩ := head_eq_and_names_prefix hne hbegins
  refine h (Bool.eq_iff_iff.mpr ?_)
  rw [← head_eq_root_iff, ← head_eq_root_iff, hhead]

/-- Components of which the last is only a part of a component do not begin a path. -/
theorem not_prefix_of_within {front behind : List (List Char)} {name more : List Char}
    (h : components directory = front ++ [name])
    (h' : components path = front ++ (name ++ more) :: behind) (hmore : more ≠ []) :
    ¬ components directory <+: components path := by
  rw [h, h', List.prefix_append_right_inj, List.cons_prefix_cons]
  rintro ⟨hname, -⟩
  exact hmore (List.self_eq_append_right.mp hname)

end Retrace.Path

namespace Retrace.FrameAnswer

open Retrace.Path (components isAbsolute)

variable {root file : String}

/-- A file in a root directory is seen from it. -/
theorem exists_fileFrom_of_prefix (hroot : root ≠ "")
    (h : components root.toList <+: components file.toList) :
    ∃ rest : String, fileFrom root file = "/" ++ rest ∧ isAbsolute rest.toList = false ∧
      components file.toList = components root.toList ++ components rest.toList := by
  have hne : root.toList ≠ [] := by simpa using hroot
  obtain ⟨rest, hrest⟩ := (Path.exists_stripPrefix?_iff hne).mpr h
  obtain ⟨hrelative, hcomponents⟩ := Path.components_of_stripPrefix? hrest
  refine ⟨String.ofList rest, ?_, by rwa [String.toList_ofList], by rwa [String.toList_ofList]⟩
  unfold fileFrom
  rw [if_neg (by simpa using hroot), hrest]
  exact String.ofList_cons

/-- A file outside of the root directory stays as it is. -/
theorem fileFrom_of_not_prefix (h : root = "" ∨ ¬ components root.toList <+: components file.toList) :
    fileFrom root file = file := by
  unfold fileFrom
  split
  next => rfl
  next hroot =>
    have hne : root.toList ≠ [] := by simpa using hroot
    have hnot := h.resolve_left (by simpa using hroot)
    rw [← Path.exists_stripPrefix?_iff hne, ← Option.ne_none_iff_exists', not_not] at hnot
    rw [hnot]

/-- A slash behind the root directory makes no difference. -/
theorem fileFrom_append_slash (hroot : root ≠ "") :
    fileFrom (root ++ "/") file = fileFrom root file := by
  have hne : root.toList ≠ [] := by simpa using hroot
  have hne' : (root ++ "/").toList ≠ [] := by simp
  have hcomponents : components (root ++ "/").toList = components root.toList := by
    rw [String.toList_append]
    exact Path.components_append_slash hne
  unfold fileFrom
  rw [if_neg (by simp), if_neg (by simpa using hroot), Path.stripPrefix?_congr hne' hne hcomponents]

/-- The file of an answer is decided by components. If those of the root directory, which is not
empty, are the first ones of the file, the answer has a slash and a relative path with the
components that are left, which is empty where none are. Otherwise the answer has the file itself:
so where there is no root, where the last component of the root is only a part of one of the file,
and where one of the two is absolute and the other is not. A slash behind the root makes no
difference. -/
theorem ofPosition_file_spec (root : String) (position : Position) :
    (root ≠ "" → components root.toList <+: components position.file.toList →
      ∃ rest : String, (ofPosition root position).file = "/" ++ rest ∧
        isAbsolute rest.toList = false ∧
        components position.file.toList = components root.toList ++ components rest.toList ∧
        (components position.file.toList = components root.toList → rest = "")) ∧
    (root = "" ∨ ¬ components root.toList <+: components position.file.toList →
      (ofPosition root position).file = position.file) ∧
    (∀ front name more behind, components root.toList = front ++ [name] →
      components position.file.toList = front ++ (name ++ more) :: behind → more ≠ [] →
        (ofPosition root position).file = position.file) ∧
    (isAbsolute root.toList ≠ isAbsolute position.file.toList →
      (ofPosition root position).file = position.file) ∧
    (root ≠ "" → (ofPosition (root ++ "/") position).file = (ofPosition root position).file) := by
  refine ⟨fun hroot h => ?_, fileFrom_of_not_prefix, fun _ _ _ _ h h' hmore => ?_, fun h => ?_,
    fileFrom_append_slash⟩
  · obtain ⟨rest, hfile, hrelative, hcomponents⟩ := exists_fileFrom_of_prefix hroot h
    refine ⟨rest, hfile, hrelative, hcomponents, fun hall => ?_⟩
    have hnone : components rest.toList = [] := by
      rw [hall] at hcomponents
      exact List.self_eq_append_right.mp hcomponents
    simpa using Path.components_eq_nil_iff.mp hnone
  · exact fileFrom_of_not_prefix (.inr (Path.not_prefix_of_within h h' hmore))
  · rcases eq_or_ne root "" with hroot | hroot
    · exact fileFrom_of_not_prefix (.inl hroot)
    · have hne : root.toList ≠ [] := by simpa using hroot
      exact fileFrom_of_not_prefix (.inr (Path.not_prefix_of_isAbsolute_ne hne h))

/-- A file with more slashes and dots than its root lies in it, but not in a root whose last name is
only a part of one; and a relative root does not hold an absolute file. -/
theorem ofPosition_file_spec_two_slashes :
    let position : Position := ⟨"/srv//./application/../a//b.js/", 4, 2, none⟩
    components "/srv/application".toList <+: components position.file.toList ∧
      (∃ rest : String, (ofPosition "/srv/application" position).file = "/" ++ rest ∧
        isAbsolute rest.toList = false ∧
        components rest.toList = ["..".toList, "a".toList, "b.js".toList]) ∧
      (ofPosition "/srv/application/" position).file = (ofPosition "/srv/application" position).file ∧
      (ofPosition "/srv/app" position).file = position.file ∧
      (ofPosition "srv" position).file = position.file := by
  intro position
  have hbegins : components "/srv/application".toList <+: components position.file.toList := by
    decide +kernel
  obtain ⟨hinside, -, -, -, hslash⟩ := ofPosition_file_spec "/srv/application" position
  obtain ⟨-, -, hwithin, -, -⟩ := ofPosition_file_spec "/srv/app" position
  obtain ⟨-, -, -, hrelative, -⟩ := ofPosition_file_spec "srv" position
  refine ⟨hbegins, ?_, hslash (by decide), ?_, hrelative (by decide)⟩
  · obtain ⟨rest, hfile, hrest, hcomponents, -⟩ := hinside (by decide) hbegins
    have hall : components position.file.toList = components "/srv/application".toList ++
        ["..".toList, "a".toList, "b.js".toList] := by
      decide +kernel
    exact ⟨rest, hfile, hrest, List.append_cancel_left (hcomponents.symm.trans hall)⟩
  · exact hwithin ["/".toList, "srv".toList] "app".toList "lication".toList
      ["..".toList, "a".toList, "b.js".toList] (by decide +kernel) (by decide +kernel) (by decide)

end Retrace.FrameAnswer
