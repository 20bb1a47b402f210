import Mathlib
import Retrace.Proofs.Text
import Retrace.Url.Read

/-!
# Schemes of URLs

Where a reference leads is decided by its scheme. Joined to a URL of the web, a reference that names
a scheme has this scheme, and any other takes over the scheme of the URL, with the authority of the
URL or with one of its own (`join_spec`).

Every reader of a part of a URL keeps the scheme that it was given; those that read an authority,
and those that start from a URL with one, give a URL that has one (`HasOrigin`). A scheme that is
named in a text is written in lower case (`IsScheme`).
-/

namespace Retrace

/-- A reader that goes on behind another one gives a result only if both do. -/
theorem exists_of_bind_eq_ok {ε α β : Type} {first : Except ε α} {next : α → Except ε β} {b : β}
    (h : (first >>= next) = .ok b) : ∃ a, first = .ok a ∧ next a = .ok b := by
  cases first with
  | error fault => cases h
  | ok a => exact ⟨a, rfl, h⟩

namespace Url

/-- A URL has a scheme, and an authority behind it. -/
structure HasOrigin (scheme : List Char) (url : Url) : Prop where
  /-- The scheme. -/
  scheme_eq : url.scheme = scheme
  /-- There is an authority. -/
  authority : url.authority.isSome = true

/-- The schemes of pages of the web. -/
def IsWeb (scheme : List Char) : Prop :=
  scheme = "http".toList ∨ scheme = "https".toList

variable {url base : Url} {scheme text rest : List Char}

/-! ### Parts behind the authority -/

/-- A query and a fragment leave the scheme. -/
theorem scheme_withTail (url : Url) (text : List Char) :
    (url.withTail text).scheme = url.scheme := by
  unfold withTail
  split <;> rfl

/-- A query and a fragment leave the authority. -/
theorem authority_withTail (url : Url) (text : List Char) :
    (url.withTail text).authority = url.authority := by
  unfold withTail
  split <;> rfl

/-- A path leaves the scheme. -/
theorem scheme_withPath (url : Url) (before : List (List Char)) (text : List Char) :
    (url.withPath before text).scheme = url.scheme :=
  scheme_withTail _ _

/-- A path leaves the authority. -/
theorem authority_withPath (url : Url) (before : List (List Char)) (text : List Char) :
    (url.withPath before text).authority = url.authority :=
  authority_withTail _ _

/-- A tail leaves the origin. -/
theorem HasOrigin.withTail (h : HasOrigin scheme url) (text : List Char) :
    HasOrigin scheme (url.withTail text) :=
  ⟨(scheme_withTail _ _).trans h.scheme_eq, by rw [authority_withTail]; exact h.authority⟩

/-- A path leaves the origin. -/
theorem HasOrigin.withPath (h : HasOrigin scheme url) (before : List (List Char))
    (text : List Char) : HasOrigin scheme (url.withPath before text) :=
  ⟨(scheme_withPath _ _ _).trans h.scheme_eq, by rw [authority_withPath]; exact h.authority⟩

/-- What follows the authority leaves the origin. -/
theorem HasOrigin.withRest (h : HasOrigin scheme url) (text : List Char) :
    HasOrigin scheme (url.withRest text) := by
  unfold Url.withRest
  dsimp only
  split
  next c rest =>
    split
    · exact h.withPath _ _
    · split
      · exact h.withTail _
      · exact h.withPath _ _
  next =>
    split
    · exact h.withPath _ _
    · exact h

/-! ### Authorities and references -/

/-- An authority is read behind its scheme. -/
theorem hasOrigin_readAuthority (h : readAuthority scheme text = .ok url) :
    HasOrigin scheme url := by
  unfold readAuthority at h
  obtain ⟨⟨userinfo, behind⟩, -, h⟩ := exists_of_bind_eq_ok h
  obtain ⟨-, -, h⟩ := exists_of_bind_eq_ok h
  obtain ⟨host, -, h⟩ := exists_of_bind_eq_ok h
  obtain ⟨-, -, h⟩ := exists_of_bind_eq_ok h
  obtain ⟨⟨port, behind'⟩, -, h⟩ := exists_of_bind_eq_ok h
  obtain ⟨-, -, h⟩ := exists_of_bind_eq_ok h
  cases h
  have horigin (authority : Authority) :
      HasOrigin scheme ⟨scheme, some authority, .segments [], none, none⟩ := ⟨rfl, rfl⟩
  exact (horigin _).withRest _

/-- A reference without a scheme takes over the scheme of its base, and has an authority if the base
has one. -/
theorem hasOrigin_readRelative (hbase : base.authority.isSome = true)
    (h : readRelative base text = .ok url) : HasOrigin base.scheme url := by
  have horigin : HasOrigin base.scheme base := ⟨rfl, hbase⟩
  unfold readRelative at h
  split at h
  next => cases h; exact ⟨rfl, hbase⟩
  next => cases h; exact horigin.withTail _
  next => cases h; exact ⟨rfl, hbase⟩
  next c rest _ _ =>
    split at h
    · split at h
      · split at h
        · exact hasOrigin_readAuthority h
        · exact hasOrigin_readAuthority h
      · cases h
        exact horigin.withPath _ _
    · cases h
      exact horigin.withPath _ _

/-- A file with a path is still a file. -/
theorem scheme_withFilePath (url : Url) (before : List (List Char)) (text : List Char) :
    (url.withFilePath before text).scheme = url.scheme :=
  scheme_withPath url before text

/-- The URL of a file with a host has the scheme of files. -/
theorem scheme_readFileHost (h : readFileHost text = .ok url) : url.scheme = "file".toList := by
  unfold readFileHost at h
  dsimp only at h
  split at h
  · cases h; exact scheme_withFilePath _ _ _
  · split at h
    · cases h; exact scheme_withFilePath _ _ _
    · obtain ⟨host, -, h⟩ := exists_of_bind_eq_ok h
      split at h
      · cases h; exact scheme_withFilePath _ _ _
      · cases h; exact scheme_withFilePath _ _ _

/-- The URL of a file has the scheme of files, also seen from another file. -/
theorem scheme_readFile {base : Option Url} (hbase : ∀ b ∈ base, b.scheme = "file".toList)
    (h : readFile base text = .ok url) : url.scheme = "file".toList := by
  have hfile (host : List Char) (before : List (List Char)) (text : List Char) :
      ((fileOn host).withFilePath before text).scheme = "file".toList := scheme_withFilePath _ _ _
  unfold readFile at h
  split at h
  next c rest =>
    split at h
    -- Behind a slash the base gives no more than its drive or its host.
    · split at h
      · exact scheme_readFileHost h
      · split at h
        · cases h; exact hfile _ _ _
        · split at h
          · cases h; exact hfile _ _ _
          · split at h
            · split at h
              · cases h; exact hfile _ _ _
              · cases h; exact hfile _ _ _
            · cases h; exact hfile _ _ _
    · split at h
      · cases h; exact hfile _ _ _
      next base' =>
        have hbase' : base'.scheme = "file".toList := hbase base' rfl
        split at h
        · cases h; exact (scheme_withTail _ _).trans hbase'
        · split at h
          · cases h; exact hbase'
          · split at h
            · cases h; exact hfile _ _ _
            · cases h; exact (scheme_withFilePath _ _ _).trans hbase'
  next =>
    split at h
    next => cases h; rfl
    next base' => cases h; exact hbase base' rfl

/-- The URL of a scheme that is not special has this scheme. -/
theorem scheme_readPlain (h : readPlain scheme text = .ok url) : url.scheme = scheme := by
  unfold readPlain at h
  dsimp only at h
  split at h
  · exact (hasOrigin_readAuthority h).scheme_eq
  · cases h; exact scheme_withPath _ _ _
  · cases h; exact scheme_withTail _ _

/-! ### Schemes -/

/-- A scheme of the web is special, and not that of files. -/
theorem IsWeb.isSpecialScheme (h : IsWeb scheme) :
    isSpecialScheme scheme = true ∧ isFileScheme scheme = false := by
  rcases h with rfl | rfl <;> decide

/-- A URL behind a scheme has this scheme; on the web it also has an authority, its own or that of a
base with the same scheme. -/
theorem readScheme_spec {base : Option Url} (hbase : ∀ b ∈ base, b.authority.isSome = true)
    (h : readScheme base scheme text = .ok url) :
    url.scheme = scheme ∧ (IsWeb scheme → HasOrigin scheme url) := by
  have hsame : ∀ b ∈ base.filter (·.scheme = scheme),
      b.scheme = scheme ∧ b.authority.isSome = true := by
    intro b hb
    obtain ⟨hmem, hscheme⟩ := Option.mem_filter_iff.mp hb
    exact ⟨by simpa using hscheme, hbase b hmem⟩
  unfold readScheme at h
  dsimp only at h
  split at h
  next hfile =>
    obtain rfl : scheme = "file".toList := by simpa [isFileScheme] using hfile
    have hurl := scheme_readFile (fun b hb => (hsame b hb).1) h
    exact ⟨hurl, fun hweb => absurd hweb.isSpecialScheme.2 (by decide)⟩
  next =>
    split at h
    next =>
      suffices horigin : HasOrigin scheme url from ⟨horigin.scheme_eq, fun _ => horigin⟩
      split at h
      next base' hsome =>
        obtain ⟨hscheme, hauthority⟩ := hsame base' hsome
        split at h
        · exact hscheme ▸ hasOrigin_readRelative hauthority h
        · exact hasOrigin_readAuthority h
      next => exact hasOrigin_readAuthority h
    next hspecial =>
      exact ⟨scheme_readPlain h, fun hweb => absurd hweb.isSpecialScheme.1 hspecial⟩

/-- A URL that is read is a URL of the web only with an authority. -/
theorem hasOrigin_of_read {address : String} (h : read address = .ok url)
    (hweb : IsWeb url.scheme) : HasOrigin url.scheme url := by
  unfold read readFrom at h
  dsimp only at h
  split at h
  next scheme rest _ _ =>
    obtain ⟨hscheme, horigin⟩ := readScheme_spec (fun _ hb => by cases hb) h
    rw [hscheme] at hweb ⊢
    exact horigin hweb
  next heq => cases heq
  next => cases h

/-- A scheme is written in lower case. -/
def IsScheme (scheme : List Char) : Prop :=
  ∀ c ∈ scheme, isSchemeChar c = true ∧ c.isUpper = false

/-- The schemes of the web are written in lower case. -/
theorem IsWeb.isScheme (h : IsWeb scheme) : IsScheme scheme := by
  have hall {text : List Char} (h : (text.all fun c => isSchemeChar c && !c.isUpper) = true) :
      IsScheme text := by
    simpa [IsScheme] using h
  rcases h with rfl | rfl <;> exact hall (by decide)

/-- A character of a scheme can be written in lower case. -/
theorem isSchemeChar_toLower {c : Char} (h : isSchemeChar c = true) :
    isSchemeChar c.toLower = true := by
  by_cases halpha : c.isAlpha = true
  · simp [isSchemeChar, Char.isAlphanum, Char.isAlpha_toLower_eq_isAlpha, halpha]
  · -- Only letters are written in another way.
    have hupper : ¬ c.isUpper = true := fun hupper => halpha (by simp [Char.isAlpha, hupper])
    rwa [Char.toLower_eq_of_not_isUpper hupper]

/-- The characters of a scheme are those of a scheme in lower case. -/
theorem isScheme_map_toLower (h : ∀ c ∈ text, isSchemeChar c = true) :
    IsScheme (text.map Char.toLower) := by
  intro c hc
  obtain ⟨c, hmem, rfl⟩ := List.mem_map.mp hc
  exact ⟨isSchemeChar_toLower (h c hmem), Char.isUpper_toLower_eq_false c⟩

/-- A letter may stand in a scheme. -/
theorem isSchemeChar_of_isAlpha {c : Char} (h : c.isAlpha = true) : isSchemeChar c = true := by
  simp [isSchemeChar, Char.isAlphanum, h]

/-- The scheme that a text is split at is written in lower case. -/
theorem isScheme_of_splitScheme? (h : splitScheme? text = some (scheme, rest)) :
    IsScheme scheme := by
  unfold splitScheme? at h
  split at h
  next => cases h
  next c text =>
    split at h
    next halpha =>
      split at h
      next =>
        cases h
        refine isScheme_map_toLower fun d hd => ?_
        rcases List.mem_cons.mp hd with rfl | hd
        · exact isSchemeChar_of_isAlpha halpha
        · exact List.all_eq_true.mp List.all_takeWhile d hd
      next => cases h
    next => cases h

/-- A text is split behind a letter at the first character that may not stand in a scheme, if this
is a colon. -/
theorem splitScheme?_append {c mark : Char} {name : List Char} (hc : c.isAlpha = true)
    (hname : ∀ d ∈ name, isSchemeChar d = true) (hmark : isSchemeChar mark = false) :
    splitScheme? (c :: name ++ mark :: rest) =
      if mark = ':' then some ((c :: name).map Char.toLower, rest) else none := by
  have hstop : ∀ d ∈ (mark :: rest).head?, isSchemeChar d = false := by simp [hmark]
  unfold splitScheme?
  dsimp only [List.cons_append]
  rw [if_pos hc, Text.dropWhile_append_of_stop hname hstop,
    Text.takeWhile_append_of_stop hname hstop]
  split
  next heq =>
    cases heq
    rfl
  next hne => exact (if_neg fun hcolon => hne rest (by rw [hcolon])).symm

/-- The beginning of a text counts if each of its characters does. -/
theorem exists_significant_append {front : List Char} (hne : front ≠ [])
    (hfront : ∀ c ∈ front, isControlOrSpace c = false) (rest : List Char) :
    ∃ behind, significant (front ++ rest) = front ++ behind := by
  obtain ⟨tail, hrest, htail, hlast⟩ := Text.dropTrailing_spec isControlOrSpace rest
  have hstart : (front ++ rest).dropWhile isControlOrSpace = front ++ rest := by
    obtain ⟨c, front, rfl⟩ := List.exists_cons_of_ne_nil hne
    exact List.dropWhile_cons_of_neg (by simp [hfront c List.mem_cons_self])
  have hend : Text.dropTrailing isControlOrSpace (front ++ rest) =
      front ++ Text.dropTrailing isControlOrSpace rest := by
    conv_lhs => rw [hrest, ← List.append_assoc]
    rw [Text.dropTrailing_append htail]
    refine Text.dropTrailing_eq_self fun c hc => ?_
    rcases List.eq_nil_or_concat (Text.dropTrailing isControlOrSpace rest) with hnil | ⟨_, _, hkept⟩
    · rw [hnil, List.append_nil] at hc
      exact hfront c (List.mem_of_mem_getLast? hc)
    · rw [Text.getLast?_append_of_ne_nil (by simp [hkept])] at hc
      exact hlast c hc
  have hkeep : front.filter (!isIgnored ·) = front := by
    refine List.filter_eq_self.mpr fun c hc => ?_
    have hc := hfront c hc
    cases hignored : isIgnored c with
    | false => rfl
    | true =>
      have hcases : (c = '\t' ∨ c = '\n') ∨ c = '\r' := by simpa [isIgnored] using hignored
      rcases hcases with (rfl | rfl) | rfl <;> exact absurd hc (by decide)
  unfold significant
  rw [hstart, hend, List.filter_append, hkeep]
  exact ⟨_, rfl⟩

/-- The scheme that a reference names, if it names one. -/
def schemeOf? (reference : String) : Option (List Char) :=
  (splitScheme? (significant reference.toList)).map Prod.fst

/-- A scheme that is named is written in lower case. -/
theorem isScheme_of_schemeOf? {reference : String} (h : schemeOf? reference = some scheme) :
    IsScheme scheme := by
  obtain ⟨⟨_, rest⟩, hsplit, rfl⟩ := Option.map_eq_some_iff.mp h
  exact isScheme_of_splitScheme? hsplit

/-- A reference has the scheme that it names, or else that of the URL of the web that it is joined
to. If this is a scheme of the web, the result has an authority. -/
theorem join_spec {reference : String} (hbase : HasOrigin base.scheme base)
    (hweb : IsWeb base.scheme) (h : base.join reference = .ok url) :
    url.scheme = (schemeOf? reference).getD base.scheme ∧
      (IsWeb url.scheme → HasOrigin url.scheme url) := by
  unfold join readFrom at h
  unfold schemeOf?
  dsimp only at h
  split at h
  next scheme rest hsplit =>
    have hauthority : ∀ b ∈ some base, b.authority.isSome = true := by
      intro b hb
      cases hb
      exact hbase.authority
    obtain ⟨rfl, horigin⟩ := readScheme_spec hauthority h
    exact ⟨by rw [hsplit]; rfl, horigin⟩
  next base' hsplit heq =>
    cases heq
    suffices horigin : HasOrigin base.scheme url by
      refine ⟨by rw [hsplit]; exact horigin.scheme_eq, fun _ => ?_⟩
      rw [horigin.scheme_eq]
      exact horigin
    unfold readReference at h
    split at h
    next => cases h; exact ⟨rfl, hbase.authority⟩
    next =>
      split at h
      · cases h
      · rw [hweb.isSpecialScheme.2] at h
        exact hasOrigin_readRelative hbase.authority h
  next heq => cases heq

end Url

end Retrace
