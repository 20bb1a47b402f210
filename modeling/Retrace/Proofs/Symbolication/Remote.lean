import Retrace.Artifact.Loader
import Retrace.Proofs.Symbolication.Locate
import Retrace.Proofs.Url

/-!
# References inside pages

An artifact that was had from the web refers to its source map by a text that nobody has checked.
What is then asked for is on the web just when the reference names no scheme, or one of the web
(`Place.isRemote_resolve_iff`); only then is it certain that no file is read for it
(`exists_page_iff_isRemote`). A reference with another scheme stands for itself, and with the scheme
of files it has a file of this machine read.
-/

namespace Retrace

open Directive (IsExternal)

variable {location reference : String} {scheme rest : List Char}

/-- One of the two forms of a letter is the lower one. -/
theorem toLower_of_isLetter {lower upper c : Char} (hlower : lower.toLower = lower)
    (hupper : upper.toLower = lower) (h : isLetter lower upper c = true) :
    c.toLower = lower ∨ lower = 's' ∧ c = 'ſ' := by
  have hcases : (c = lower ∨ c = upper) ∨ lower = 's' ∧ c = 'ſ' := by simpa [isLetter] using h
  rcases hcases with (rfl | rfl) | hlong
  · exact .inl hlower
  · exact .inl hupper
  · exact .inr hlong

/-- A location of the web starts with a scheme of the web, in any case. Behind it stands a colon, or
a long s in place of the short one. -/
theorem exists_of_isRemote (h : isRemote location = true) :
    ∃ name mark rest, location.toList = name ++ mark :: rest ∧
      Url.IsWeb (name.map Char.toLower) ∧ (mark = ':' ∨ mark = 'ſ') := by
  have hsmall {lower upper c : Char} (hs : lower ≠ 's') (hlower : lower.toLower = lower)
      (hupper : upper.toLower = lower) (h : isLetter lower upper c = true) : c.toLower = lower :=
    (toLower_of_isLetter hlower hupper h).resolve_right fun hlong => hs hlong.1
  unfold isRemote at h
  split at h
  next a b c d behind hlocation =>
    simp only [Bool.and_eq_true] at h
    obtain ⟨⟨⟨⟨ha, hb⟩, hc⟩, hd⟩, hbehind⟩ := h
    have hhttp : [a, b, c, d].map Char.toLower = "http".toList := by
      simp [hsmall (by decide) (by decide) (by decide) ha,
        hsmall (by decide) (by decide) (by decide) hb,
        hsmall (by decide) (by decide) (by decide) hc,
        hsmall (by decide) (by decide) (by decide) hd]
    split at hbehind
    next => exact ⟨[a, b, c, d], ':', _, hlocation, .inl hhttp, .inl rfl⟩
    next s _ =>
      rcases toLower_of_isLetter (by decide) (by decide) hbehind with hs | ⟨-, rfl⟩
      · have hhttps : [a, b, c, d, s].map Char.toLower = "https".toList := by
          show [a, b, c, d].map Char.toLower ++ [s.toLower] = _
          rw [hhttp, hs]
          rfl
        exact ⟨[a, b, c, d, s], ':', _, hlocation, .inr hhttps, .inl rfl⟩
      · exact ⟨[a, b, c, d], 'ſ', _, hlocation, .inl hhttp, .inr rfl⟩
    next => cases hbehind
  next => cases h

namespace Url

variable {base url : Url} {mark : Char} {name : List Char}

/-- Neither a colon nor a long s may stand in a scheme. -/
theorem isSchemeChar_mark (h : mark = ':' ∨ mark = 'ſ') :
    isSchemeChar mark = false ∧ isControlOrSpace mark = false := by
  rcases h with rfl | rfl <;> decide

/-- The characters of a scheme of the web in any case are letters. -/
theorem IsWeb.isAlpha (h : IsWeb (name.map Char.toLower)) : ∀ c ∈ name, c.isAlpha = true := by
  intro c hc
  have hmem : c.toLower ∈ name.map Char.toLower := List.mem_map_of_mem hc
  rw [← Char.isAlpha_toLower_eq_isAlpha]
  rcases h with h | h
  · rw [h] at hmem
    exact List.all_eq_true.mp (by decide : "http".toList.all Char.isAlpha = true) _ hmem
  · rw [h] at hmem
    exact List.all_eq_true.mp (by decide : "https".toList.all Char.isAlpha = true) _ hmem

/-- A text with a scheme in front is a location of the web only if the scheme is one of the web. -/
theorem isWeb_of_isRemote (hscheme : IsScheme scheme)
    (h : isRemote (String.ofList (scheme ++ ':' :: rest)) = true) : IsWeb scheme := by
  obtain ⟨name, mark, behind, htext, hweb, hmark⟩ := exists_of_isRemote h
  rw [String.toList_ofList] at htext
  -- Both names end at the first character that may not stand in a scheme.
  have hname : ∀ c ∈ name, isSchemeChar c = true :=
    fun c hc => isSchemeChar_of_isAlpha (hweb.isAlpha c hc)
  have hstop : ∀ c ∈ (mark :: behind).head?, isSchemeChar c = false := by
    simp [isSchemeChar_mark hmark]
  have hcolon : ∀ c ∈ (':' :: rest).head?, isSchemeChar c = false := by
    simp [isSchemeChar_mark (.inl rfl)]
  obtain rfl : scheme = name := by
    rw [← Text.takeWhile_append_of_stop (fun c hc => (hscheme c hc).1) hcolon, htext,
      Text.takeWhile_append_of_stop hname hstop]
  have hlower : scheme.map Char.toLower = scheme := by
    conv_rhs => rw [← List.map_id scheme]
    refine List.map_congr_left fun c hc => ?_
    exact Char.toLower_eq_of_not_isUpper (by simp [(hscheme c hc).2])
  rwa [hlower] at hweb

/-- A page of the web is a location of the web when it is printed. -/
theorem HasOrigin.isRemote_toText (h : HasOrigin scheme url) (hweb : IsWeb scheme) :
    isRemote url.toText = true := by
  obtain ⟨authority, hauthority⟩ := Option.isSome_iff_exists.mp h.authority
  unfold isRemote toText print printPage
  rw [String.toList_ofList, h.scheme_eq, hauthority]
  rcases hweb with rfl | rfl <;> rfl

/-- A URL that is printed is a location of the web just when its scheme is one of the web. -/
theorem isRemote_toText_iff (hscheme : IsScheme url.scheme)
    (horigin : IsWeb url.scheme → HasOrigin url.scheme url) :
    isRemote url.toText = true ↔ IsWeb url.scheme := by
  refine ⟨fun h => ?_, fun hweb => (horigin hweb).isRemote_toText hweb⟩
  unfold toText print printPage at h
  simp only [List.append_assoc, List.cons_append] at h
  exact isWeb_of_isRemote hscheme h

/-- Seen from a page of the web, a reference leads to the web: it names no scheme, or one of the
web. -/
def StaysOnWeb (reference : String) : Prop :=
  ∀ scheme ∈ schemeOf? reference, IsWeb scheme

/-- A letter is no space. -/
theorem isControlOrSpace_of_isAlpha {c : Char} (h : c.isAlpha = true) :
    isControlOrSpace c = false := by
  have hrange := Text.isAlphanum_iff.mp (show c.isAlphanum = true by simp [Char.isAlphanum, h])
  refine decide_eq_false fun hle => ?_
  have hcode : c.toNat ≤ 32 := hle
  omega

/-- A location of the web names a scheme of the web, if any. -/
theorem staysOnWeb_of_isRemote (h : isRemote reference = true) : StaysOnWeb reference := by
  obtain ⟨name, mark, rest, htext, hweb, hmark⟩ := exists_of_isRemote h
  obtain ⟨hstop, hcounts⟩ := isSchemeChar_mark hmark
  have halpha := hweb.isAlpha
  obtain ⟨c, tail, rfl⟩ : ∃ c tail, name = c :: tail := by
    refine List.exists_cons_of_ne_nil ?_
    rintro rfl
    rcases hweb with h | h <;> exact absurd h (by decide)
  have hfront : ∀ d ∈ c :: tail ++ [mark], isControlOrSpace d = false := by
    intro d hd
    rcases List.mem_append.mp hd with hd | hd
    · exact isControlOrSpace_of_isAlpha (halpha d hd)
    · rw [List.mem_singleton.mp hd]
      exact hcounts
  obtain ⟨behind, hbehind⟩ := exists_significant_append (by simp) hfront rest
  have hsplit : splitScheme? (c :: tail ++ mark :: behind) =
      if mark = ':' then some ((c :: tail).map Char.toLower, behind) else none :=
    splitScheme?_append (halpha c List.mem_cons_self)
      (fun d hd => isSchemeChar_of_isAlpha (halpha d (List.mem_cons_of_mem c hd))) hstop
  intro scheme hscheme
  rw [List.append_assoc, List.singleton_append, ← htext] at hbehind
  unfold schemeOf? at hscheme
  rw [hbehind, List.append_assoc, List.singleton_append, hsplit] at hscheme
  split at hscheme
  · cases hscheme
    exact hweb
  · cases hscheme

/-- Seen from a page of the web, a reference points to the web just when it does not leave it. -/
theorem isRemote_join_iff (hbase : HasOrigin base.scheme base) (hweb : IsWeb base.scheme)
    (h : base.join reference = .ok url) : isRemote url.toText = true ↔ StaysOnWeb reference := by
  obtain ⟨hscheme, horigin⟩ := join_spec hbase hweb h
  unfold StaysOnWeb
  cases hnamed : schemeOf? reference with
  | none =>
    rw [hnamed] at hscheme
    have hurl : url.scheme = base.scheme := hscheme
    rw [isRemote_toText_iff (hurl ▸ hweb.isScheme) horigin, hurl]
    exact ⟨fun _ _ hnone => (by cases hnone), fun _ => hweb⟩
  | some scheme =>
    rw [hnamed] at hscheme
    have hurl : url.scheme = scheme := hscheme
    rw [isRemote_toText_iff (hurl ▸ isScheme_of_schemeOf? hnamed) horigin, hurl]
    exact ⟨fun hweb _ hsome => Option.some.inj hsome ▸ hweb, fun hstays => hstays scheme rfl⟩

end Url

/-- Seen from a page of the web, a reference resolves to a location of the web just when it does not
leave the web. -/
theorem Place.isRemote_resolve_iff {page : Url} (hpage : Url.HasOrigin page.scheme page)
    (hweb : Url.IsWeb page.scheme) (h : (Place.remote page).resolve reference = .ok location) :
    isRemote location = true ↔ Url.StaysOnWeb reference := by
  unfold resolve at h
  split at h
  next hremote =>
    cases h
    exact ⟨Url.staysOnWeb_of_isRemote, fun _ => hremote⟩
  next =>
    dsimp only at h
    cases hjoin : page.join reference with
    | error fault =>
      rw [hjoin] at h
      cases h
    | ok url =>
      rw [hjoin] at h
      cases h
      exact Url.isRemote_join_iff hpage hweb hjoin

/-! ### What is read -/

/-- At a location of the web a page is asked for, and at any other one a file. -/
theorem exists_page_iff_isRemote {reply : (source : Source) → source.Reply} {source : Source}
    (h : source ∈ (load location).asked reply) :
    (∃ page, source = .page page) ↔ isRemote location = true := by
  unfold load at h
  split at h
  next hremote =>
    split at h
    next => cases h
    next url _ =>
      obtain rfl := List.mem_singleton.mp h
      exact iff_of_true ⟨url, rfl⟩ hremote
  next hremote =>
    split at h
    next => cases h
    next path _ =>
      obtain rfl := List.mem_singleton.mp h
      exact iff_of_false nofun hremote

namespace Artifact

variable {answer : String → Except FetchFault Artifact} {page : Url} {text : String}

/-- What is asked for an artifact of the web is on the web just when the reference does not leave
the web, and what is read there is a page in this case only. -/
theorem asked_isRemote_iff {address : String} (hread : Url.read address = .ok page)
    (hweb : Url.IsWeb page.scheme)
    (hasked : location ∈ (⟨text, .remote page⟩ : Artifact).locateMap.asked answer) :
    ∃ reference : String, IsExternal text.toList reference.toList ∧
      ¬ "data:".toList <+: reference.toList ∧
      (⟨text, .remote page⟩ : Artifact).locateMap.asked answer = [location] ∧
      (isRemote location = true ↔ Url.StaysOnWeb reference) ∧
      ∀ (reply : (source : Source) → source.Reply), ∀ source ∈ (load location).asked reply,
        (∃ page, source = .page page) ↔ Url.StaysOnWeb reference := by
  obtain ⟨hall, reference, hreference, hdata, hresolve⟩ := exists_of_asked_locateMap hasked
  have hiff := Place.isRemote_resolve_iff (Url.hasOrigin_of_read hread hweb) hweb hresolve
  exact ⟨reference, hreference, hdata, hall, hiff,
    fun _ _ hsource => (exists_page_iff_isRemote hsource).trans hiff⟩

/-- A reference without a scheme stays on the web. -/
theorem asked_isRemote_iff_root_relative :
    let page : Url :=
      ⟨"https".toList, some ⟨[], "h".toList, none⟩, .segments ["a.js".toList], none, none⟩
    let artifact : Artifact := ⟨"//# sourceMappingURL=/maps/a.js.map", .remote page⟩
    let location := "https://h/maps/a.js.map"
    Url.read "https://h/a.js" = .ok page ∧ Url.IsWeb page.scheme ∧
      artifact.locateMap.asked (memoryArtifact []) = [location] ∧
      Url.StaysOnWeb "/maps/a.js.map" ∧ isRemote location = true ∧
      ∀ (reply : (source : Source) → source.Reply), ∀ source ∈ (load location).asked reply,
        ∃ page, source = .page page := by
  intro page artifact location
  have hread : Url.read "https://h/a.js" = .ok page := eq_ok_of_toOption (by decide +kernel)
  have hexternal : IsExternal artifact.text.toList "/maps/a.js.map".toList :=
    Directive.find?_eq_external_iff.mp (by decide)
  have hresolve : artifact.place.resolve "/maps/a.js.map" = .ok location :=
    eq_ok_of_toOption (by decide +kernel)
  have hasked : artifact.locateMap.asked (memoryArtifact []) = [location] :=
    (locateMap_of_ok hexternal (by decide) hresolve).1
  obtain ⟨reference, hreference, -, -, hiff, hsource⟩ :=
    asked_isRemote_iff hread (.inr rfl) (hasked ▸ List.mem_singleton_self location)
  obtain rfl := hreference.reference_eq hexternal
  have hremote : isRemote location = true := by decide
  have hstays := hiff.mp hremote
  exact ⟨hread, .inr rfl, hasked, hstays, hremote,
    fun reply source h => (hsource reply source h).mpr hstays⟩

/-- A page can have a file of this machine read: its reference is the URL of the file. -/
theorem asked_file_of_page :
    let page : Url :=
      ⟨"https".toList, some ⟨[], "h".toList, none⟩, .segments ["a.js".toList], none, none⟩
    let artifact : Artifact := ⟨"//# sourceMappingURL=file:///etc/passwd", .remote page⟩
    let location := "file:///etc/passwd"
    Url.read "https://h/a.js" = .ok page ∧ Url.IsWeb page.scheme ∧
      IsExternal artifact.text.toList location.toList ∧ ¬ "data:".toList <+: location.toList ∧
      artifact.locateMap.asked (memoryArtifact []) = [location] ∧ isRemote location = false ∧
      ∀ reply : (source : Source) → source.Reply,
        (load location).asked reply = [.file "/etc/passwd"] := by
  intro page artifact location
  have hread : Url.read "https://h/a.js" = .ok page := eq_ok_of_toOption (by decide +kernel)
  have hexternal : IsExternal artifact.text.toList location.toList :=
    Directive.find?_eq_external_iff.mp (by decide)
  have hresolve : artifact.place.resolve location = .ok location :=
    eq_ok_of_toOption (by decide +kernel)
  have hpath : localPath location = .ok "/etc/passwd" := eq_ok_of_toOption (by decide +kernel)
  refine ⟨hread, .inr rfl, hexternal, by decide,
    (locateMap_of_ok hexternal (by decide) hresolve).1, by decide, fun reply => ?_⟩
  unfold load
  rw [if_neg (by decide), hpath]
  rfl

end Artifact

end Retrace
