import Retrace.Proofs.Json.Reading

/-!
# Records written as objects

An object may state the members of a record in any order and others between them. What it is read as
depends only on what it states of each declared member: it is the record that is put together in the
order of declaration, whatever the order of the object (`Shape.takes_object`).

The reader takes the members as they come (`take?`), and each replaces its own part. In a regular
shape (`IsRegular`) the replacements of different members can be exchanged, so that any member can be
taken first (`assemble?_eq_bind`). The induction over the object goes by the declared members that have
not been met yet.
-/

namespace Retrace.Json

variable {α β : Type}

/-- The record that the values of members give, in the order of their declaration; nothing when a
value is not of its kind or a required one is missing. -/
def assemble? (lookup : String → Option Tree) : List (Member α) → α → Option α
  | [], record => some record
  | member :: members, record =>
    match lookup member.name with
    | none => if member.presence = .required then none else assemble? lookup members record
    | some tree =>
      (member.read.ofTree? tree).bind fun set => assemble? lookup members (set record)

/-- What the value of a member stands for that may be missing, or `null` as well. -/
def Tree.given? (decode : Tree → Option α) : Option Tree → Option (Option α)
  | none => some none
  | some tree => Tree.optional? decode tree

/-- Two members replace different parts of a record. -/
def Member.Commutes (a b : Member α) : Prop :=
  ∀ (tree tree' : Tree) (set set' : α → α), a.read.ofTree? tree = some set →
    b.read.ofTree? tree' = some set' → ∀ record, set (set' record) = set' (set record)

namespace Shape

open Reader (Leaves Takes)

/-- The members of a shape can be taken in any order: it is open to others, its names are distinct,
its readers decode values, and its members replace different parts. -/
structure IsRegular (shape : Shape α) : Prop where
  /-- Members that are not declared are skipped. -/
  isOpen : shape.closed = false
  /-- The names of the members are distinct. -/
  nodup : (shape.members.map (·.name)).Nodup
  /-- The readers of the members decode values. -/
  decodes : ∀ member ∈ shape.members, member.read.Decodes member.read.ofTree?
  /-- The members replace different parts. -/
  commutes : shape.members.Pairwise Member.Commutes

/-- No declared member is stated more than once. -/
def StatesOnce (shape : Shape α) (names : List String) : Prop :=
  ∀ member ∈ shape.members, names.count member.name ≤ 1

variable {shape : Shape α}

/-- Where the names are distinct, each is stated once. -/
theorem StatesOnce.of_nodup {names : List String} (h : names.Nodup) : shape.StatesOnce names :=
  fun member _ => List.nodup_iff_count.mp h member.name

/-- A member that is stated has not been met before. -/
theorem StatesOnce.not_mem_seen {names seen : List String} (h : shape.StatesOnce (names ++ seen))
    {member : Member α} (hmem : member ∈ shape.members) (hname : member.name ∈ names) :
    member.name ∉ seen := by
  intro hseen
  have hcount := h member hmem
  rw [List.count_append] at hcount
  have hpos := List.count_pos_iff.mpr hname
  have hpos' := List.count_pos_iff.mpr hseen
  omega

/-- It does not matter whether a name is met now or has been met before. -/
theorem StatesOnce.cons {names seen : List String} {name : String}
    (h : shape.StatesOnce (name :: names ++ seen)) : shape.StatesOnce (names ++ name :: seen) := by
  intro member hmem
  rw [List.perm_middle.count_eq]
  exact h member hmem

/-! ### Members in the order of an object -/

/-- What a member of an object replaces. -/
def replacement? (shape : Shape α) (name : String) (value : Tree) : Option (α → α) :=
  match shape.members.find? (·.name = name) with
  | none => some id
  | some member => member.read.ofTree? value

/-- The record into which the members of an object are taken as they come. -/
def take? (shape : Shape α) : List (String × Tree) → α → Option α
  | [], record => some record
  | (name, value) :: members, record =>
    (shape.replacement? name value).bind fun set => take? shape members (set record)

/-- Skipping a value leaves what follows it. -/
theorem skipValue_tokens (tree : Tree) (rest : List Token) :
    ∃ h, skipValue (tree.tokens ++ rest) = .ok ⟨rest, h⟩ := by
  have hskip := skip_tokens tree rest
  refine ⟨skip_length_lt hskip, ?_⟩
  unfold skipValue
  split
  next herror => cases herror.symm.trans hskip
  next hok =>
    cases hok.symm.trans hskip
    rfl

/-- The value of a member is read as what it replaces. -/
theorem memberValue_leaves (hregular : shape.IsRegular) {seen : List String} {name : String}
    (hnew : ∀ member ∈ shape.members, member.name = name → name ∉ seen) (value : Tree)
    (rest : List Token) :
    Leaves (shape.memberValue seen name (.colon :: (value.tokens ++ rest))) rest
      (shape.replacement? name value) := by
  unfold replacement? memberValue
  cases hfind : shape.members.find? (·.name = name) with
  | none =>
    obtain ⟨hlt, hskip⟩ := skipValue_tokens value rest
    dsimp only
    rw [hregular.isOpen, if_neg Bool.false_ne_true]
    refine ⟨Nat.lt_succ_of_lt hlt, ?_⟩
    show (skipValue (value.tokens ++ rest) >>= _) = _
    rw [hskip]
    rfl
  | some member =>
    have hmem := List.mem_of_find?_eq_some hfind
    have hname : member.name = name := by simpa using List.find?_some hfind
    have hseen : seen.contains name = false := by simpa using hnew member hmem hname
    dsimp only
    rw [hseen, if_neg Bool.false_ne_true]
    exact (hregular.decodes member hmem value rest).behind .colon

variable {seen : List String} {name : String} {result : Option (α → α)}
  {after behind rest : List Token}

/-- A member before the closing brace is the last one. -/
theorem readMembers_of_close (record : α)
    (h : Leaves (shape.memberValue seen name after) (.closeRecord :: rest) result) :
    Leaves (shape.readMembers record seen (.text (some name) :: after)) rest
      (result.map fun set => (set record, name :: seen)) := by
  rw [readMembers, memberName]
  dsimp only [Rest.tail]
  cases result with
  | none =>
    obtain ⟨fault, herror⟩ := h
    exact ⟨fault, by rw [herror]⟩
  | some set =>
    obtain ⟨hlt, hok⟩ := h
    exact ⟨Nat.lt_succ_of_lt (Nat.lt_of_succ_lt hlt), by rw [hok]⟩

/-- Behind a member before a comma further ones are read. -/
theorem readMembers_of_comma (record : α) {results : (α → α) → Option (α × List String)}
    (h : Leaves (shape.memberValue seen name after) (.comma :: behind) result)
    (hrest : ∀ set, Leaves (shape.readMembers (set record) (name :: seen) behind) rest
      (results set)) :
    Leaves (shape.readMembers record seen (.text (some name) :: after)) rest
      (result.bind results) := by
  rw [readMembers, memberName]
  dsimp only [Rest.tail]
  cases result with
  | none =>
    obtain ⟨fault, herror⟩ := h
    exact ⟨fault, by rw [herror]⟩
  | some set =>
    obtain ⟨hlt, hok⟩ := h
    have hothers := hrest set
    show Leaves _ rest (results set)
    cases hresult : results set with
    | none =>
      rw [hresult] at hothers
      obtain ⟨fault, herror⟩ := hothers
      refine ⟨fault, ?_⟩
      rw [hok]
      dsimp only
      rw [herror]
    | some final =>
      rw [hresult] at hothers
      obtain ⟨hlt', hok'⟩ := hothers
      refine ⟨Nat.lt_succ_of_lt (Nat.lt_trans hlt' (Nat.lt_of_succ_lt hlt)), ?_⟩
      rw [hok]
      dsimp only
      rw [hok']

/-- The members of an object are read as they come, and their names are those that are met. -/
theorem readMembers_leaves (hregular : shape.IsRegular) (record : α) {members : List (String × Tree)}
    (hne : members ≠ []) (honce : shape.StatesOnce (members.map Prod.fst ++ seen))
    (rest : List Token) :
    Leaves (shape.readMembers record seen
        (Tree.memberTokens (members.map fun m => (some m.1, m.2)) ++ .closeRecord :: rest)) rest
      ((shape.take? members record).map fun final =>
        (final, (members.map Prod.fst).reverse ++ seen)) := by
  induction members generalizing record seen with
  | nil => exact absurd rfl hne
  | cons member members ih =>
    obtain ⟨name, value⟩ := member
    have hnew : ∀ member ∈ shape.members, member.name = name → name ∉ seen := by
      rintro member hmem rfl
      exact honce.not_mem_seen hmem List.mem_cons_self
    have hvalue := memberValue_leaves hregular hnew value
    unfold take?
    cases members with
    | nil =>
      have hlast := readMembers_of_close record (hvalue (.closeRecord :: rest))
      cases hset : shape.replacement? name value <;> rwa [hset] at hlast
    | cons next members =>
      have htokens : Tree.memberTokens (((name, value) :: next :: members).map
            fun m => (some m.1, m.2)) ++ .closeRecord :: rest =
          .text (some name) :: .colon :: (value.tokens ++ .comma ::
            (Tree.memberTokens ((next :: members).map fun m => (some m.1, m.2)) ++
              .closeRecord :: rest)) := by
        rw [List.map_cons, List.map_cons, Tree.memberTokens, List.cons_append, List.cons_append,
          List.append_assoc]
        rfl
      have honce' : shape.StatesOnce ((next :: members).map Prod.fst ++ name :: seen) := honce.cons
      have hothers := readMembers_of_comma record (hvalue (.comma :: _)) fun set =>
        ih (set record) (List.cons_ne_nil _ _) honce'
      -- The names are met from the first on, so that the last one stands at the front.
      have hnames : (((name, value) :: next :: members).map Prod.fst).reverse ++ seen =
          ((next :: members).map Prod.fst).reverse ++ name :: seen := by
        rw [List.map_cons, List.reverse_cons, List.append_assoc, List.singleton_append]
      rw [htokens, hnames, Option.map_bind]
      exact hothers

end Shape

/-! ### Members in the order of declaration -/

section Assembling

variable {lookup lookup' : String → Option Tree} {members : List (Member α)}

/-- What is put together depends only on the values of the members. -/
theorem assemble?_congr (h : ∀ member ∈ members, lookup member.name = lookup' member.name)
    (record : α) : assemble? lookup members record = assemble? lookup' members record := by
  induction members generalizing record with
  | nil => rfl
  | cons member members ih =>
    have hothers (record : α) :=
      ih (fun other hother => h other (List.mem_cons_of_mem _ hother)) record
    unfold assemble?
    rw [h member List.mem_cons_self]
    simp only [hothers]

/-- Where nothing is stated the record stays as it is, when nothing is required. -/
theorem assemble?_none (members : List (Member α)) (record : α) :
    assemble? (fun _ => none) members record =
      if members.all (·.presence ≠ .required) then some record else none := by
  induction members with
  | nil => rfl
  | cons member members ih =>
    unfold assemble?
    dsimp only
    rw [ih, List.all_cons]
    by_cases h : member.presence = .required <;> simp [h]

/-- Any member that is stated can be taken first. -/
theorem assemble?_eq_bind (hnodup : (members.map (·.name)).Nodup)
    (hcommutes : members.Pairwise Member.Commutes) {member : Member α} (hmem : member ∈ members)
    {tree : Tree} (htree : lookup member.name = some tree) (record : α) :
    assemble? lookup members record =
      (member.read.ofTree? tree).bind fun set =>
        assemble? lookup (members.filter (·.name ≠ member.name)) (set record) := by
  induction members generalizing record with
  | nil => cases hmem
  | cons first members ih =>
    obtain ⟨hfirst, hnodup⟩ := List.nodup_cons.mp hnodup
    obtain ⟨hcommutes, hothers⟩ := List.pairwise_cons.mp hcommutes
    have hdistinct (other : Member α) (hother : other ∈ members) : other.name ≠ first.name :=
      fun heq => hfirst (List.mem_map.mpr ⟨other, hother, heq⟩)
    obtain rfl | hmem := List.mem_cons.mp hmem
    · -- The member is the first one, and the others keep their place, as they have other names.
      have hkeep : (member :: members).filter (·.name ≠ member.name) = members := by
        rw [List.filter_cons_of_neg (by simp), List.filter_eq_self]
        exact fun other hother => decide_eq_true (hdistinct other hother)
      rw [hkeep, assemble?, htree]
    · -- Another one is the first, and what the two replace is exchanged.
      rw [List.filter_cons_of_pos (by simpa using (hdistinct member hmem).symm)]
      simp only [assemble?]
      have hmember (record : α) := ih hnodup hothers hmem record
      cases lookup first.name with
      | none =>
        by_cases hrequired : first.presence = .required
        · simp [hrequired]
        · simpa only [if_neg hrequired] using hmember record
      | some tree' =>
        cases hset' : first.read.ofTree? tree' with
        | none => simp only [hset', Option.bind_none, Option.bind_fun_none]
        | some set' =>
          simp only [hset', Option.bind_some, hmember]
          cases hset : member.read.ofTree? tree with
          | none => rfl
          | some set =>
            rw [Option.bind_some, Option.bind_some, hcommutes member hmem _ _ _ _ hset' hset]

variable {reader : Reader β} {decode : Tree → Option β} {set : β → α → α}

/-- A required member gives a part of the record that is put together, and the others follow. -/
theorem assemble?_required (hreader : reader.Decodes decode) {name : String} {record final : α} :
    assemble? lookup (.of name .required reader set :: members) record = some final ↔
      ∃ value, (lookup name).bind decode = some value ∧
        assemble? lookup members (set value record) = some final := by
  have hdecode := (hreader.map set).ofTree?_eq
  rw [assemble?]
  simp only [Member.of, hdecode]
  cases lookup name with
  | none => simp
  | some tree => simp [Option.bind_eq_some_iff]

/-- A member that may be missing is the same as an absent one when it is, provided that this is what
the record says of it at first. -/
theorem assemble?_optional (hreader : reader.Decodes decode) {name : String} {presence : Presence}
    (hpresence : presence ≠ .required) {set : Option β → α → α} {record final : α}
    (hset : set none record = record) :
    assemble? lookup (.of name presence (.optional reader) set :: members) record = some final ↔
      ∃ value, Tree.given? decode (lookup name) = some value ∧
        assemble? lookup members (set value record) = some final := by
  have hdecode := (hreader.optional.map set).ofTree?_eq
  rw [assemble?]
  simp only [Member.of, hdecode]
  cases lookup name with
  | none => simp [Tree.given?, hpresence, hset]
  | some tree => simp [Tree.given?, Option.bind_eq_some_iff]

end Assembling

/-! ### Declared members -/

@[simp]
theorem Member.name_of (name : String) (presence : Presence) (reader : Reader β)
    (set : β → α → α) : (Member.of name presence reader set).name = name :=
  rfl

/-- A member decodes values when its reader does. -/
@[simp]
theorem Member.decodes_of {name : String} {presence : Presence} {reader : Reader β}
    {set : β → α → α} (h : reader.Decodes reader.ofTree?) :
    (Member.of name presence reader set).read.Decodes
      (Member.of name presence reader set).read.ofTree? :=
  (h.map set).self

/-- Members that set different parts replace different parts. -/
@[simp]
theorem Member.commutes_of {β γ : Type} {name name' : String} {presence presence' : Presence}
    {reader : Reader β} {reader' : Reader γ} {set : β → α → α} {set' : γ → α → α}
    (h : ∀ value value' record, set value (set' value' record) = set' value' (set value record)) :
    (Member.of name presence reader set).Commutes (.of name' presence' reader' set') := by
  have hmap {δ : Type} (reader : Reader δ) (set : δ → α → α) {tree : Tree} {replace : α → α}
      (hreplace : (reader.map set).ofTree? tree = some replace) : ∃ value, replace = set value := by
    unfold Reader.ofTree? Reader.map at hreplace
    cases hread : reader tree.tokens with
    | error => rw [hread] at hreplace; cases hreplace
    | ok result => rw [hread] at hreplace; cases hreplace; exact ⟨_, rfl⟩
  intro tree tree' replace replace' hreplace hreplace' record
  obtain ⟨value, rfl⟩ := hmap reader set hreplace
  obtain ⟨value', rfl⟩ := hmap reader' set' hreplace'
  exact h value value' record

namespace Shape

open Reader (Leaves Takes)

@[simp]
theorem isRegular_nil : (⟨[], false⟩ : Shape α).IsRegular :=
  ⟨rfl, .nil, nofun, .nil⟩

/-- A shape is regular exactly if its first member decodes values, has a name of its own and
replaces a part of its own, and the others are regular. -/
@[simp]
theorem isRegular_cons {member : Member α} {members : List (Member α)} :
    (⟨member :: members, false⟩ : Shape α).IsRegular ↔
      member.read.Decodes member.read.ofTree? ∧ (∀ other ∈ members, member.name ≠ other.name) ∧
        (∀ other ∈ members, member.Commutes other) ∧ (⟨members, false⟩ : Shape α).IsRegular := by
  constructor
  · rintro ⟨-, hnodup, hdecodes, hcommutes⟩
    obtain ⟨hname, hnodup⟩ := List.nodup_cons.mp hnodup
    obtain ⟨hmember, hdecodes⟩ := List.forall_mem_cons.mp hdecodes
    obtain ⟨hothers, hcommutes⟩ := List.pairwise_cons.mp hcommutes
    refine ⟨hmember, fun other hmem heq => hname ?_, hothers, rfl, hnodup, hdecodes, hcommutes⟩
    exact List.mem_map.mpr ⟨other, hmem, heq.symm⟩
  · rintro ⟨hmember, hname, hothers, -, hnodup, hdecodes, hcommutes⟩
    refine ⟨rfl, List.nodup_cons.mpr ⟨fun hmem => ?_, hnodup⟩,
      List.forall_mem_cons.mpr ⟨hmember, hdecodes⟩, List.pairwise_cons.mpr ⟨hothers, hcommutes⟩⟩
    obtain ⟨other, hother, heq⟩ := List.mem_map.mp hmem
    exact hname other hother heq.symm

variable {shape : Shape α} {seen : List String}

/-- The declared members that have not been met. -/
def unmet (shape : Shape α) (seen : List String) : List (Member α) :=
  shape.members.filter fun member => !seen.contains member.name

/-- Once a member has been met it is no longer unmet. -/
theorem unmet_cons (shape : Shape α) (name : String) (seen : List String) :
    shape.unmet (name :: seen) = (shape.unmet seen).filter (·.name ≠ name) := by
  unfold unmet
  rw [List.filter_filter]
  refine List.filter_congr fun member _ => ?_
  rw [List.contains_cons, Bool.not_or, decide_not, beq_eq_decide]

/-- What is left to be put together is what the members of an object give as they come. -/
theorem take?_eq_assemble? (hregular : shape.IsRegular) {members : List (String × Tree)}
    (honce : shape.StatesOnce (members.map Prod.fst ++ seen)) (record : α) :
    (if shape.isComplete ((members.map Prod.fst).reverse ++ seen) then shape.take? members record
        else none) =
      assemble? (members.lookup ·) (shape.unmet seen) record := by
  induction members generalizing record seen with
  | nil =>
    have hcomplete : shape.isComplete seen = (shape.unmet seen).all (·.presence ≠ .required) := by
      unfold isComplete unmet
      simp [List.all_filter]
    simp only [List.lookup_nil, assemble?_none, ← hcomplete]
    rfl
  | cons member members ih =>
    obtain ⟨name, value⟩ := member
    have honce' : shape.StatesOnce (members.map Prod.fst ++ name :: seen) := honce.cons
    have hnames : (((name, value) :: members).map Prod.fst).reverse ++ seen =
        (members.map Prod.fst).reverse ++ name :: seen := by
      rw [List.map_cons, List.reverse_cons, List.append_assoc, List.singleton_append]
    have hlookup (record : α) : assemble? (((name, value) :: members).lookup ·)
        (shape.unmet (name :: seen)) record =
          assemble? (members.lookup ·) (shape.unmet (name :: seen)) record := by
      refine assemble?_congr (fun other hother => ?_) record
      rw [unmet_cons] at hother
      have hne : other.name ≠ name := of_decide_eq_true (List.mem_filter.mp hother).2
      rw [List.lookup_cons, beq_false_of_ne hne]
    rw [hnames, take?]
    unfold replacement?
    cases hfind : shape.members.find? (·.name = name) with
    | none =>
      -- A member that is not declared replaces nothing, and no declared one is met.
      have hunmet : shape.unmet (name :: seen) = shape.unmet seen := by
        rw [unmet_cons, List.filter_eq_self]
        intro other hother
        simpa using List.find?_eq_none.mp hfind other (List.mem_of_mem_filter hother)
      rw [← hunmet, hlookup, ← ih honce']
      rfl
    | some member =>
      have hmem := List.mem_of_find?_eq_some hfind
      obtain rfl : member.name = name := by simpa using List.find?_some hfind
      have hunmet : member ∈ shape.unmet seen := by
        refine List.mem_filter.mpr ⟨hmem, ?_⟩
        simpa using honce.not_mem_seen hmem List.mem_cons_self
      have hnodup : ((shape.unmet seen).map (·.name)).Nodup :=
        hregular.nodup.sublist (List.filter_sublist.map _)
      have hcommutes : (shape.unmet seen).Pairwise Member.Commutes :=
        hregular.commutes.sublist List.filter_sublist
      -- On the side of the record the member is taken out of its place in the declaration.
      rw [assemble?_eq_bind hnodup hcommutes hunmet List.lookup_cons_self, ← unmet_cons]
      simp only [hlookup, ← ih honce']
      by_cases hcomplete : shape.isComplete ((members.map Prod.fst).reverse ++ member.name :: seen)
      · simp only [if_pos hcomplete]
      · simp only [if_neg hcomplete, Option.bind_fun_none]

/-- An object is read as what is put together from the values that it states, whatever their order
and whatever else it states. -/
theorem takes_object (hregular : shape.IsRegular) {members : List (String × Tree)}
    (honce : shape.StatesOnce (members.map Prod.fst)) (initial : α) :
    (shape.reader initial).Takes (.object members)
      (assemble? (members.lookup ·) shape.members initial) := by
  intro rest
  have honce' : shape.StatesOnce (members.map Prod.fst ++ []) := by rwa [List.append_nil]
  have hunmet : shape.unmet [] = shape.members := List.filter_eq_self.mpr fun _ _ => rfl
  rw [← hunmet, ← take?_eq_assemble? hregular honce']
  have hobject : Leaves (shape.readObject initial
      (Tree.memberTokens (members.map fun m => (some m.1, m.2)) ++ .closeRecord :: rest)) rest
        (if shape.isComplete ((members.map Prod.fst).reverse ++ []) then shape.take? members initial
          else none) := by
    cases members with
    | nil =>
      have hread : shape.readObject initial (.closeRecord :: rest) =
          if shape.isComplete [] then .ok (initial, .tail _ rest) else .error .mismatched := rfl
      show Leaves (shape.readObject initial (.closeRecord :: rest)) rest
        (if shape.isComplete [] then some initial else none)
      rw [hread]
      cases shape.isComplete [] <;> exact ⟨_, rfl⟩
    | cons member members =>
      have hmembers := readMembers_leaves hregular initial (List.cons_ne_nil member members) honce'
        rest
      rw [readObject]
      · cases htake : shape.take? (member :: members) initial with
        | none =>
          rw [htake] at hmembers
          obtain ⟨fault, herror⟩ := hmembers
          rw [herror, ite_self]
          exact ⟨fault, rfl⟩
        | some final =>
          rw [htake] at hmembers
          obtain ⟨hlt, hok⟩ := hmembers
          rw [hok]
          cases hcomplete : shape.isComplete (((member :: members).map Prod.fst).reverse ++ []) with
          | false => exact ⟨.mismatched, if_neg (by rw [hcomplete]; exact Bool.false_ne_true)⟩
          | true => exact ⟨hlt, if_pos hcomplete⟩
      · cases members <;> exact nofun
  rw [Tree.object, Tree.tokens_record_append]
  exact hobject.behind .openRecord

/-! ### Records written as lists -/

/-- The record that the elements of a list give as the values of members in the order of their
declaration; nothing when there are too many of them or too few. -/
def slots? : List (Member α) → List Tree → α → Option α
  | members, [], record => if mayEnd members then some record else none
  | [], _ :: _, _ => none
  | member :: members, tree :: trees, record =>
    (member.read.ofTree? tree).bind fun set => slots? members trees (set record)

/-- Without further elements the record stays as it is, when all members may be missing. -/
theorem slots?_nil (members : List (Member α)) (record : α) :
    slots? members [] record = if mayEnd members then some record else none := by
  unfold slots?
  rfl

/-- What the value of a member in a list leads to: the end of the record at the closing bracket, and the
values of the other members behind a comma. -/
def afterSlot (record : α) (members : List (Member α)) {tokens : List Token} :
    Except Fault ((α → α) × Rest tokens) → Except Fault (α × Rest tokens)
  | .error fault => .error fault
  | .ok (set, ⟨left, shorter⟩) =>
    match left, shorter with
    | .closeList :: rest, shorter =>
      if mayEnd members then .ok (set record, ⟨rest, Nat.lt_of_succ_lt shorter⟩)
      else .error .mismatched
    | .comma :: rest, shorter =>
      if members.isEmpty then .error .malformed
      else
        match readSlots (set record) members rest with
        | .error fault => .error fault
        | .ok (final, ⟨rest, further⟩) =>
          .ok (final, ⟨rest, Nat.lt_trans further (Nat.lt_of_succ_lt shorter)⟩)
    | left, _ => .error (misplaced left)

/-- The values of a list are read from the first on. -/
theorem readSlots_cons (record : α) (member : Member α) (members : List (Member α))
    (tokens : List Token) :
    readSlots record (member :: members) tokens =
      afterSlot record members (member.read tokens) := by
  rfl

/-- The value of a member before the closing bracket is the last one. -/
theorem readSlots_of_close {member : Member α} {members : List (Member α)} (record : α)
    {tokens rest : List Token} {result : Option (α → α)}
    (h : Leaves (member.read tokens) (.closeList :: rest) result) :
    Leaves (readSlots record (member :: members) tokens) rest
      (result.bind fun set => if mayEnd members then some (set record) else none) := by
  rw [readSlots_cons]
  cases result with
  | none =>
    obtain ⟨fault, herror⟩ := h
    rw [herror]
    exact ⟨fault, rfl⟩
  | some set =>
    obtain ⟨hlt, hok⟩ := h
    have hafter : afterSlot record members (.ok (set, ⟨.closeList :: rest, hlt⟩)) =
        if mayEnd members then .ok (set record, ⟨rest, Nat.lt_of_succ_lt hlt⟩)
        else .error .mismatched := rfl
    rw [hok, hafter, Option.bind_some]
    cases mayEnd members with
    | false => exact ⟨.mismatched, rfl⟩
    | true => exact ⟨Nat.lt_of_succ_lt hlt, rfl⟩

/-- Behind the value of a member before a comma the others are read. -/
theorem readSlots_of_comma {member : Member α} {members : List (Member α)} (record : α)
    {tokens behind rest : List Token} {result : Option (α → α)} {results : (α → α) → Option α}
    (h : Leaves (member.read tokens) (.comma :: behind) result)
    (hrest : ∀ set, Leaves (readSlots (set record) members behind) rest (results set)) :
    Leaves (readSlots record (member :: members) tokens) rest (result.bind results) := by
  rw [readSlots_cons]
  cases result with
  | none =>
    obtain ⟨fault, herror⟩ := h
    rw [herror]
    exact ⟨fault, rfl⟩
  | some set =>
    obtain ⟨hlt, hok⟩ := h
    have hothers := hrest set
    rw [hok, Option.bind_some]
    cases members with
    | nil =>
      -- No member is left for what follows the comma.
      cases hresult : results set with
      | none => exact ⟨.malformed, rfl⟩
      | some final =>
        rw [hresult] at hothers
        obtain ⟨_, hnone⟩ := hothers
        cases hnone
    | cons other members =>
      have hafter : afterSlot record (other :: members) (.ok (set, ⟨.comma :: behind, hlt⟩)) =
          match readSlots (set record) (other :: members) behind with
          | .error fault => .error fault
          | .ok (final, ⟨rest, further⟩) =>
            .ok (final, ⟨rest, Nat.lt_trans further (Nat.lt_of_succ_lt hlt)⟩) := rfl
      rw [hafter]
      cases hresult : results set with
      | none =>
        rw [hresult] at hothers
        obtain ⟨fault, herror⟩ := hothers
        exact ⟨fault, by rw [herror]⟩
      | some final =>
        rw [hresult] at hothers
        obtain ⟨hlt', hok'⟩ := hothers
        exact ⟨Nat.lt_trans hlt' (Nat.lt_of_succ_lt hlt), by rw [hok']⟩

/-- The elements of a list are read as the values of the members. -/
theorem readSlots_leaves {members : List (Member α)}
    (hdecodes : ∀ member ∈ members, member.read.Decodes member.read.ofTree?) (tree : Tree)
    (trees : List Tree) (record : α) (rest : List Token) :
    Leaves (readSlots record members (Tree.elementTokens (tree :: trees) ++ .closeList :: rest)) rest
      (slots? members (tree :: trees) record) := by
  induction trees generalizing members tree record with
  | nil =>
    cases members with
    | nil => exact ⟨_, rfl⟩
    | cons member members =>
      simp only [slots?, slots?_nil]
      exact readSlots_of_close record (hdecodes member List.mem_cons_self tree (.closeList :: rest))
  | cons next trees ih =>
    cases members with
    | nil => exact ⟨_, rfl⟩
    | cons member members =>
      rw [Tree.elementTokens, List.append_assoc]
      exact readSlots_of_comma record (hdecodes member List.mem_cons_self tree (.comma :: _))
        fun set => ih (fun other hother => hdecodes other (List.mem_cons_of_mem _ hother)) next
          (set record)

/-- A list is read as the values of the members in the order of their declaration. -/
theorem takes_list (hregular : shape.IsRegular) (elements : List Tree) (initial : α) :
    (shape.reader initial).Takes (.list elements) (slots? shape.members elements initial) := by
  intro rest
  cases elements with
  | nil =>
    have hread : shape.readList initial (.closeList :: rest) =
        if mayEnd shape.members then .ok (initial, .tail _ rest) else .error .mismatched := rfl
    have hlist : Leaves (shape.readList initial (.closeList :: rest)) rest
        (if mayEnd shape.members then some initial else none) := by
      rw [hread]
      cases mayEnd shape.members <;> exact ⟨_, rfl⟩
    rw [slots?_nil]
    exact hlist.behind .openList
  | cons tree trees =>
    have hslots := readSlots_leaves hregular.decodes tree trees initial rest
    have hlist : Leaves (shape.readList initial
        (Tree.elementTokens (tree :: trees) ++ .closeList :: rest)) rest
          (slots? shape.members (tree :: trees) initial) := by
      rw [readList]
      · exact hslots
      · exact Reader.elementTokens_ne_close tree trees _
    rw [Tree.tokens_list_append]
    exact hlist.behind .openList

end Shape

end Retrace.Json
