import BotOps.Proofs.Billing.Page
import BotOps.Proofs.Json.Writing
import Mathlib.Data.List.Forall2

/-!
# Fields of entitlements

What an object says about an entitlement is told by the one value under each of the known names:
`ofMembers?_eq_some_iff`. So the order of its members, members under other names and members that
are null instead of missing make no difference, and neither do the blanks between the tokens. An
object with a known name twice, without an identifier or a type, or with a type that is no byte
spoils the page: `decodePage?_recast`.
-/

namespace BotOps.Billing

open BotOps.Json BotOps.Text

/-- The members of an object. -/
abbrev Members := List (Option String × Value)

namespace Entitlement

/-- There is exactly one member of a name, and it has this value. -/
def Has (members : Members) (name : String) (value : Value) : Prop :=
  members.filter (fun member ↦ member.1 = some name) = [(some name, value)]

/-- There is no member of a name. -/
def Lacks (members : Members) (name : String) : Prop := ∀ member ∈ members, member.1 ≠ some name

instance (members : Members) (name : String) : Decidable (Lacks members name) :=
  inferInstanceAs (Decidable (∀ member ∈ members, member.1 ≠ some name))

/-- The one member of a name is this text; without a text there is no such member or it is null. -/
def HasOptional (members : Members) (name : String) : Option String → Prop
  | some text => Has members name (.string (some text))
  | none => Lacks members name ∨ Has members name .null

/-- The one member of a name is a number below 256 in decimal digits. -/
def HasByte (members : Members) (name : String) (n : UInt8) : Prop :=
  ∃ digits, Has members name (.number digits) ∧ (∀ d ∈ digits, d.isDigit = true) ∧
    Decimal.value digits = n.toNat

/-- The members of an object say what an entitlement has. -/
structure Describes (members : Members) (entitlement : Entitlement) : Prop where
  names : ∀ member ∈ members, ∃ name, member.1 = some name
  id : Has members "id" (.string (some entitlement.id))
  userId : HasOptional members "user_id" entitlement.userId
  guildId : HasOptional members "guild_id" entitlement.guildId
  subscriptionId : HasOptional members "subscription_id" entitlement.subscriptionId
  kind : HasByte members "type" entitlement.kind
  startsAt : HasOptional members "starts_at" entitlement.startsAt
  endsAt : HasOptional members "ends_at" entitlement.endsAt

section

variable {members : Members} {name : String} {value : Value}

private theorem field?_eq_missing_iff : field? members name = some none ↔ Lacks members name := by
  unfold field? Lacks
  constructor
  · intro h
    split at h
    · next hnone => simpa using hnone
    · cases h
    · cases h
  · intro h
    have hnone : members.filter (fun member ↦ member.1 = some name) = [] := by simpa using h
    rw [hnone]

private theorem field?_eq_some_iff :
    field? members name = some (some value) ↔ Has members name value := by
  unfold field? Has
  constructor
  · intro h
    split at h
    · cases h
    · next member hone =>
      have hname : member.1 = some name := by
        have hmem : member ∈ members.filter (fun member ↦ member.1 = some name) := by
          rw [hone]
          exact List.mem_singleton_self _
        simpa using (List.mem_filter.mp hmem).2
      obtain rfl : member.2 = value := Option.some.inj (Option.some.inj h)
      rw [hone, ← hname]
    · cases h
  · intro h
    rw [h]

private theorem text?_eq_some_iff {text : String} :
    text? value = some text ↔ value = .string (some text) := by
  unfold text?
  split
  · simp
  · next hother => exact Iff.intro (fun h ↦ nomatch h) fun h ↦ absurd h (hother text)

private theorem optionalText?_eq_some_iff {found : Option Value} {content : Option String} :
    optionalText? found = some content ↔
      match content with
      | some text => found = some (.string (some text))
      | none => found = none ∨ found = some .null := by
  unfold optionalText?
  split
  · cases content <;> simp
  · cases content <;> simp
  · next value hnull =>
    cases content with
    | none => simpa using hnull
    | some text => simp [text?_eq_some_iff]

private theorem kind?_eq_some_iff {n : UInt8} :
    kind? value = some n ↔ ∃ digits, value = .number digits ∧ (∀ d ∈ digits, d.isDigit = true) ∧
      Decimal.value digits = n.toNat := by
  unfold kind?
  split
  · next digits =>
    constructor
    · intro h
      split at h
      · next hbyte =>
        obtain rfl := Option.some.inj h
        refine ⟨digits, rfl, List.all_eq_true.mp hbyte.1, ?_⟩
        exact (UInt8.toNat_ofNat_of_lt' hbyte.2).symm
      · cases h
    · rintro ⟨_, hdigits, hall, hvalue⟩
      obtain rfl := Value.number.inj hdigits
      have hbyte : Decimal.value digits < 256 := hvalue ▸ n.toNat_lt
      rw [if_pos ⟨List.all_eq_true.mpr hall, hbyte⟩, hvalue, UInt8.ofNat_toNat]
  · next hother =>
    exact Iff.intro (fun h ↦ nomatch h) fun ⟨digits, h, _⟩ ↦ absurd h (hother digits)

/-- A required text is the one value under its name. -/
theorem exists_field?_text_iff {text : String} :
    (∃ found, field? members name = some found ∧ found >>= text? = some text) ↔
      Has members name (.string (some text)) := by
  rw [← field?_eq_some_iff]
  constructor
  · rintro ⟨_ | value, hfield, htext⟩
    · cases htext
    · rw [hfield, text?_eq_some_iff.mp htext]
  · intro h
    exact ⟨_, h, rfl⟩

/-- An optional text is the one value under its name, which may be null. -/
theorem exists_field?_optionalText_iff {content : Option String} :
    (∃ found, field? members name = some found ∧ optionalText? found = some content) ↔
      HasOptional members name content := by
  cases content with
  | none =>
    simp only [optionalText?_eq_some_iff, HasOptional, ← field?_eq_missing_iff,
      ← field?_eq_some_iff]
    constructor
    · rintro ⟨_, hfield, rfl | rfl⟩
      · exact .inl hfield
      · exact .inr hfield
    · rintro (hfield | hfield)
      · exact ⟨_, hfield, .inl rfl⟩
      · exact ⟨_, hfield, .inr rfl⟩
  | some text =>
    simp only [optionalText?_eq_some_iff, HasOptional, ← field?_eq_some_iff]
    exact ⟨fun ⟨_, hfield, h⟩ ↦ h ▸ hfield, fun h ↦ ⟨_, h, rfl⟩⟩

/-- A type is the one value under its name. -/
theorem exists_field?_kind_iff {n : UInt8} :
    (∃ found, field? members name = some found ∧ found >>= kind? = some n) ↔
      HasByte members name n := by
  unfold HasByte
  simp only [← field?_eq_some_iff]
  constructor
  · rintro ⟨_ | value, hfield, hkind⟩
    · cases hkind
    · obtain ⟨digits, rfl, hdigits, hvalue⟩ := kind?_eq_some_iff.mp hkind
      exact ⟨digits, hfield, hdigits, hvalue⟩
  · rintro ⟨digits, hfield, hdigits, hvalue⟩
    exact ⟨_, hfield, kind?_eq_some_iff.mpr ⟨digits, rfl, hdigits, hvalue⟩⟩

private theorem ofFields?_eq_some_iff {id user guild subscription kind starts ends : Option Value}
    {entitlement : Entitlement} :
    ofFields? id user guild subscription kind starts ends = some entitlement ↔
      id >>= text? = some entitlement.id ∧ optionalText? user = some entitlement.userId ∧
      optionalText? guild = some entitlement.guildId ∧
      optionalText? subscription = some entitlement.subscriptionId ∧
      kind >>= kind? = some entitlement.kind ∧ optionalText? starts = some entitlement.startsAt ∧
      optionalText? ends = some entitlement.endsAt := by
  obtain ⟨i, u, g, s, k, b, e⟩ := entitlement
  unfold ofFields?
  simp only [Option.bind_eq_bind, Option.bind_eq_some_iff, Option.some.injEq,
    Entitlement.mk.injEq]
  constructor
  · rintro ⟨_, hi, _, hu, _, hg, _, hs, _, hk, _, hb, _, he, rfl, rfl, rfl, rfl, rfl, rfl, rfl⟩
    exact ⟨hi, hu, hg, hs, hk, hb, he⟩
  · rintro ⟨hi, hu, hg, hs, hk, hb, he⟩
    exact ⟨_, hi, _, hu, _, hg, _, hs, _, hk, _, hb, _, he, rfl, rfl, rfl, rfl, rfl, rfl, rfl⟩

/-- An object writes the entitlement that its members describe. -/
theorem ofMembers?_eq_some_iff {entitlement : Entitlement} :
    ofMembers? members = some entitlement ↔ Describes members entitlement := by
  have hnames : members.all (·.1.isSome) = true ↔
      ∀ member ∈ members, ∃ name, member.1 = some name := by
    simp only [List.all_eq_true, Option.isSome_iff_exists]
  unfold ofMembers?
  constructor
  · intro h
    split at h
    · next htexts =>
      simp only [Option.bind_eq_bind, Option.bind_eq_some_iff] at h
      obtain ⟨_, hi, _, hu, _, hg, _, hs, _, hk, _, hb, _, he, hall⟩ := h
      obtain ⟨hi', hu', hg', hs', hk', hb', he'⟩ := ofFields?_eq_some_iff.mp hall
      exact
        { names := hnames.mp htexts
          id := exists_field?_text_iff.mp ⟨_, hi, hi'⟩
          userId := exists_field?_optionalText_iff.mp ⟨_, hu, hu'⟩
          guildId := exists_field?_optionalText_iff.mp ⟨_, hg, hg'⟩
          subscriptionId := exists_field?_optionalText_iff.mp ⟨_, hs, hs'⟩
          kind := exists_field?_kind_iff.mp ⟨_, hk, hk'⟩
          startsAt := exists_field?_optionalText_iff.mp ⟨_, hb, hb'⟩
          endsAt := exists_field?_optionalText_iff.mp ⟨_, he, he'⟩ }
    · cases h
  · intro h
    obtain ⟨_, hi, hi'⟩ := exists_field?_text_iff.mpr h.id
    obtain ⟨_, hu, hu'⟩ := exists_field?_optionalText_iff.mpr h.userId
    obtain ⟨_, hg, hg'⟩ := exists_field?_optionalText_iff.mpr h.guildId
    obtain ⟨_, hs, hs'⟩ := exists_field?_optionalText_iff.mpr h.subscriptionId
    obtain ⟨_, hk, hk'⟩ := exists_field?_kind_iff.mpr h.kind
    obtain ⟨_, hb, hb'⟩ := exists_field?_optionalText_iff.mpr h.startsAt
    obtain ⟨_, he, he'⟩ := exists_field?_optionalText_iff.mpr h.endsAt
    rw [if_pos (hnames.mpr h.names)]
    have hall := ofFields?_eq_some_iff.mpr ⟨hi', hu', hg', hs', hk', hb', he'⟩
    simp only [Option.bind_eq_bind, Option.bind_eq_some_iff]
    exact ⟨_, hi, _, hu, _, hg, _, hs, _, hk, _, hb, _, he, hall⟩

end

/-! ## The layout of members -/

/-- The names under which a member may be missing. -/
def optionalNames : List String :=
  ["user_id", "guild_id", "subscription_id", "starts_at", "ends_at"]

/-- Values that differ in what makes no difference: the order of members, members under unknown
names, and members that are null instead of missing. -/
inductive Recast : Value → Value → Prop where
  | perm {members others : Members} (h : members.Perm others) :
      Recast (.object members) (.object others)
  | unknown {members : Members} {name : String} (value : Value) (h : name ∉ fieldNames) :
      Recast (.object members) (.object ((some name, value) :: members))
  | null {members : Members} {name : String} (h : name ∈ optionalNames)
      (lacks : Lacks members name) :
      Recast (.object members) (.object ((some name, .null) :: members))
  | refl (value : Value) : Recast value value
  | symm {value other : Value} (h : Recast value other) : Recast other value
  | trans {value other last : Value} (h : Recast value other) (next : Recast other last) :
      Recast value last

/-- An object that is no entitlement for what it has under the known names. -/
inductive Faulty (members : Members) : Prop where
  | twice {name : String} (known : name ∈ fieldNames)
      (h : 2 ≤ (members.filter fun member ↦ member.1 = some name).length)
  | noId (h : Lacks members "id")
  | noType (h : Lacks members "type")
  /-- The type is no whole number from 0 to 255. -/
  | badType {value : Value} (h : (some "type", value) ∈ members)
      (bad : ∀ digits, value = .number digits → (∀ d ∈ digits, d.isDigit = true) →
        256 ≤ Decimal.value digits)

section

variable {members others : Members} {name : String} {value : Value}

private theorem Has.mem_iff (h : Has members name value) {other : Value} :
    (some name, other) ∈ members ↔ other = value := by
  have hfilter : (some name, other) ∈ members ↔
      (some name, other) ∈ members.filter fun member ↦ member.1 = some name := by
    simp
  rw [hfilter, h, List.mem_singleton, Prod.mk.injEq]
  exact and_iff_right rfl

private theorem Has.not_lacks (h : Has members name value) : ¬Lacks members name :=
  fun hlacks ↦ hlacks _ (h.mem_iff.mpr rfl) rfl

private theorem Has.length (h : Has members name value) :
    (members.filter fun member ↦ member.1 = some name).length = 1 := by
  rw [h]
  rfl

private theorem HasOptional.length_le {content : Option String}
    (h : HasOptional members name content) :
    (members.filter fun member ↦ member.1 = some name).length ≤ 1 := by
  cases content with
  | some text => exact Has.length h |>.le
  | none =>
    rcases h with h | h
    · rw [List.filter_eq_nil_iff.mpr fun member hmember ↦ by simpa using h member hmember]
      exact Nat.zero_le 1
    · exact h.length.le

/-- Nothing describes a faulty object. -/
theorem Faulty.not_describes (h : Faulty members) (entitlement : Entitlement) :
    ¬Describes members entitlement := by
  intro hdescribes
  obtain ⟨digits, hkind, hdigits, hvalue⟩ := hdescribes.kind
  cases h with
  | @twice name known h =>
    have hone : (members.filter fun member ↦ member.1 = some name).length ≤ 1 := by
      simp only [fieldNames, List.mem_cons, List.not_mem_nil, or_false] at known
      rcases known with rfl | rfl | rfl | rfl | rfl | rfl | rfl
      · exact hdescribes.id.length.le
      · exact hdescribes.userId.length_le
      · exact hdescribes.guildId.length_le
      · exact hdescribes.subscriptionId.length_le
      · exact hkind.length.le
      · exact hdescribes.startsAt.length_le
      · exact hdescribes.endsAt.length_le
    exact absurd h (Nat.not_le_of_lt (Nat.lt_succ_of_le hone))
  | noId h => exact hdescribes.id.not_lacks h
  | noType h => exact hkind.not_lacks h
  | badType h bad =>
    have hlarge := bad digits (hkind.mem_iff.mp h) hdigits
    rw [hvalue] at hlarge
    exact absurd entitlement.kind.toNat_lt (Nat.not_lt.mpr hlarge)

/-- A description depends on what there is under the known names and on whether all names are
texts. -/
theorem Describes.congr {entitlement : Entitlement} (h : Describes members entitlement)
    (names : ∀ member ∈ others, ∃ name, member.1 = some name)
    (required : ∀ name ∈ ["id", "type"], ∀ value, Has members name value → Has others name value)
    (optional : ∀ name ∈ optionalNames, ∀ content,
      HasOptional members name content → HasOptional others name content) :
    Describes others entitlement := by
  obtain ⟨digits, hkind, hdigits⟩ := h.kind
  exact
    { names := names
      id := required "id" (by decide) _ h.id
      userId := optional "user_id" (by decide) _ h.userId
      guildId := optional "guild_id" (by decide) _ h.guildId
      subscriptionId := optional "subscription_id" (by decide) _ h.subscriptionId
      kind := ⟨digits, required "type" (by decide) _ hkind, hdigits⟩
      startsAt := optional "starts_at" (by decide) _ h.startsAt
      endsAt := optional "ends_at" (by decide) _ h.endsAt }

/-- If a name is told alike, it is told alike as one that may be missing. -/
theorem HasOptional.congr (has : ∀ value, Has members name value ↔ Has others name value)
    (lacks : Lacks members name ↔ Lacks others name) (content : Option String) :
    HasOptional members name content ↔ HasOptional others name content := by
  cases content with
  | none => exact or_congr lacks (has _)
  | some text => exact has _

private theorem has_perm (h : members.Perm others) (hhas : Has members name value) :
    Has others name value := by
  have hfilter := h.filter fun member ↦ member.1 = some name
  rw [hhas] at hfilter
  exact List.singleton_perm.mp hfilter |>.symm

private theorem lacks_perm (h : members.Perm others) : Lacks members name ↔ Lacks others name := by
  simp only [Lacks, h.mem_iff]

private theorem has_cons_of_ne {other : String} {content : Value} (h : other ≠ name) :
    Has ((some other, content) :: members) name value ↔ Has members name value := by
  unfold Has
  rw [List.filter_cons_of_neg]
  simpa using h

private theorem lacks_cons_of_ne {other : String} {content : Value} (h : other ≠ name) :
    Lacks ((some other, content) :: members) name ↔ Lacks members name := by
  have hname : (some other, content).1 ≠ some name := fun heq ↦ h (Option.some.inj heq)
  exact List.forall_mem_cons.trans (and_iff_right hname)

private theorem has_cons_of_lacks (h : Lacks members name) :
    Has ((some name, value) :: members) name value := by
  unfold Has
  rw [List.filter_cons_of_pos (by simp),
    List.filter_eq_nil_iff.mpr fun member hmember ↦ by simpa using h member hmember]

/-- A member that is null says no more than one that is missing. -/
theorem hasOptional_cons_null (lacks : Lacks members name) (content : Option String) :
    HasOptional members name content ↔
      HasOptional ((some name, .null) :: members) name content := by
  have hnull : Has ((some name, .null) :: members) name .null := has_cons_of_lacks lacks
  cases content with
  | none => exact iff_of_true (.inl lacks) (.inr hnull)
  | some text =>
    refine iff_of_false (fun h ↦ Has.not_lacks h lacks) fun h ↦ ?_
    cases (hnull.mem_iff.mp (h.mem_iff.mpr rfl))

/-- Objects that are described alike write the same entitlement or none. -/
theorem ofMembers?_congr
    (h : ∀ entitlement, Describes members entitlement ↔ Describes others entitlement) :
    ofMembers? members = ofMembers? others := by
  ext entitlement
  rw [ofMembers?_eq_some_iff, ofMembers?_eq_some_iff, h]

private theorem ofMembers?_perm (h : members.Perm others) :
    ofMembers? members = ofMembers? others := by
  have hdescribes {members others : Members} (h : members.Perm others) {entitlement : Entitlement}
      (hdescribes : Describes members entitlement) : Describes others entitlement :=
    hdescribes.congr (fun member hmember ↦ hdescribes.names member (h.mem_iff.mpr hmember))
      (fun _ _ _ ↦ has_perm h)
      fun _ _ content ↦
        (HasOptional.congr (fun _ ↦ ⟨has_perm h, has_perm h.symm⟩) (lacks_perm h) content).mp
  exact ofMembers?_congr fun _ ↦ ⟨hdescribes h, hdescribes h.symm⟩

/-- A further member makes no difference if it leaves what there is under the known names. -/
theorem ofMembers?_cons (required : ∀ other ∈ ["id", "type"], name ≠ other)
    (optional : ∀ other ∈ optionalNames, ∀ content,
      HasOptional members other content ↔
        HasOptional ((some name, value) :: members) other content) :
    ofMembers? members = ofMembers? ((some name, value) :: members) := by
  refine ofMembers?_congr fun entitlement ↦ Iff.intro (fun h ↦ ?_) fun h ↦ ?_
  · have hnames : ∀ member ∈ (some name, value) :: members, ∃ text, member.1 = some text :=
      List.forall_mem_cons.mpr ⟨⟨name, rfl⟩, h.names⟩
    exact h.congr hnames (fun other hother _ ↦ (has_cons_of_ne (required other hother)).mpr)
      fun other hother content ↦ (optional other hother content).mp
  · have hnames := (List.forall_mem_cons.mp h.names).2
    exact h.congr hnames (fun other hother _ ↦ (has_cons_of_ne (required other hother)).mp)
      fun other hother content ↦ (optional other hother content).mpr

/-- What makes no difference leaves the entitlement that a value writes. -/
theorem Recast.ofValue?_eq {value other : Value} (h : Recast value other) :
    ofValue? value = ofValue? other := by
  induction h with
  | perm h => exact ofMembers?_perm h
  | @unknown members name value h =>
    have hne (other : String) (known : other ∈ fieldNames) : name ≠ other :=
      fun heq ↦ h (heq ▸ known)
    have hrequired : ["id", "type"] ⊆ fieldNames := by decide
    have hoptional : optionalNames ⊆ fieldNames := by decide
    refine ofMembers?_cons (fun other hother ↦ hne other (hrequired hother)) fun other hother ↦ ?_
    have hother := hne other (hoptional hother)
    exact HasOptional.congr (fun _ ↦ (has_cons_of_ne hother).symm) (lacks_cons_of_ne hother).symm
  | @null members name h lacks =>
    have hrequired : ∀ name ∈ optionalNames, ∀ other ∈ ["id", "type"], name ≠ other := by decide
    refine ofMembers?_cons (hrequired name h) fun other _ content ↦ ?_
    by_cases hname : name = other
    · exact hname ▸ hasOptional_cons_null lacks content
    · exact HasOptional.congr (fun _ ↦ (has_cons_of_ne hname).symm) (lacks_cons_of_ne hname).symm
        content
  | refl value => rfl
  | symm _ ih => exact ih.symm
  | trans _ _ ih next => exact ih.trans next

end

end Entitlement

open Entitlement

/-! ## Pages -/

/-- A text that writes an array of items is read item by item. -/
theorem decodePage?_of_writes {body : String} {items : List Value}
    (writes : (Value.array items).Writes body.toList) :
    decodePage? body = items.mapM Entitlement.ofValue? := by
  unfold decodePage?
  rw [Value.parse?_of_writes writes]

private theorem mapM_ofValue?_congr {items others : List Value}
    (h : List.Forall₂ Recast items others) :
    items.mapM Entitlement.ofValue? = others.mapM Entitlement.ofValue? := by
  induction h with
  | nil => rfl
  | cons hitem _ ih => rw [List.mapM_cons, List.mapM_cons, hitem.ofValue?_eq, ih]

private theorem mapM_ofValue?_eq_some_iff {objects : List Members} {page : List Entitlement} :
    (objects.map Value.object).mapM Entitlement.ofValue? = some page ↔
      List.Forall₂ Describes objects page := by
  induction objects generalizing page with
  | nil => simp [eq_comm]
  | cons members objects ih =>
    simp only [List.map_cons, List.mapM_cons, Option.bind_eq_bind, Option.bind_eq_some_iff, ih,
      List.forall₂_cons_left_iff, Entitlement.ofValue?, ofMembers?_eq_some_iff, Option.pure_def,
      Option.some.injEq]
    constructor
    · rintro ⟨entitlement, hfirst, page, hrest, rfl⟩
      exact ⟨entitlement, page, hfirst, hrest, rfl⟩
    · rintro ⟨entitlement, page, hfirst, hrest, rfl⟩
      exact ⟨entitlement, hfirst, page, hrest, rfl⟩

/-- How a page is laid out makes no difference. However the tokens of its items are spelled and
parted by blanks, and however its objects are recast, it is read alike, and it is read as what its
objects describe. One faulty object spoils it. -/
theorem decodePage?_recast {body : String} {items : List Value}
    (writes : (Value.array items).Writes body.toList) :
    (∀ (other : String) (others : List Value), (Value.array others).Writes other.toList →
      List.Forall₂ Recast items others → decodePage? other = decodePage? body) ∧
    (∀ (objects : List Members) (page : List Entitlement), items = objects.map Value.object →
      (decodePage? body = some page ↔ List.Forall₂ Describes objects page)) ∧
    ∀ members, .object members ∈ items → Faulty members →
      decodePage? body = none ∧ ∀ answer : Remote.Answer, answer.text = body →
        Remote.Client.pageOf answer = .error (.service .malformedPage) := by
  have hbody := decodePage?_of_writes writes
  refine ⟨fun other others hother hrecast ↦ ?_, fun objects page hobjects ↦ ?_,
    fun members hmember hfaulty ↦ ?_⟩
  · rw [decodePage?_of_writes hother, hbody, mapM_ofValue?_congr hrecast]
  · rw [hbody, hobjects, mapM_ofValue?_eq_some_iff]
  · have hmembers : ofMembers? members = none :=
      Option.eq_none_iff_forall_ne_some.mpr fun entitlement h ↦
        hfaulty.not_describes entitlement (ofMembers?_eq_some_iff.mp h)
    have hnone : decodePage? body = none := by
      rw [hbody]
      exact mapM_eq_none_iff.mpr ⟨_, hmember, hmembers⟩
    refine ⟨hnone, fun answer htext ↦ ?_⟩
    unfold Remote.Client.pageOf
    rw [htext, hnone]

/-- A subscription without an end, as the platform lists it. -/
def openEnded : Members :=
  [(some "id", .string (some "9")), (some "type", .number (Decimal.plain 8)),
    (some "ends_at", .null)]

/-- The same in another order, with no end at all and with marks and known names inside an unknown
member. -/
def openEndedRecast : Members :=
  [(some "more", .object [(some "type", .array [.string (some "]\"\x7d"), .null])]),
    (some "type", .number (Decimal.plain 8)), (some "id", .string (some "9"))]

/-- A subscription whose type is one too large. -/
def oversized : Members :=
  [(some "type", .number (Decimal.plain 256)), (some "id", .string (some "7"))]

/-- A body without blanks that lists objects. -/
def plainBody (objects : List Members) : String :=
  String.ofList ((Value.array (objects.map .object)).spelled escaped escaped)

/-- A body with blanks around its one object, whose names are spelled as code units. -/
def codedBody (members : Members) : String :=
  String.ofList
    ('[' :: '\n' :: ((Value.object members).spelled (coded true) escaped ++ [' ', ']', '\t']))

private theorem readable_openEnded : Readable (.object openEnded) := by
  refine .object ?_
  simp only [openEnded, List.forall_mem_cons, List.not_mem_nil, IsEmpty.forall_iff, implies_true,
    and_true]
  exact ⟨.string _, .number (isNumeral_plain 8), .null⟩

private theorem readable_openEndedRecast : Readable (.object openEndedRecast) := by
  have hmore : Readable (.object [(some "type", .array [.string (some "]\"\x7d"), .null])]) := by
    refine .object (List.forall_mem_singleton.mpr (.array ?_))
    exact List.forall_mem_cons.mpr ⟨.string _, List.forall_mem_singleton.mpr .null⟩
  refine .object ?_
  simp only [openEndedRecast, List.forall_mem_cons, List.not_mem_nil, IsEmpty.forall_iff,
    implies_true, and_true]
  exact ⟨hmore, .number (isNumeral_plain 8), .string _⟩

private theorem readable_oversized : Readable (.object oversized) := by
  refine .object ?_
  simp only [oversized, List.forall_mem_cons, List.not_mem_nil, IsEmpty.forall_iff, implies_true,
    and_true]
  exact ⟨.number (isNumeral_plain 256), .string _⟩

private theorem writes_plainBody {objects : List Members}
    (h : ∀ members ∈ objects, Readable (.object members)) :
    (Value.array (objects.map .object)).Writes (plainBody objects).toList := by
  rw [plainBody, String.toList_ofList]
  exact writes_spelled spells_escaped spells_escaped (.array (List.forall_mem_map.mpr h))

private theorem writes_codedBody {members : Members} (h : Readable (.object members)) :
    (Value.array [.object members]).Writes (codedBody members).toList := by
  have hend : Spaced (furtherItems []) [' ', ']', '\t'] :=
    .blank rfl (.word .closeArray (.blank rfl .nil))
  rw [codedBody, String.toList_ofList]
  exact .word .openArray
    (.blank rfl ((writes_spelled (spells_coded true) spells_escaped h).append hend))

private theorem recast_openEnded : Recast (.object openEnded) (.object openEndedRecast) := by
  have hperm : openEnded.Perm ((some "ends_at", .null) :: openEndedRecast.tail) :=
    (List.reverse_perm openEnded).symm
  have hlacks : Lacks openEndedRecast.tail "ends_at" := by decide
  exact (Recast.perm hperm).trans ((Recast.null (by decide) hlacks).symm.trans
    (Recast.unknown _ (by decide)))

private theorem faulty_oversized : Faulty oversized :=
  .badType List.mem_cons_self fun _ h _ ↦ Value.number.inj h ▸ (by decide)

/-- A purchase is read alike with its fields in another order, one that is not known among them and
a null left out. One whose type is out of range spoils the page that it is on. -/
theorem decodePage?_recast_openEnded :
    (Value.array [.object openEnded]).Writes (plainBody [openEnded]).toList ∧
      decodePage? (codedBody openEndedRecast) = decodePage? (plainBody [openEnded]) ∧
      decodePage? (plainBody [openEnded]) = some [⟨"9", none, none, none, 8, none, none⟩] ∧
      (Value.array [.object openEnded, .object oversized]).Writes
        (plainBody [openEnded, oversized]).toList ∧
      decodePage? (plainBody [openEnded, oversized]) = none := by
  have hwrites := writes_plainBody (List.forall_mem_singleton.mpr readable_openEnded)
  have hcoded := writes_codedBody readable_openEndedRecast
  have hspoiled := writes_plainBody (List.forall_mem_cons.mpr
    ⟨readable_openEnded, List.forall_mem_singleton.mpr readable_oversized⟩)
  have hdescribes : Describes openEnded ⟨"9", none, none, none, 8, none, none⟩ :=
    ofMembers?_eq_some_iff.mp (by decide)
  obtain ⟨hrecast, hread, -⟩ := decodePage?_recast hwrites
  obtain ⟨-, -, hfaulty⟩ := decodePage?_recast hspoiled
  exact ⟨hwrites, hrecast _ _ hcoded (.cons recast_openEnded .nil),
    (hread [openEnded] _ rfl).mpr (.cons hdescribes .nil), hspoiled,
    (hfaulty oversized (by simp) faulty_oversized).1⟩

end BotOps.Billing
