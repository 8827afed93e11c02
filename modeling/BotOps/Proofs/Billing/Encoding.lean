import BotOps.Billing.Page
import BotOps.Proofs.Json.Writing

/-!
# Written pages

A page is written as an array of objects that have all fields in their order, where a field that is
missing is null. From a text that writes this value the entitlements are read back, whatever
characters their texts have and whether these stand for themselves or are escaped:
`decodePage?_spelled`.
-/

namespace BotOps.Json

/-- The ways to spell all characters of a string. -/
inductive Style where
  /-- Only quotes, backslashes and controls are escaped. -/
  | plain
  /-- Every character is written as its code units. -/
  | coded (capital : Bool)
deriving DecidableEq, Repr

/-- A character as it is spelled in a style. -/
def Style.spell : Style → Char → List Char
  | .plain => escaped
  | .coded capital => Json.coded capital

private theorem Style.spells (style : Style) (c : Char) : Spells c (style.spell c) := by
  cases style with
  | plain => exact spells_escaped c
  | coded capital => exact spells_coded capital c

end BotOps.Json

namespace BotOps.Billing

open BotOps.Json BotOps.Text

/-- The value that a text writes that may be missing. -/
def optionalText (content : Option String) : Value :=
  content.elim .null fun text ↦ .string (some text)

/-- The value that writes an entitlement. -/
def Entitlement.toValue (entitlement : Entitlement) : Value :=
  .object
    [(some "id", .string (some entitlement.id)),
      (some "user_id", optionalText entitlement.userId),
      (some "guild_id", optionalText entitlement.guildId),
      (some "subscription_id", optionalText entitlement.subscriptionId),
      (some "type", .number (Decimal.plain entitlement.kind.toNat)),
      (some "starts_at", optionalText entitlement.startsAt),
      (some "ends_at", optionalText entitlement.endsAt)]

/-- The value that writes a page. -/
def pageValue (page : List Entitlement) : Value := .array (page.map Entitlement.toValue)

namespace Entitlement

private theorem optionalText?_optionalText (content : Option String) :
    optionalText? (some (optionalText content)) = some content := by
  cases content <;> rfl

private theorem kind?_plain (kind : UInt8) :
    kind? (.number (Decimal.plain kind.toNat)) = some kind := by
  have hdigits : (Decimal.plain kind.toNat).all Char.isDigit = true :=
    List.all_eq_true.mpr fun _ hc ↦ Decimal.isDigit_of_mem_plain hc
  rw [kind?, Decimal.value_plain, if_pos ⟨hdigits, kind.toNat_lt⟩, UInt8.ofNat_toNat]

/-- An entitlement is read back from its value. -/
theorem ofValue?_toValue (entitlement : Entitlement) :
    ofValue? entitlement.toValue = some entitlement := by
  have hfields : ofValue? entitlement.toValue =
      ofFields? (some (.string (some entitlement.id)))
        (some (optionalText entitlement.userId)) (some (optionalText entitlement.guildId))
        (some (optionalText entitlement.subscriptionId))
        (some (.number (Decimal.plain entitlement.kind.toNat)))
        (some (optionalText entitlement.startsAt)) (some (optionalText entitlement.endsAt)) := by
    simp [toValue, ofValue?, ofMembers?, field?]
  rw [hfields]
  unfold ofFields?
  simp only [optionalText?_optionalText, text?, kind?_plain, Option.bind_eq_bind, Option.bind_some]

/-- All numbers of an entitlement are spelled as numbers. -/
theorem readable_toValue (entitlement : Entitlement) : Readable entitlement.toValue := by
  have hoptional (content : Option String) : Readable (optionalText content) := by
    cases content with
    | none => exact .null
    | some text => exact .string _
  refine .object ?_
  simp only [List.forall_mem_cons, List.not_mem_nil, IsEmpty.forall_iff, implies_true, and_true]
  exact ⟨.string _, hoptional _, hoptional _, hoptional _, .number (isNumeral_plain _),
    hoptional _, hoptional _⟩

end Entitlement

private theorem mapM_toValue (page : List Entitlement) :
    (page.map Entitlement.toValue).mapM Entitlement.ofValue? = some page := by
  induction page with
  | nil => rfl
  | cons entitlement page ih =>
    rw [List.map_cons, List.mapM_cons, entitlement.ofValue?_toValue, ih]
    rfl

/-- A text that writes the value of a page is read as the page. -/
theorem decodePage?_of_parse? {page : List Entitlement} {text : List Char}
    (h : Value.parse? text = some (pageValue page)) :
    decodePage? (String.ofList text) = some page := by
  unfold decodePage?
  rw [String.toList_ofList, h]
  exact mapM_toValue page

/-- Whatever its entitlements are, a page that the printer has written is read back, and so is one
whose names and other texts are spelled in any style. -/
theorem decodePage?_spelled (page : List Entitlement) :
    decodePage? (String.ofList (pageValue page).render) = some page ∧
      ∀ names texts : Style,
        decodePage? (String.ofList ((pageValue page).spelled names.spell texts.spell)) =
          some page := by
  have hreadable : Readable (pageValue page) :=
    .array (List.forall_mem_map.mpr fun entitlement _ ↦ entitlement.readable_toValue)
  exact ⟨decodePage?_of_parse? (Value.parse?_render hreadable), fun names texts ↦
    decodePage?_of_parse? (Value.parse?_spelled names.spells texts.spells hreadable)⟩

/-- A page whose texts have a quote, a backslash, a NUL and a character beyond the first plane. -/
def oddPage : List Entitlement :=
  [⟨"\"\\\x00", none, some (String.singleton (Char.ofNat 0x1f600)), some "", 255, none, none⟩]

example : String.ofList ((pageValue oddPage).spelled Style.plain.spell (Style.coded false).spell) =
    "[\x7b\"id\":\"\\u0022\\u005c\\u0000\",\"user_id\":null,\"guild_id\":\"\\ud83d\\ude00\"," ++
      "\"subscription_id\":\"\",\"type\":255,\"starts_at\":null,\"ends_at\":null\x7d]" := by
  decide +kernel

end BotOps.Billing
