import BotOps.Billing.Entitlement
import BotOps.Json.Reader
import BotOps.Text.Decimal

/-!
# Pages of entitlements

The platform lists entitlements in pages. A page is a JSON array; each entitlement in it is an
object, or an array of the fields in their order. An object may have further fields, but each of
its own at most once. One malformed entitlement spoils the page.
-/

namespace BotOps.Billing

open BotOps.Json

namespace Entitlement

/-- The names of the fields, in their order. -/
def fieldNames : List String :=
  ["id", "user_id", "guild_id", "subscription_id", "type", "starts_at", "ends_at"]

/-- A value that has to be a text. -/
def text? : Value → Option String
  | .string (some text) => some text
  | _ => none

/-- A value that may be a text or missing. -/
def optionalText? : Option Value → Option (Option String)
  | none => some none
  | some .null => some none
  | some value => (text? value).map some

/-- A value that has to be a whole number from 0 to 255. -/
def kind? : Value → Option UInt8
  | .number spelling =>
    if spelling.all Char.isDigit ∧ Text.Decimal.value spelling < 256 then
      some (UInt8.ofNat (Text.Decimal.value spelling))
    else none
  | _ => none

/-- The entitlement with the given fields, in their order. Only the identifier and the type are
required. -/
def ofFields? (id user guild subscription kind starts ends : Option Value) :
    Option Entitlement := do
  let id ← id >>= text?
  let userId ← optionalText? user
  let guildId ← optionalText? guild
  let subscriptionId ← optionalText? subscription
  let kind ← kind >>= kind?
  let startsAt ← optionalText? starts
  let endsAt ← optionalText? ends
  some { id, userId, guildId, subscriptionId, kind, startsAt, endsAt }

/-- The value of a field of an object, which may be missing but must not occur twice. -/
def field? (members : List (Option String × Value)) (name : String) : Option (Option Value) :=
  match members.filter fun member ↦ member.1 = some name with
  | [] => some none
  | [member] => some (some member.2)
  | _ => none

/-- The entitlement that an object writes. All its names have to be texts. -/
def ofMembers? (members : List (Option String × Value)) : Option Entitlement := do
  if members.all (·.1.isSome) then
    let id ← field? members "id"
    let user ← field? members "user_id"
    let guild ← field? members "guild_id"
    let subscription ← field? members "subscription_id"
    let kind ← field? members "type"
    let starts ← field? members "starts_at"
    let ends ← field? members "ends_at"
    ofFields? id user guild subscription kind starts ends
  else none

/-- The entitlement that an array of fields writes; the bounds may be left off its end. -/
def ofItems? (items : List Value) : Option Entitlement :=
  if items.length ≤ 7 then
    ofFields? items[0]? items[1]? items[2]? items[3]? items[4]? items[5]? items[6]?
  else none

/-- The entitlement that a value writes. -/
def ofValue? : Value → Option Entitlement
  | .object members => ofMembers? members
  | .array items => ofItems? items
  | _ => none

end Entitlement

/-- The entitlements that the body of a page writes. -/
def decodePage? (body : String) : Option (List Entitlement) :=
  match Value.parse? body.toList with
  | some (.array items) => items.mapM Entitlement.ofValue?
  | _ => none

end BotOps.Billing
