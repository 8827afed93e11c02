import BotOps.Remote.Client

/-!
# Pages that do not come

A page comes as a whole or not at all: one entitlement that cannot be read spoils it, whatever the
others are (`decodePage?_eq_none_iff`), and a platform that answers with such a page has failed to
answer (`run_fetchPage_of_isMalformed`).
-/

namespace BotOps.Billing

open BotOps.Json BotOps.Remote

/-- A body is no page: it is no JSON array, or some item of the array is no entitlement. -/
def IsMalformed (body : String) : Prop :=
  ∀ items, Value.parse? body.toList = some (.array items) →
    ∃ item ∈ items, Entitlement.ofValue? item = none

/-- Items are read all together or not at all. -/
theorem mapM_eq_none_iff {α β : Type} {f : α → Option β} {items : List α} :
    items.mapM f = none ↔ ∃ item ∈ items, f item = none := by
  induction items with
  | nil => simp
  | cons item items ih =>
    rw [List.mapM_cons]
    cases hitem : f item with
    | none => simp [hitem]
    | some value =>
      cases hrest : items.mapM f with
      | none => simpa [hitem, hrest] using ih.mp hrest
      | some values => simpa [hitem, hrest] using ih

/-- Exactly the bodies that are no page cannot be read. -/
theorem decodePage?_eq_none_iff {body : String} : decodePage? body = none ↔ IsMalformed body := by
  unfold decodePage? IsMalformed
  split
  · next items hparse =>
    rw [mapM_eq_none_iff]
    constructor
    · intro hitem others hothers
      obtain rfl := Value.array.inj (Option.some.inj (hparse.symm.trans hothers))
      exact hitem
    · intro hall
      exact hall items hparse
  · next hother =>
    refine ⟨fun _ items hparse ↦ absurd hparse (hother items), fun _ ↦ rfl⟩

/-- A platform that answers with a body that is no page has failed to answer. -/
theorem run_fetchPage_of_isMalformed {client : Client} {after : UInt64} {server reached : Exchange}
    {answer : Answer}
    (answered : (client.authorizedGet (client.entitlementsUrl after)).run server =
      (.ok answer, reached))
    (malformed : IsMalformed answer.text) :
    (client.fetchPage after).run server = (.error (.service .malformedPage), reached) := by
  have hpage : Client.pageOf answer = .error (.service .malformedPage) := by
    unfold Client.pageOf
    rw [decodePage?_eq_none_iff.mpr malformed]
  change (match (client.authorizedGet (client.entitlementsUrl after)).run server with
    | (answer, reached) => (answer >>= Client.pageOf, reached)) = _
  rw [answered]
  exact Prod.ext hpage rfl

end BotOps.Billing
