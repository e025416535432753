import Mathlib.Data.List.Infix
import Mathlib.Tactic.MkIffOfInductiveProp
import RewardDesk.Proofs.Store.Filed
import RewardDesk.Proofs.Text.LetterCase

/-!
# What a filter selects

A filter is a number of conditions, each of which may be absent. A listing should have in it every
record that is stored and meets the conditions that are given, and nothing else. This is said here
of one record at a time, and without a word on how a store picks its records: `Store.HoldsEvent`,
`Store.HoldsReward` and `Store.HoldsRequest` look a record up under its own id and compare its
fields with the conditions one by one.

What a store picks for a filter is then compared with it,

    mem_requestsOf : r ∈ s.requestsOf f ↔ s.HoldsRequest f r

and the same for events and rewards. It takes that the records stand under their own ids
(`Store.Filed`); theorems about listings speak of the records that a store holds, and get to its
selections through these three equivalences only.
-/

namespace RewardDesk

/-- A condition that may be absent, as a test and in words. -/
theorem all_eq_iff {α : Type} [DecidableEq α] {given : Option α} {a : α} :
    given.all (· = a) = true ↔ ∀ wanted ∈ given, a = wanted := by
  cases given with
  | none => simp
  | some wanted => simp [eq_comm]

namespace Store

variable {s : Store}

/-! ## Stored records that meet conditions -/

/-- The event is stored, and has the status if one is given. -/
@[mk_iff]
structure HoldsEvent (s : Store) (status : Option EventStatus) (e : Event) : Prop where
  stored : s.events.get? e.id = some e
  ofStatus : ∀ wanted ∈ status, e.status = wanted

/-- The reward is stored, and it has the type if one is given and the part in its name if one is
given. Case is no matter: both texts are read in lowercase. -/
@[mk_iff]
structure HoldsReward (s : Store) (f : RewardFilter) (r : Reward) : Prop where
  stored : s.rewards.get? r.id = some r
  ofType : ∀ wanted ∈ f.type, r.data.type = wanted
  named : ∀ part ∈ f.name, (Text.lowercase part).toList <:+: (Text.lowercase r.name).toList

/-- The request is stored, and it has the user, the event and the status that are given. -/
@[mk_iff]
structure HoldsRequest (s : Store) (f : RequestFilter) (r : Request) : Prop where
  stored : s.requests.requests.get? r.id = some r
  ofUser : ∀ wanted ∈ f.userId, r.userId = wanted
  ofEvent : ∀ wanted ∈ f.eventId, r.eventId = wanted
  ofStatus : ∀ wanted ∈ f.status, r.status = wanted

instance (f : RewardFilter) (r : Reward) : Decidable (s.HoldsReward f r) :=
  decidable_of_iff _ (holdsReward_iff ..).symm

instance (f : RequestFilter) (r : Request) : Decidable (s.HoldsRequest f r) :=
  decidable_of_iff _ (holdsRequest_iff ..).symm

/-! ## What a store selects -/

theorem mem_eventsOf (h : s.events.Filed) {status : Option EventStatus} {e : Event} :
    e ∈ s.eventsOf status ↔ s.HoldsEvent status e := by
  rw [eventsOf, List.mem_filter, h.mem_values, all_eq_iff, holdsEvent_iff]
  exact Iff.rfl

theorem mem_rewardsOf (h : s.Filed) {f : RewardFilter} {r : Reward} :
    r ∈ s.rewardsOf f ↔ s.HoldsReward f r := by
  have hname : (f.name.all fun part =>
      Text.occursIn (Text.lowercase part).toList (Text.lowercase r.name).toList) = true ↔
        ∀ part ∈ f.name, (Text.lowercase part).toList <:+: (Text.lowercase r.name).toList := by
    simp only [Option.all_eq_true, Text.occursIn_iff_infix, Option.mem_def]
  rw [rewardsOf, List.mem_filter, h.rewards.mem_values, RewardFilter.admits, Bool.and_eq_true,
    all_eq_iff, hname, holdsReward_iff]
  exact Iff.rfl

theorem mem_requestsOf (h : s.Filed) {f : RequestFilter} {r : Request} :
    r ∈ s.requestsOf f ↔ s.HoldsRequest f r := by
  rw [requestsOf, List.mem_filter, h.requests.mem_values, RequestFilter.admits, Bool.and_eq_true,
    Bool.and_eq_true, all_eq_iff, all_eq_iff, all_eq_iff, holdsRequest_iff, and_assoc]
  exact Iff.rfl

end Store
end RewardDesk
