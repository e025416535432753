import RewardDesk.Proofs.Interleaving.Reserve
import RewardDesk.Proofs.Requests.Conduct
import RewardDesk.Proofs.Store.Requests

/-!
# Ids are given to one request each

As long as no id is given out twice, the id that an errand holds for its next record is held by
nobody else and names no request yet (`Errand.Fresh`), whatever the order of the calls.

`Errand.runAll_holds` turns a property that every proper call preserves into one of all runs.
-/

namespace RewardDesk

/-- The ids `x`, `xx`, `xxx` and so on, of which no two are alike. -/
def Supply.growing : Supply where
  id n := String.ofList (List.replicate (n + 1) 'x')
  time _ := default

theorem Supply.growing_injective : Function.Injective growing.id := by
  intro m n h
  have hlists : List.replicate (m + 1) 'x' = List.replicate (n + 1) 'x' := String.ofList_injective h
  have hlengths := congrArg List.length hlists
  simpa using hlengths

/-! ## Accounts of a run

The account gives each errand its standing. With every call the standing of the caller goes on as
its contract says, and all others stay. -/

namespace Standing

/-- Only the call for a fresh id puts an id into an errand's hands. -/
theorem held_after {g : Standing} {c : Call} {answer : c.Answer} {id : String}
    (hc : c ≠ .freshId) (h : (g.after c answer).held = some id) : g.held = some id := by
  unfold after at h
  split at h
  · exact absurd rfl hc
  all_goals first | exact h | cases h

end Standing

namespace Errand

variable {ι : Type} [DecidableEq ι] {supply : Supply}

/-- What a proper call does to the account of a run: only the standing of the caller changes. -/
def account (acc : ι → Standing) (i : ι) (c : Call) (answer : c.Answer) : ι → Standing :=
  Function.update acc i ((acc i).after c answer)

theorem account_self {acc : ι → Standing} {i : ι} {c : Call} {answer : c.Answer} :
    account acc i c answer i = (acc i).after c answer :=
  Function.update_self ..

theorem account_of_ne {acc : ι → Standing} {i j : ι} {c : Call} {answer : c.Answer} (h : j ≠ i) :
    account acc i c answer j = acc j :=
  Function.update_of_ne h ..

/-- What an errand has after a call, it has by its own call, or had before. -/
theorem account_cases {β : Type} (has : Standing → Option β) {acc : ι → Standing} {i j : ι}
    {c : Call} {answer : c.Answer} {b : β} (h : has (account acc i c answer j) = some b) :
    (j = i ∧ has ((acc i).after c answer) = some b) ∨ (j ≠ i ∧ has (acc j) = some b) :=
  Contract.determined.account_cases (P := fun g => has g = some b) h

/-- A property that every proper call preserves holds of all runs. Whoever has not started holds and
owes nothing, and whoever is done has settled what was owed. -/
theorem runAll_holds (holds : World Store → List (ι × Call) → (ι → Standing) → Prop)
    (hcall : ∀ {w history acc i c}, holds w history acc → (acc i).allows c →
      holds (World.answer .memory supply c w).2 (history ++ [(i, c)])
        (account acc i c (World.answer .memory supply c w).1))
    (channel : Channel StatusChange) (errands : ι → Errand) (schedule : List ι)
    (hstart : holds { storage := .empty, channel } [] fun _ => {}) :
    let crew := runAll supply channel errands schedule
    ∃ acc : ι → Standing, holds crew.state crew.history acc ∧
      (∀ i, i ∉ schedule → acc i = {}) ∧
      ∀ i outcome, crew.left i = .done outcome → conduct.Settled outcome (acc i) := by
  intro crew
  have hbegun : ∀ i, ((begun channel errands).left i).Obeys conduct {} conduct.Settled :=
    fun i => (errands i).obeys_conduct
  have hstart' : holds (begun channel errands).state (begun channel errands).history fun _ => {} :=
    hstart
  obtain ⟨acc, hholds, hunmoved, hobeys⟩ :=
    Contract.determined.run_keeps holds hcall schedule hstart' hbegun
  refine ⟨acc, hholds, hunmoved, fun i outcome hdone => ?_⟩
  have hi := hobeys i
  rw [show (Crew.run _ (begun channel errands) schedule).left i = .done outcome from hdone] at hi
  exact hi

/-! ## Fresh ids

What is true of ids in reserve is used for requests here: the ids that are taken are those that
requests are stored under. -/

/-- The ids that errands hold are still to be used: they were drawn, differ from each other, and
name no request. -/
structure Fresh (supply : Supply) (b : RequestBook) (given : Nat) (acc : ι → Standing) : Prop where
  stored_drawn : ∀ id r, b.requests.get? id = some r → ∃ n < given, id = supply.id n
  held_drawn : ∀ i id, (acc i).held = some id → ∃ n < given, id = supply.id n
  distinct : ∀ i j id, (acc i).held = some id → (acc j).held = some id → i = j
  unused : ∀ i id, (acc i).held = some id → b.requests.get? id = none

namespace Fresh

variable {b b' : RequestBook} {given : Nat} {acc acc' : ι → Standing}

omit [DecidableEq ι] in
/-- The ids that requests have are taken. -/
theorem iff_reserved : Fresh supply b given acc ↔
    Reserved supply (fun id => ∃ r, b.requests.get? id = some r) given fun i => (acc i).held := by
  constructor
  · intro h
    refine ⟨fun id ⟨r, hr⟩ => h.stored_drawn id r hr, h.held_drawn, h.distinct, ?_⟩
    rintro i id hi ⟨r, hr⟩
    rw [h.unused i id hi] at hr
    exact absurd hr nofun
  · intro h
    refine ⟨fun id r hr => h.taken_drawn id ⟨r, hr⟩, h.held_drawn, h.distinct, fun i id hi => ?_⟩
    exact Option.eq_none_iff_forall_ne_some.2 fun r hr => h.unused i id hi ⟨r, hr⟩

omit [DecidableEq ι] in
theorem start (supply : Supply) : Fresh supply .empty 0 fun _ : ι => {} :=
  iff_reserved.2 (Reserved.start supply fun _ ⟨_, h⟩ => absurd h nofun)

omit [DecidableEq ι] in
/-- Nothing is lost when no request is entered and no id is drawn. -/
theorem frame (h : Fresh supply b given acc)
    (hbook : ∀ id r, b'.requests.get? id = some r → (b.requests.get? id).isSome)
    (hheld : ∀ i id, (acc' i).held = some id → (acc i).held = some id) :
    Fresh supply b' given acc' :=
  iff_reserved.2 <| (iff_reserved.1 h).frame
    (fun id ⟨r, hr⟩ => Option.isSome_iff_exists.1 (hbook id r hr)) hheld

theorem held_account_eq (acc : ι → Standing) (i : ι) (c : Call) (answer : c.Answer) :
    (fun j => (account acc i c answer j).held) =
      Function.update (fun j => (acc j).held) i ((acc i).after c answer).held :=
  funext fun j => Function.apply_update (fun _ => Standing.held) acc i _ j

/-- The holdings after a call that draws no id. -/
theorem held_account {i j : ι} {c : Call} {answer : c.Answer} {id : String} (hc : c ≠ .freshId)
    (h : (account acc i c answer j).held = some id) : (acc j).held = some id := by
  rcases account_cases Standing.held h with ⟨rfl, hi⟩ | ⟨-, hj⟩
  · exact Standing.held_after hc hi
  · exact hj

/-- The id that is drawn next is new. -/
theorem draw (hids : Function.Injective supply.id) (h : Fresh supply b given acc) (i : ι) :
    Fresh supply b (given + 1) (account acc i .freshId (supply.id given)) := by
  rw [iff_reserved, held_account_eq]
  exact (iff_reserved.1 h).draw hids i

/-- A request may be entered under the id that is held for it. -/
theorem createPending {i : ι} {r : Request} {answer : Except StorageFault Bool}
    (h : Fresh supply b given acc) (hheld : (acc i).held = some r.id) :
    Fresh supply (b.createPending r).2 given
      (account acc i (.statement (.createPending r)) answer) := by
  rw [iff_reserved, held_account_eq]
  refine (iff_reserved.1 h).use hheld fun id ⟨r', hr'⟩ => ?_
  rcases b.createPending_cases r with ⟨-, hrefused⟩ | ⟨-, hentered⟩
  · rw [hrefused] at hr'
    exact .inl ⟨r', hr'⟩
  · rw [hentered] at hr'
    rcases Table.eq_or_get?_of_set hr' with rfl | hr'
    · exact .inr rfl
    · exact .inl ⟨r', hr'⟩

/-- A review changes a request that is there. -/
theorem transition {i : ι} {id : String} {status : RequestStatus} {time : Instant}
    {answer : Except StorageFault (Option Request)} (h : Fresh supply b given acc) :
    Fresh supply (b.transition id status time).2 given
      (account acc i (.statement (.transition id status time)) answer) := by
  refine h.frame (fun id' r' hr' => ?_) fun _ _ => held_account nofun
  rcases b.transition_cases id status time with ⟨-, hnone⟩ | ⟨r, hr, -, hmoved⟩
  · rw [hnone] at hr'
    exact Option.isSome_of_mem hr'
  · rw [hmoved, Table.get?_set] at hr'
    split at hr'
    · rename_i hid
      rw [hid]
      exact Option.isSome_of_mem hr
    · exact Option.isSome_of_mem hr'

/-- Every proper call keeps ids fresh. -/
theorem call (hids : Function.Injective supply.id) {w : World Store} {i : ι} {c : Call}
    (h : Fresh supply w.storage.requests w.idsGiven acc) (hallows : (acc i).allows c) :
    Fresh supply (World.answer .memory supply c w).2.storage.requests
      (World.answer .memory supply c w).2.idsGiven
      (account acc i c (World.answer .memory supply c w).1) := by
  have hsame : ∀ id r, w.storage.requests.requests.get? id = some r →
      (w.storage.requests.requests.get? id).isSome := fun _ _ => Option.isSome_of_mem
  cases c with
  | freshId => exact h.draw hids i
  | clock => exact h.frame hsame fun _ _ => held_account nofun
  | publish change => exact h.frame hsame fun _ _ => held_account nofun
  | measure m => exact h.frame hsame fun _ _ => held_account nofun
  | log entry => exact h.frame hsame fun _ _ => held_account nofun
  | statement q =>
    by_cases hq : Store.changesRequests q
    · cases q with
      | createPending r => exact h.createPending hallows
      | transition id status time => exact h.transition
      | _ => exact absurd hq id
    · refine h.frame (fun id r hr => hsame id r ?_) fun _ _ => held_account nofun
      rwa [← Store.requests_execute hq]

end Fresh
end Errand
end RewardDesk
