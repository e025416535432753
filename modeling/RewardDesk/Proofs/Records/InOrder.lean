import RewardDesk.Proofs.Interleaving.Reserve
import RewardDesk.Proofs.Records.Docket

/-!
# Records in order

While all errands keep their dockets the records are in order: they stand under their ids, the index
of pending requests is exact, the ids that are held for later name nothing, and what errands have
seen or created is still there (`InOrder`). A statement that is allowed then finds the store as it
should be (`InOrder.leads`), and every allowed call keeps the order (`InOrder.call`).

`Errand.exists_inOrder` says this of all runs.
-/

namespace RewardDesk

variable {ι : Type} {supply : Supply} {w : World Store}

/-! ## Dockets and records

An id is in reserve from the moment at which it is drawn until a record is created under it. That
the id names nothing in between, whoever else is at work, is what makes created records new. -/

/-- The id that is in reserve for a record to come. -/
def Docket.reserve (g : Docket) : Option String := if g.deed = none then g.held else none

/-- The id under which a record is created was in reserve for it. -/
theorem Docket.reserve_of_newId {g : Docket} {q : Statement} {result : q.Result} {d : Deed}
    {id : String} (hallows : g.allows (.statement q)) (hdeed : q.deed result = some d)
    (hnew : d.newId = some id) : g.reserve = some id := by
  have hdoes := Statement.does_of_deed hdeed
  cases q with
  | createEvent e | createReward r =>
    obtain rfl := hdoes
    obtain rfl := Option.some.inj hnew
    rw [reserve, if_pos hallows.1, hallows.2]
  | createPending r =>
    obtain rfl := hdoes
    obtain rfl := Option.some.inj hnew
    rw [reserve, if_pos hallows.1, hallows.2.1]
  | updateEvent _ | addLink _ | removeLink _ _ =>
    obtain rfl := hdoes
    exact absurd hnew nofun
  | transition id status time =>
    obtain ⟨r, rfl⟩ := hdoes
    exact absurd hnew nofun
  | _ => exact hdoes.elim

theorem Docket.held_after_statement (g : Docket) (q : Statement) (result : q.Result) :
    (g.after (.statement q) (.ok result)).held = g.held := by
  cases q <;> rfl

theorem Docket.deed_after_statement (g : Docket) (q : Statement) (result : q.Result) :
    (g.after (.statement q) (.ok result)).deed = (q.deed result).or g.deed := by
  cases q <;> rfl

theorem Store.free_of_not_names {s : Store} {id : String} (h : ¬ s.Names id) :
    s.events.get? id = none ∧ s.rewards.get? id = none ∧ s.requests.requests.get? id = none := by
  simpa [Names, Option.eq_none_iff_forall_ne_some] using h

/-- The records are in order, and what is on the dockets agrees with them. -/
structure InOrder (supply : Supply) (w : World Store) (acc : ι → Docket) : Prop where
  filed : w.storage.Filed
  events : w.storage.events.Filed
  index : w.storage.requests.Exact
  reserved : Reserved supply w.storage.Names w.idsGiven fun i => (acc i).reserve
  seen : ∀ i e, (acc i).seen = some e →
    ∃ e', w.storage.events.get? e.id = some e' ∧ e'.createdAt = e.createdAt
  made : ∀ i r, (acc i).deed = some (.rewardCreated r) → w.storage.rewards.get? r.id = some r

namespace InOrder

variable {acc : ι → Docket}

theorem start (supply : Supply) (channel : Channel StatusChange) :
    InOrder supply { storage := .empty, channel } fun _ : ι => {} where
  filed := Store.filed_empty
  events := Table.filed_empty
  index := RequestBook.exact_empty
  reserved := Reserved.start supply fun _ h => by
    rcases h with ⟨_, h⟩ | ⟨_, h⟩ | ⟨_, h⟩ <;> exact absurd h nofun
  seen _ _ h := absurd h nofun
  made _ _ h := absurd h nofun

/-- Whoever has not begun finds the records in order. -/
theorem unbegun {κ : Type} (h : InOrder supply w acc) : InOrder supply w fun _ : κ => {} where
  filed := h.filed
  events := h.events
  index := h.index
  reserved := ⟨h.reserved.taken_drawn, fun _ _ hi => absurd hi nofun, fun _ _ _ hi => absurd hi nofun,
    fun _ _ hi => absurd hi nofun⟩
  seen _ _ hi := absurd hi nofun
  made _ _ hi := absurd hi nofun

/-- What is allowed is in its place. -/
theorem awaits (h : InOrder supply w acc) {i : ι} {q : Statement}
    (hallows : (acc i).allows (.statement q)) : w.storage.Awaits q := by
  have hfree : ∀ {id}, (acc i).deed = none → (acc i).held = some id →
      ¬ w.storage.Names id := by
    intro id hdeed hheld
    refine h.reserved.unused i id ?_
    rw [Docket.reserve, if_pos hdeed, hheld]
  cases q with
  | createEvent e => exact (Store.free_of_not_names (hfree hallows.1 hallows.2)).1
  | createReward r => exact (Store.free_of_not_names (hfree hallows.1 hallows.2)).2.1
  | updateEvent e =>
    obtain ⟨-, seen, hseen, hid, hcreated⟩ := hallows
    obtain ⟨e', he', hcreated'⟩ := h.seen i seen hseen
    intro old hold
    rw [hid, hold] at he'
    rw [Option.some.inj he', hcreated', hcreated]
  | createPending r =>
    obtain ⟨hdeed, hheld, hpending⟩ := hallows
    exact ⟨hpending, (Store.free_of_not_names (hfree hdeed hheld)).2.2⟩
  | transition id status time => exact hallows.2
  | _ => trivial

/-- What is allowed does what it has answered. -/
theorem leads (h : InOrder supply w acc) {i : ι} {q : Statement}
    (hallows : (acc i).allows (.statement q)) :
    Deed.Leads (q.deed (w.storage.execute q).1) w.storage (w.storage.execute q).2 :=
  Store.leads_execute h.events h.filed.requests h.index (h.awaits hallows)

/-- What is true of the records is so after an allowed call if it is after the deed that the call
may be. -/
theorem storage_cases (h : InOrder supply w acc) {i : ι} {c : Call} (hallows : (acc i).allows c)
    {P : Store → Prop} (hidle : P w.storage)
    (hdeed : ∀ q d, c = .statement q → q.deed (w.storage.execute q).1 = some d →
      d.Fits w.storage → P (d.apply w.storage)) :
    P (World.answer .memory supply c w).2.storage := by
  cases c with
  | statement q =>
    have hleads := h.leads hallows
    show P (w.storage.execute q).2
    cases hdone : q.deed (w.storage.execute q).1 with
    | none => rwa [Store.execute_of_deed_eq_none hdone]
    | some d =>
      rw [hdone] at hleads
      rw [hleads.2]
      exact hdeed q d rfl hdone hleads.1
  | _ => exact hidle

/-- With every allowed call the records do nothing but age. -/
theorem ages (h : InOrder supply w acc) {i : ι} {c : Call} (hallows : (acc i).allows c) :
    w.storage.Ages (World.answer .memory supply c w).2.storage :=
  h.storage_cases hallows (.refl w.storage) fun _ _ _ _ hfits => hfits.ages

/-! ## Calls

A call concerns its own errand and the records. For the other errands it is enough that the records
have done nothing but age (`InOrder.step`). -/

open Contract.determined (account account_cases)

variable [DecidableEq ι]

theorem reserve_account (acc : ι → Docket) (i : ι) (c : Call) (a : c.Answer) :
    (fun j => (account Docket.after acc i c a j).reserve) =
      Function.update (fun j => (acc j).reserve) i ((acc i).after c a).reserve :=
  funext fun j => Function.apply_update (fun _ => Docket.reserve) acc i _ j

/-- After a call the records are in order if they were before, have done nothing but age, and agree
with what the caller knows now. -/
theorem step {w' : World Store} {i : ι} {c : Call} {a : c.Answer} (h : InOrder supply w acc)
    (hages : w.storage.Ages w'.storage) (hfiled : w'.storage.Filed)
    (hevents : w'.storage.events.Filed) (hindex : w'.storage.requests.Exact)
    (hreserved : Reserved supply w'.storage.Names w'.idsGiven
      (Function.update (fun j => (acc j).reserve) i ((acc i).after c a).reserve))
    (hseen : ∀ e, ((acc i).after c a).seen = some e →
      (acc i).seen = some e ∨ w'.storage.events.get? e.id = some e)
    (hmade : ∀ r, ((acc i).after c a).deed = some (.rewardCreated r) →
      (acc i).deed = some (.rewardCreated r) ∨ w'.storage.rewards.get? r.id = some r) :
    InOrder supply w' (account Docket.after acc i c a) := by
  refine ⟨hfiled, hevents, hindex, ?_, fun j e hj => ?_, fun j r hj => ?_⟩
  · rwa [reserve_account]
  · have hknown : (acc j).seen = some e ∨ w'.storage.events.get? e.id = some e := by
      rcases account_cases (P := fun g : Docket => g.seen = some e) hj with ⟨rfl, hi⟩ | ⟨-, hj⟩
      · exact hseen e hi
      · exact .inl hj
    rcases hknown with hbefore | hnow
    · obtain ⟨e', he', hcreated⟩ := h.seen j e hbefore
      obtain ⟨e'', he'', -, hcreated'⟩ := hages.events e.id e' he'
      exact ⟨e'', he'', hcreated'.trans hcreated⟩
    · exact ⟨e, hnow, rfl⟩
  · have hknown : (acc j).deed = some (.rewardCreated r) ∨
        w'.storage.rewards.get? r.id = some r := by
      rcases account_cases (P := fun g : Docket => g.deed = some (.rewardCreated r)) hj with
        ⟨rfl, hi⟩ | ⟨-, hj⟩
      · exact hmade r hi
      · exact .inl hj
    exact hknown.elim (fun hbefore => hages.rewards r.id r (h.made j r hbefore)) id

/-- A call that is no statement and draws no id changes nothing here. -/
theorem frame {w' : World Store} {i : ι} {c : Call} {a : c.Answer} (h : InOrder supply w acc)
    (hstorage : w'.storage = w.storage) (hgiven : w'.idsGiven = w.idsGiven)
    (hreserve : ((acc i).after c a).reserve = (acc i).reserve)
    (hseen : ((acc i).after c a).seen = (acc i).seen)
    (hdeed : ((acc i).after c a).deed = (acc i).deed) :
    InOrder supply w' (account Docket.after acc i c a) := by
  refine h.step ?_ ?_ ?_ ?_ ?_ (fun e he => .inl (hseen ▸ he)) (fun r hr => .inl (hdeed ▸ hr))
  all_goals rw [hstorage]
  · exact .refl w.storage
  · exact h.filed
  · exact h.events
  · exact h.index
  · rw [hgiven, hreserve, Function.update_eq_self]
    exact h.reserved

theorem freshId (hids : Function.Injective supply.id) (h : InOrder supply w acc) (i : ι) :
    InOrder supply { w with idsGiven := w.idsGiven + 1 }
      (account Docket.after acc i .freshId (supply.id w.idsGiven)) := by
  refine h.step (.refl w.storage) h.filed h.events h.index ?_ (fun _ => .inl) (fun _ => .inl)
  have hdrawn := h.reserved.draw hids i
  cases hdeed : (acc i).deed with
  | none => rwa [show ((acc i).after .freshId (supply.id w.idsGiven)).reserve = _ from if_pos hdeed]
  -- Whoever has done a deed has no use for another id.
  | some d =>
    have hnone : ((acc i).after .freshId (supply.id w.idsGiven)).reserve = none :=
      if_neg (by simp [Docket.after, hdeed])
    rw [hnone]
    refine hdrawn.frame (fun _ => id) fun j x hj => ?_
    rcases Reserved.update_eq_some hj with ⟨-, habsurd⟩ | ⟨hji, hj⟩
    · exact absurd habsurd nofun
    · rwa [Function.update_of_ne hji]

theorem reserved_statement {i : ι} {q : Statement} (h : InOrder supply w acc)
    (hallows : (acc i).allows (.statement q)) :
    Reserved supply (w.storage.execute q).2.Names w.idsGiven
      (Function.update (fun j => (acc j).reserve) i
        ((acc i).after (.statement q) (.ok (w.storage.execute q).1)).reserve) := by
  have hleads := h.leads hallows
  cases hdeed : q.deed (w.storage.execute q).1 with
  | none =>
    have hsame : ((acc i).after (.statement q) (.ok (w.storage.execute q).1)).reserve =
        (acc i).reserve := by
      rw [Docket.reserve, Docket.held_after_statement, Docket.deed_after_statement, hdeed]
      rfl
    rw [hsame, Function.update_eq_self, Store.execute_of_deed_eq_none hdeed]
    exact h.reserved
  | some d =>
    rw [hdeed] at hleads
    obtain ⟨hfits, hstore⟩ := hleads
    have hnone : ((acc i).after (.statement q) (.ok (w.storage.execute q).1)).reserve = none := by
      rw [Docket.reserve, Docket.deed_after_statement, hdeed]
      rfl
    rw [hnone, hstore]
    -- Only a deed that creates a record uses the id up.
    cases hnew : d.newId with
    | none =>
      refine h.reserved.frame (fun id hid => ?_) fun j x hj => ?_
      · rcases hfits.names_apply hid with hid | habsurd
        · exact hid
        · rw [hnew] at habsurd
          exact absurd habsurd nofun
      · rcases Reserved.update_eq_some hj with ⟨-, habsurd⟩ | ⟨-, hj⟩
        · exact absurd habsurd nofun
        · exact hj
    | some id =>
      refine h.reserved.use (Docket.reserve_of_newId hallows hdeed hnew) fun x hx => ?_
      rcases hfits.names_apply hx with hx | hx
      · exact .inl hx
      · rw [hnew] at hx
        exact .inr (Option.some.inj hx).symm

theorem statement {i : ι} {q : Statement} (h : InOrder supply w acc)
    (hallows : (acc i).allows (.statement q)) :
    InOrder supply { w with storage := (w.storage.execute q).2 }
      (account Docket.after acc i (.statement q) (.ok (w.storage.execute q).1)) := by
  have hleads := h.leads hallows
  refine h.step hleads.ages (h.filed.execute q) (Store.filed_events_execute h.events q)
    (Store.exact_of_awaits h.index (h.awaits hallows)) (h.reserved_statement hallows)
    (fun e he => ?_) (fun r hr => ?_)
  · cases q with
    | getEvent id =>
      have hfound : w.storage.events.get? id = some e := he
      obtain rfl : e.id = id := h.events id e hfound
      exact .inr hfound
    | _ => exact .inl he
  · rw [Docket.deed_after_statement] at hr
    cases hdeed : q.deed (w.storage.execute q).1 with
    | none =>
      rw [hdeed] at hr
      exact .inl hr
    | some d =>
      rw [hdeed] at hr hleads
      obtain rfl := Option.some.inj hr
      obtain ⟨-, hstore⟩ := hleads
      right
      rw [hstore]
      simp [Deed.apply]

/-- Every allowed call keeps the records in order. -/
theorem call (hids : Function.Injective supply.id) {i : ι} {c : Call} (h : InOrder supply w acc)
    (hallows : (acc i).allows c) :
    InOrder supply (World.answer .memory supply c w).2
      (account Docket.after acc i c (World.answer .memory supply c w).1) := by
  cases c with
  | statement q => exact h.statement hallows
  | freshId => exact h.freshId hids i
  | clock => exact h.frame rfl rfl rfl rfl rfl
  | publish change => exact h.frame rfl rfl rfl rfl rfl
  | measure m => exact h.frame rfl rfl rfl rfl rfl
  | log entry => exact h.frame rfl rfl rfl rfl rfl

end InOrder

/-- After any calls of any errands, in any order, the records are in order. Whoever has not begun
has an empty docket, and what the others have still to do will leave their dockets as it should. -/
theorem Errand.exists_inOrder [DecidableEq ι] (hids : Function.Injective supply.id)
    (channel : Channel StatusChange) (errands : ι → Errand) (schedule : List ι) :
    let crew := runAll supply channel errands schedule
    ∃ acc : ι → Docket, InOrder supply crew.state acc ∧ (∀ i, i ∉ schedule → acc i = {}) ∧
      ∀ i, (crew.left i).Obeys duty (acc i) (Docket.Ends (errands i).Did) :=
  Contract.determined.run_keeps (fun w _ acc => InOrder supply w acc)
    (fun h hallows => h.call hids hallows) schedule (InOrder.start supply channel)
    fun i => (errands i).obeys_duty

end RewardDesk
