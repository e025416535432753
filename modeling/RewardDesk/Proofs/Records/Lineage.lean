import RewardDesk.Proofs.Interleaving.Determined
import RewardDesk.Proofs.Interleaving.Errand
import RewardDesk.Proofs.Records.Deeds

/-!
# Lineage

Where records come from. An event was described by a payload, and nothing was done to it since but
what other payloads describe (`Event.Lineage`); the data of a reward were admitted
(`Reward.Admitted`). So whatever holds of what payloads describe, and outlasts their changes, holds
of all records.

`Errand.records_descend` says this of every run.
-/

namespace RewardDesk

/-! ## Records

An event descends from payloads if one has created it and others have changed it since, one after
the other. This is an induction principle for stored events. -/

/-- The events that payloads make. -/
inductive Event.Lineage : Event → Prop
  | described {j : Json} {p : CreateEvent} {id : String} {time : Instant}
    (hread : CreateEvent.payload.read j = .ok p) : Lineage (Events.ofPayload p id time)
  | changed {j : Json} {p : UpdateEvent} {e : Event} {time : Instant}
    (hread : UpdateEvent.payload.read j = .ok p) (he : e.Lineage) :
    Lineage { Events.merge p e with updatedAt := time }

/-- Were the data of the reward admitted? -/
def Reward.Admitted (r : Reward) : Prop := ∃ t j, RewardType.parse t j = .ok r.data

/-! ## Errands

An event is written back as a payload changes it, over the event that was looked up. Between the
look-up and the write somebody else may have changed it, but both descend from payloads. -/

namespace Lineage

/-- The calls that keep to the lineage. An event that is written back has it if the one has that was
looked up last. -/
def allows (found : Option Event) : Call → Prop
  | .statement (.createEvent e) => e.Lineage
  | .statement (.updateEvent e) => ∃ old, found = some old ∧ (old.Lineage → e.Lineage)
  | .statement (.createReward r) => r.Admitted
  | _ => True

/-- The event that was looked up last. -/
def after (found : Option Event) : (c : Call) → c.Answer → Option Event
  | .statement (.getEvent _), .ok e? => e?
  | _, _ => found

end Lineage

/-- The contract of errands that keep to the lineage. -/
abbrev descending : Contract (Option Event) := .determined Lineage.allows Lineage.after

instance : descending.Quiet where
  allows_log _ _ := trivial
  leads_log _ _ _ := ⟨And.right, fun h => ⟨trivial, h⟩⟩
  allows_measure _ _ := trivial
  leads_measure _ _ _ := ⟨And.right, fun h => ⟨trivial, h⟩⟩

namespace descending

variable {found : Option Event}

attribute [local simp] Lineage.allows Lineage.after

theorem obeys_createEvent {j : Json} {p : CreateEvent} (hread : CreateEvent.payload.read j = .ok p) :
    (Events.create p).run.Obeys descending found fun _ _ => True := by
  simp only [Events.create, Desk.obeys_within, Desk.obeys_bind, Desk.obeys_liftM]
  cases Events.checkPeriod p.startDate p.endDate with
  | error error => trivial
  | ok _ =>
    have hlineage : ∀ time id, (Events.ofPayload p id time).Lineage := fun _ _ => .described hread
    simpa using hlineage

theorem obeys_updateEvent {j : Json} {p : UpdateEvent} (hread : UpdateEvent.payload.read j = .ok p) :
    (Events.update p).run.Obeys descending found fun _ _ => True := by
  simp only [Events.update, Desk.obeys_within, Desk.obeys_bind, Desk.obeys_liftM,
    Contract.determined.obeys_getEvent]
  refine ⟨trivial, trivial, fun e => ?_⟩
  cases Events.checkPeriod (Events.merge p e).startDate (Events.merge p e).endDate with
  | error error => trivial
  | ok _ =>
    simp only [Contract.determined.obeys_clock, Contract.determined.obeys_perform]
    refine ⟨trivial, fun now => ⟨⟨e, rfl, .changed hread⟩, fun isThere => ?_⟩⟩
    cases isThere <;> simp

theorem obeys_createReward (p : CreateReward) :
    (Rewards.create p).run.Obeys descending found fun _ _ => True := by
  simp only [Rewards.create, Rewards.accept, Desk.obeys_within, Desk.obeys_bind, Desk.obeys_liftM]
  cases hparse : p.type.parse p.rewardData with
  | error problem => trivial
  | ok data =>
    have hadmitted : ∃ t j, RewardType.parse t j = .ok data := ⟨_, _, hparse⟩
    simpa [Reward.Admitted] using hadmitted

theorem obeys_review (id : String) (status : RequestStatus) :
    (Requests.review id status).run.Obeys descending found fun _ _ => True := by
  simp only [Requests.review, Desk.obeys_within, Desk.obeys_bind,
    Contract.determined.obeys_getRequest]
  refine ⟨trivial, trivial, fun current => ?_⟩
  by_cases hmove : current.status.canMoveTo status
  · simp only [hmove, Bool.not_true, Bool.false_eq_true, if_false, Desk.obeys_bind,
      Contract.determined.obeys_clock, Contract.determined.obeys_perform]
    refine ⟨trivial, fun now => ⟨trivial, fun moved => ?_⟩⟩
    cases moved with
    | none => simp [Requests.reportLost]
    | some updated => simp [Requests.concludeReview, Requests.obeys_announce]
  · simp [hmove]

theorem obeys_reviewByName (p : ReviewRequest) :
    (Requests.reviewByName p).run.Obeys descending found fun _ _ => True := by
  rw [Requests.reviewByName]
  cases RequestStatus.ofName? p.status with
  | none => simp
  | some status => exact obeys_review p.requestId status

theorem obeys_command (h : Handler) (hmem : h ∈ Command.all) (payload : Json) :
    (h.handle payload).run.Obeys descending found fun _ _ => True := by
  simp only [Command.all, Command.onEvents, Command.onRewards, Command.onLinks, Command.onRequests,
    List.mem_append, List.mem_cons, List.not_mem_nil, or_false] at hmem
  rcases hmem with (((rfl | rfl | rfl | rfl) | rfl | rfl | rfl | rfl) | rfl | rfl | rfl) |
    rfl | rfl | rfl | rfl | rfl
  · exact Handler.obeys_anyhow fun p hread => obeys_createEvent hread
  · exact Handler.obeys_anyhow fun p _ => by simp
  · exact Handler.obeys_anyhow fun p hread => obeys_updateEvent hread
  · exact Handler.obeys_anyhow fun p _ => by simp [Events.list]
  · exact Handler.obeys_anyhow fun p _ => obeys_createReward p
  · exact Handler.obeys_anyhow fun p _ => by simp [Rewards.list]
  · exact Handler.obeys_anyhow fun p _ => by simp [Rewards.walk]
  · exact Handler.obeys_anyhow fun p _ => by simp
  · exact Handler.obeys_anyhow fun p _ => by simp [Links.add]
  · exact Handler.obeys_anyhow fun p _ => by simp [Links.remove]
  · exact Handler.obeys_anyhow fun p _ => by simp [Links.rewards]
  · exact Handler.obeys_anyhow fun p _ => by simp [Requests.create]
  · exact Handler.obeys_anyhow fun p _ => by simp
  · exact Handler.obeys_anyhow fun p _ => by simp [Requests.list]
  · exact Handler.obeys_anyhow fun p _ => by simp [Requests.walk]
  · exact Handler.obeys_anyhow fun p _ => obeys_reviewByName p

end descending

theorem Errand.obeys_descending (e : Errand) :
    e.program.Obeys descending none fun _ _ => True := by
  cases e with
  | command name payload =>
    exact Router.obeys_dispatch name payload
      (fun h hmem _ => descending.obeys_command h hmem payload) trivial
  | review id status =>
    rw [program, ExceptT.run_map, Program.obeys_map]
    exact (descending.obeys_review id status).mono fun _ _ _ => trivial

/-! ## Runs -/

/-- Are the records of the store what payloads make? -/
structure Store.Descends (s : Store) : Prop where
  events : ∀ id e, s.events.get? id = some e → e.Lineage
  rewards : ∀ id r, s.rewards.get? id = some r → r.Admitted

/-- An allowed statement enters only records that descend from payloads. -/
theorem Store.Descends.execute {s : Store} {q : Statement} {found : Option Event}
    (hs : s.Descends) (hfound : ∀ e, found = some e → e.Lineage)
    (hallows : Lineage.allows found (.statement q)) : (s.execute q).2.Descends := by
  cases q with
  | createEvent e => exact { hs with events := Table.forall_set hs.events hallows }
  | updateEvent e =>
    obtain ⟨old, hold, he⟩ := hallows
    rcases s.updateEvent_cases e with ⟨-, hnone⟩ | ⟨-, -, hdone⟩
    · rw [hnone]
      exact hs
    · rw [hdone]
      exact { hs with events := Table.forall_set hs.events (he (hfound old hold)) }
  | createReward r => exact { hs with rewards := Table.forall_set hs.rewards hallows }
  | _ => exact { hs with }

/-- The records descend from payloads, and so do the events that were looked up. -/
structure Descending (w : World Store) (found : ι → Option Event) : Prop where
  storage : w.storage.Descends
  found : ∀ i e, found i = some e → e.Lineage

open Contract.determined (account account_cases)

theorem Descending.call [DecidableEq ι] {supply : Supply} {w : World Store}
    {found : ι → Option Event} {i : ι} {c : Call} (h : Descending w found)
    (hallows : Lineage.allows (found i) c) :
    Descending (World.answer .memory supply c w).2
      (account Lineage.after found i c (World.answer .memory supply c w).1) := by
  have hafter : ∀ e, Lineage.after (found i) c (World.answer .memory supply c w).1 = some e →
      e.Lineage := by
    cases c with
    | statement q =>
      cases q with
      | getEvent id => exact h.storage.events id
      | _ => exact h.found i
    | _ => exact h.found i
  constructor
  · cases c with
    | statement q => exact h.storage.execute (h.found i) hallows
    | _ => exact h.storage
  · intro j e he
    rcases account_cases (P := (· = some e)) he with ⟨-, he⟩ | ⟨-, he⟩
    · exact hafter e he
    · exact h.found j e he

/-- After any calls of any errands, in any order, all records descend from payloads. -/
theorem Errand.records_descend [DecidableEq ι] (supply : Supply) (channel : Channel StatusChange)
    (errands : ι → Errand) (schedule : List ι) :
    (runAll supply channel errands schedule).state.storage.Descends := by
  have hstart : Descending (begun channel errands).state fun _ : ι => none :=
    ⟨⟨nofun, nofun⟩, nofun⟩
  obtain ⟨_, hend, -⟩ := Contract.determined.run_keeps (fun w _ found => Descending w found)
    (fun h hallows => h.call hallows) schedule hstart fun i => (errands i).obeys_descending
  exact hend.storage

end RewardDesk
