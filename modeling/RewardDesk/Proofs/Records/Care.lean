import RewardDesk.Proofs.Records.Docket
import RewardDesk.Proofs.Records.Soundness

/-!
# Care

What errands make sure of before they change the records. A record that is created or written back
is sound, what it refers to was looked up and found, and the time that is entered was read after the
look-up.

`Errand.obeys_care` says this of all errands.
-/

namespace RewardDesk

/-- What an errand has found out. -/
structure Insight where
  /-- The event that was found by the last look-up, and the id under which it was. -/
  event : Option (String × Event) := none
  /-- The id of the reward that was found by the last look-up. -/
  reward : Option String := none
  /-- The request that was found by the last look-up, and the id under which it was. -/
  request : Option (String × Request) := none
  /-- The time, if it was read after the event and the request were looked up. -/
  time : Option Instant := none

namespace Insight

/-- Was a record with these times created just now? -/
def Stamps (g : Insight) (createdAt updatedAt : Instant) : Prop :=
  g.time = some createdAt ∧ updatedAt = createdAt

/-- The calls that are made with care. Of an event that is written back it is enough that it is
sound if the one that was read is. -/
def allows (g : Insight) : Call → Prop
  | .statement (.createEvent e) => e.Sound ∧ g.Stamps e.createdAt e.updatedAt
  | .statement (.updateEvent e) => ∃ id old, g.event = some (id, old) ∧ (old.Sound → e.Sound) ∧
      e.createdAt = old.createdAt ∧ g.time = some e.updatedAt
  | .statement (.createReward r) => r.Sound ∧ g.Stamps r.createdAt r.updatedAt
  | .statement (.addLink l) => (∃ e, g.event = some (l.eventId, e)) ∧ g.reward = some l.rewardId
  | .statement (.createPending r) => r.Sound ∧ (∃ e, g.event = some (r.eventId, e)) ∧
      g.Stamps r.createdAt r.updatedAt
  | .statement (.transition id _ time) => (∃ r, g.request = some (id, r)) ∧ g.time = some time
  | _ => True

/-- What is known after a call. -/
def after (g : Insight) : (c : Call) → c.Answer → Insight
  | .clock, time => { g with time := some time }
  | .statement (.getEvent id), .ok found => { g with event := found.map (id, ·), time := none }
  | .statement (.getReward id), .ok found => { g with reward := found.map fun _ => id }
  | .statement (.getRequest id), .ok found => { g with request := found.map (id, ·), time := none }
  | _, _ => g

end Insight

/-- The contract of careful errands. -/
abbrev care : Contract Insight := .determined Insight.allows Insight.after

instance : care.Quiet where
  allows_log _ _ := trivial
  leads_log _ _ _ := ⟨And.right, fun h => ⟨trivial, h⟩⟩
  allows_measure _ _ := trivial
  leads_measure _ _ _ := ⟨And.right, fun h => ⟨trivial, h⟩⟩

/-! ## Payloads

The bounds on names are checked by the fields of the payloads. What has been read as a payload keeps
them. -/

theorem Payload.problems_of_read {p : Payload α} {j : Json} {a : α} (h : p.read j = .ok a) :
    p.problems a = [] := by
  unfold read at h
  split at h
  · exact absurd h nofun
  · rename_i a' _
    split at h
    · obtain rfl := Except.ok.inj h
      exact List.isEmpty_iff.1 ‹_›
    · exact absurd h nofun

theorem CreateEvent.name_of_read {j : Json} {p : CreateEvent} (h : payload.read j = .ok p) :
    Text.IsLabel p.name :=
  fromOneToHundred_eq_nil.1 (Payload.problems_of_read h)

theorem UpdateEvent.name_of_read {j : Json} {p : UpdateEvent} (h : payload.read j = .ok p) :
    ∀ name, p.name = some name → Text.IsLabel name := by
  intro name hname
  obtain ⟨-, hlabel⟩ := List.append_eq_nil_iff.1 (Payload.problems_of_read h)
  rw [hname] at hlabel
  exact fromOneToHundred_eq_nil.1 (by simpa using hlabel)

theorem CreateReward.name_of_read {j : Json} {p : CreateReward} (h : payload.read j = .ok p) :
    Text.IsLabel p.name :=
  fromOneToHundred_eq_nil.1 (Payload.problems_of_read h)

theorem CreateRequest.userId_of_read {j : Json} {p : CreateRequest} (h : payload.read j = .ok p) :
    Text.IsLabel p.userId :=
  fromOneToHundred_eq_nil.1 (List.append_eq_nil_iff.1 (Payload.problems_of_read h)).1

/-! ## Errands

Each piece of work is followed to the calls that change something, and what was found before is at
hand there. -/

namespace care

variable {g : Insight}

/-- Nothing is said of the end of an errand. -/
def Anyhow (_ : α) (_ : Insight) : Prop := True

attribute [local simp] Insight.allows Insight.after Insight.Stamps Anyhow

/-! ### Work on events, rewards and links -/

theorem obeys_createEvent {p : CreateEvent} (hname : Text.IsLabel p.name) :
    (Events.create p).run.Obeys care {} Anyhow := by
  simp only [Events.create, Desk.obeys_within, Desk.obeys_bind, Desk.obeys_liftM]
  cases hperiod : Events.checkPeriod p.startDate p.endDate with
  | error error => trivial
  | ok _ =>
    have hsound : ∀ time id, (Events.ofPayload p id time).Sound := fun _ _ =>
      ⟨hname, Events.checkPeriod_eq_ok hperiod⟩
    simpa [Events.ofPayload] using hsound

theorem obeys_updateEvent {p : UpdateEvent}
    (hname : ∀ name, p.name = some name → Text.IsLabel name) :
    (Events.update p).run.Obeys care {} Anyhow := by
  simp only [Events.update, Desk.obeys_within, Desk.obeys_bind, Desk.obeys_liftM,
    Contract.determined.obeys_getEvent]
  refine ⟨trivial, trivial, fun e => ?_⟩
  cases hperiod : Events.checkPeriod (Events.merge p e).startDate (Events.merge p e).endDate with
  | error error => trivial
  | ok _ =>
    simp only [Contract.determined.obeys_clock, Contract.determined.obeys_perform]
    refine ⟨trivial, fun now => ⟨⟨p.id, e, rfl, fun he => ⟨?_, ?_⟩, rfl, rfl⟩, fun found => ?_⟩⟩
    -- The name is the one that is given, or the one that was read.
    · show Text.IsLabel (p.name.getD e.name)
      cases hgiven : p.name with
      | none => exact he.name
      | some name => exact hname name hgiven
    · exact Events.checkPeriod_eq_ok hperiod
    · cases found <;> simp

theorem obeys_createReward {p : CreateReward} (hname : Text.IsLabel p.name) :
    (Rewards.create p).run.Obeys care {} Anyhow := by
  simp only [Rewards.create, Rewards.accept, Desk.obeys_within, Desk.obeys_bind, Desk.obeys_liftM]
  cases hparse : p.type.parse p.rewardData with
  | error problem => trivial
  | ok data =>
    have hsound : ∀ time id, Reward.Sound
        { id, name := p.name, description := p.description, data, createdAt := time,
          updatedAt := time } := fun _ _ => ⟨hname, RewardType.sound_of_parse hparse⟩
    simpa using hsound

theorem obeys_addLink (p : LinkReward) : (Links.add p).run.Obeys care {} Anyhow := by
  simp [Links.add]

/-! ### Work on requests -/

theorem obeys_createRequest {p : CreateRequest} (hname : Text.IsLabel p.userId) :
    (Requests.create p).run.Obeys care {} Anyhow := by
  have hsound : ∀ (_ : Event) id time, (Request.newPending id p.userId p.eventId time).Sound :=
    fun _ _ _ => hname
  simpa [Requests.create, Request.newPending] using hsound

theorem obeys_review (id : String) (status : RequestStatus) :
    (Requests.review id status).run.Obeys care {} Anyhow := by
  simp only [Requests.review, Desk.obeys_within, Desk.obeys_bind,
    Contract.determined.obeys_getRequest]
  refine ⟨trivial, trivial, fun current => ?_⟩
  by_cases hmove : current.status.canMoveTo status
  · simp only [hmove, Bool.not_true, Bool.false_eq_true, if_false, Desk.obeys_bind,
      Contract.determined.obeys_clock, Contract.determined.obeys_perform]
    refine ⟨trivial, fun now => ⟨⟨⟨current, rfl⟩, rfl⟩, fun found => ?_⟩⟩
    cases found with
    | none => simp [Requests.reportLost]
    | some updated => simp [Requests.concludeReview, Requests.obeys_announce]
  · simp [hmove]

theorem obeys_reviewByName (p : ReviewRequest) :
    (Requests.reviewByName p).run.Obeys care {} Anyhow := by
  rw [Requests.reviewByName]
  cases RequestStatus.ofName? p.status with
  | none => simp
  | some status => exact obeys_review p.requestId status

/-! ### Commands -/

theorem obeys_command (h : Handler) (hmem : h ∈ Command.all) (payload : Json) :
    (h.handle payload).run.Obeys care {} Anyhow := by
  simp only [Command.all, Command.onEvents, Command.onRewards, Command.onLinks, Command.onRequests,
    List.mem_append, List.mem_cons, List.not_mem_nil, or_false] at hmem
  rcases hmem with (((rfl | rfl | rfl | rfl) | rfl | rfl | rfl | rfl) | rfl | rfl | rfl) |
    rfl | rfl | rfl | rfl | rfl
  · exact Handler.obeys_anyhow fun p hread => obeys_createEvent (CreateEvent.name_of_read hread)
  · exact Handler.obeys_anyhow fun p _ => by simp
  · exact Handler.obeys_anyhow fun p hread => obeys_updateEvent (UpdateEvent.name_of_read hread)
  · exact Handler.obeys_anyhow fun p _ => by simp [Events.list]
  · exact Handler.obeys_anyhow fun p hread => obeys_createReward (CreateReward.name_of_read hread)
  · exact Handler.obeys_anyhow fun p _ => by simp [Rewards.list]
  · exact Handler.obeys_anyhow fun p _ => by simp [Rewards.walk]
  · exact Handler.obeys_anyhow fun p _ => by simp
  · exact Handler.obeys_anyhow fun p _ => obeys_addLink p
  · exact Handler.obeys_anyhow fun p _ => by simp [Links.remove]
  · exact Handler.obeys_anyhow fun p _ => by simp [Links.rewards]
  · exact Handler.obeys_anyhow fun p hread => obeys_createRequest (CreateRequest.userId_of_read hread)
  · exact Handler.obeys_anyhow fun p _ => by simp
  · exact Handler.obeys_anyhow fun p _ => by simp [Requests.list]
  · exact Handler.obeys_anyhow fun p _ => by simp [Requests.walk]
  · exact Handler.obeys_anyhow fun p _ => obeys_reviewByName p

end care

/-- Every errand is careful. -/
theorem Errand.obeys_care (e : Errand) : e.program.Obeys care {} care.Anyhow := by
  cases e with
  | command name payload =>
    exact Router.obeys_dispatch name payload (fun h hmem _ => care.obeys_command h hmem payload)
      trivial
  | review id status =>
    rw [program, ExceptT.run_map, Program.obeys_map]
    exact (care.obeys_review id status).mono fun _ _ _ => trivial

end RewardDesk
