import RewardDesk.Proofs.Interleaving.Determined
import RewardDesk.Proofs.Interleaving.Errand

/-!
# How the desk conducts itself

What every errand at the desk sticks to, whatever the others do. A record is created under an id
that was drawn for it and for nothing else. Requests are moved to terminal statuses only. A review
that was carried out is owed to the subscribers, and is published once, as it was carried out,
before the errand makes any other review or ends.

`Errand.obeys_conduct` says this of all errands.
-/

namespace RewardDesk

/-- How things stand for an errand. -/
structure Standing where
  /-- The id that was drawn for the next record. -/
  held : Option String := none
  /-- The review that was carried out and is still to be published. -/
  owed : Option Request := none
  /-- Has a review been published? -/
  told : Bool := false

namespace Standing

/-- The calls that are proper as things stand. -/
def allows (g : Standing) : Call → Prop
  | .statement (.createEvent e) => g.held = some e.id
  | .statement (.createReward r) => g.held = some r.id
  | .statement (.createPending r) => g.held = some r.id
  | .statement (.transition _ status _) => status.isTerminal ∧ g.owed = none
  | .publish change => ∃ r, g.owed = some r ∧ change = .ofUpdated r .pending
  | _ => True

/-- How things stand after a call. -/
def after (g : Standing) : (c : Call) → c.Answer → Standing
  | .freshId, id => { g with held := some id }
  | .statement (.createEvent _), _ => { g with held := none }
  | .statement (.createReward _), _ => { g with held := none }
  | .statement (.createPending _), _ => { g with held := none }
  | .statement (.transition ..), .ok (some r) => { g with owed := some r }
  | .publish _, _ => { g with owed := none, told := true }
  | _, _ => g

end Standing

/-- The contract of the desk. -/
def conduct : Contract Standing where
  allows := Standing.allows
  leads g c a g' := c.Succeeds a ∧ g' = g.after c a

instance : conduct.Quiet where
  allows_log _ _ := trivial
  leads_log _ _ _ := ⟨And.right, fun h => ⟨trivial, h⟩⟩
  allows_measure _ _ := trivial
  leads_measure _ _ _ := ⟨And.right, fun h => ⟨trivial, h⟩⟩

namespace conduct

variable {g : Standing}

@[simp] theorem obeys_perform (q : Statement) {post : Except DeskError q.Result → Standing → Prop} :
    Program.Obeys (α := no_index (Except DeskError q.Result)) conduct
        (ExceptT.run (α := no_index q.Result) (Desk.perform q)) g post ↔
      g.allows (.statement q) ∧ ∀ r, post (.ok r) (g.after (.statement q) (.ok r)) :=
  Contract.determined.obeys_perform q

@[simp] theorem obeys_freshId {post : Except DeskError String → Standing → Prop} :
    Program.Obeys (α := no_index (Except DeskError String)) conduct
        (ExceptT.run (α := no_index String) (Desk.ask .freshId)) g post ↔
      ∀ id, post (.ok id) { g with held := some id } :=
  Contract.determined.obeys_freshId.trans ⟨And.right, fun h => ⟨trivial, h⟩⟩

@[simp] theorem obeys_clock {post : Except DeskError Instant → Standing → Prop} :
    Program.Obeys (α := no_index (Except DeskError Instant)) conduct
        (ExceptT.run (α := no_index Instant) (Desk.ask .clock)) g post ↔
      ∀ time, post (.ok time) g :=
  Contract.determined.obeys_clock.trans ⟨And.right, fun h => ⟨trivial, h⟩⟩

/-- Only a change that is owed may be published, and it is owed no longer. -/
@[simp] theorem obeys_publish (change : StatusChange) {post : Nat → Standing → Prop} :
    Program.Obeys (α := no_index Nat) conduct (Program.ask (.publish change)) g post ↔
      g.allows (.publish change) ∧ ∀ n, post n { g with owed := none, told := true } :=
  Contract.determined.obeys_publish change

attribute [local simp] Standing.allows Standing.after

/-! ## Looking records up

A look-up changes nothing of how things stand, whatever is found. -/

@[simp] theorem obeys_getEvent (id : String) {post : Except DeskError Event → Standing → Prop} :
    (Events.get id).run.Obeys conduct g post ↔
      post (.error (.eventNotFound id)) g ∧ ∀ e, post (.ok e) g := by
  simp [Events.get, Option.forall]

@[simp] theorem obeys_getReward (id : String) {post : Except DeskError Reward → Standing → Prop} :
    (Rewards.get id).run.Obeys conduct g post ↔
      post (.error (.rewardNotFound id)) g ∧ ∀ r, post (.ok r) g := by
  simp [Rewards.get, Option.forall]

@[simp] theorem obeys_getRequest (id : String) {post : Except DeskError Request → Standing → Prop} :
    (Requests.get id).run.Obeys conduct g post ↔
      post (.error (.requestNotFound id)) g ∧ ∀ r, post (.ok r) g := by
  simp [Requests.get, Option.forall]

/-! ## Work on events, rewards and links

None of this work touches a request, and so nothing is ever owed. -/

/-- Nothing is owed in the end, and who has published has not failed. -/
def Settled (outcome : Except DeskError α) (g : Standing) : Prop :=
  g.owed = none ∧ (g.told → outcome.isOk)

@[simp] theorem settled_start (outcome : Except DeskError α) : Settled outcome {} := ⟨rfl, nofun⟩

theorem obeys_createEvent (p : CreateEvent) : (Events.create p).run.Obeys conduct {} Settled := by
  simp only [Events.create, Desk.obeys_within, Desk.obeys_bind, Desk.obeys_liftM]
  cases Events.checkPeriod p.startDate p.endDate with
  | error error => simp
  | ok _ => simp [Events.ofPayload]

theorem obeys_updateEvent (p : UpdateEvent) : (Events.update p).run.Obeys conduct {} Settled := by
  simp only [Events.update, Desk.obeys_within, Desk.obeys_bind, obeys_getEvent, Desk.obeys_liftM]
  refine ⟨settled_start _, fun e => ?_⟩
  cases Events.checkPeriod (Events.merge p e).startDate (Events.merge p e).endDate with
  | error error => simp
  | ok _ => simp

theorem obeys_listEvents (p : ListEvents) : (Events.list p).run.Obeys conduct {} Settled := by
  simp [Events.list]

theorem obeys_createReward (p : CreateReward) :
    (Rewards.create p).run.Obeys conduct {} Settled := by
  simp only [Rewards.create, Desk.obeys_within, Desk.obeys_bind, Desk.obeys_liftM]
  cases Rewards.accept p with
  | error error => simp
  | ok data => simp

theorem obeys_listRewards (p : ListRewards) : (Rewards.list p).run.Obeys conduct {} Settled := by
  simp [Rewards.list]

theorem obeys_walkRewards (p : WalkRewards) : (Rewards.walk p).run.Obeys conduct {} Settled := by
  simp [Rewards.walk]

theorem obeys_addLink (p : LinkReward) : (Links.add p).run.Obeys conduct {} Settled := by
  simp [Links.add]

theorem obeys_removeLink (p : LinkReward) : (Links.remove p).run.Obeys conduct {} Settled := by
  simp [Links.remove]

theorem obeys_linkedRewards (id : String) : (Links.rewards id).run.Obeys conduct {} Settled := by
  simp [Links.rewards]

/-! ## Work on requests

A review that is carried out owes its publication to the subscribers, and pays at once, before it
ends. -/

theorem obeys_createRequest (p : CreateRequest) :
    (Requests.create p).run.Obeys conduct {} Settled := by
  simp [Requests.create, Request.newPending]

theorem obeys_listRequests (p : ListRequests) :
    (Requests.list p).run.Obeys conduct {} Settled := by
  simp [Requests.list]

theorem obeys_walkRequests (p : WalkRequests) :
    (Requests.walk p).run.Obeys conduct {} Settled := by
  simp [Requests.walk]

/-- A review that was carried out is published. -/
theorem obeys_concludeReview (updated : Request) :
    (Requests.concludeReview updated .pending).run.Obeys conduct { owed := some updated } Settled := by
  have hends : ∀ told, Settled (.ok updated) { owed := none, told } := fun _ => ⟨rfl, fun _ => rfl⟩
  simp only [Requests.concludeReview, Desk.obeys_bind, Desk.obeys_measure, Desk.obeys_lift,
    Requests.obeys_announce, obeys_publish]
  refine ⟨⟨updated, rfl, rfl⟩, fun _ => ?_⟩
  simp [hends]

theorem obeys_reportLost (id : String) (seen status : RequestStatus) :
    (Requests.reportLost id seen status).run.Obeys conduct {} Settled := by
  simp [Requests.reportLost]

theorem obeys_review (id : String) (status : RequestStatus) :
    (Requests.review id status).run.Obeys conduct {} Settled := by
  simp only [Requests.review, Desk.obeys_within, Desk.obeys_bind, obeys_getRequest]
  refine ⟨settled_start _, fun current => ?_⟩
  by_cases hmove : current.status.canMoveTo status
  · obtain ⟨hpending, hterminal⟩ : current.status = .pending ∧ status.isTerminal := by
      simpa [RequestStatus.canMoveTo] using hmove
    simp only [hmove, Bool.not_true, Bool.false_eq_true, if_false, Desk.obeys_bind, obeys_clock,
      obeys_perform]
    refine fun now => ⟨⟨hterminal, rfl⟩, fun found => ?_⟩
    cases found with
    | none => exact obeys_reportLost id current.status status
    | some updated =>
      rw [hpending]
      exact obeys_concludeReview updated
  · simp [hmove]

theorem obeys_reviewByName (p : ReviewRequest) :
    (Requests.reviewByName p).run.Obeys conduct {} Settled := by
  rw [Requests.reviewByName]
  cases RequestStatus.ofName? p.status with
  | none => simp
  | some status => exact obeys_review p.requestId status

/-! ## Errands

A command may refuse its payload before anything else, which is no misconduct. -/

theorem settled_map (f : α → β) (outcome : Except DeskError α) (g : Standing) :
    Settled (outcome.map f) g ↔ Settled outcome g := by
  cases outcome with
  | ok a => exact Iff.rfl
  | error e => exact Iff.rfl

/-- A handler conducts itself if its work does. -/
theorem obeys_handler {name : String} {payload : Payload α} {work : α → Desk β} {write : β → Json}
    {j : Json} (hwork : ∀ a, (work a).run.Obeys conduct {} Settled) :
    ((Handler.of name payload work write).handle j).run.Obeys conduct {} Settled := by
  refine Handler.obeys_of (fun _ => settled_start _) fun a _ => ?_
  simpa only [settled_map] using hwork a

theorem obeys_command (h : Handler) (hmem : h ∈ Command.all) (payload : Json) :
    (h.handle payload).run.Obeys conduct {} Settled := by
  simp only [Command.all, Command.onEvents, Command.onRewards, Command.onLinks, Command.onRequests,
    List.mem_append, List.mem_cons, List.not_mem_nil, or_false] at hmem
  rcases hmem with (((rfl | rfl | rfl | rfl) | rfl | rfl | rfl | rfl) | rfl | rfl | rfl) |
    rfl | rfl | rfl | rfl | rfl
  · exact obeys_handler obeys_createEvent
  · exact obeys_handler fun p => by simp
  · exact obeys_handler obeys_updateEvent
  · exact obeys_handler obeys_listEvents
  · exact obeys_handler obeys_createReward
  · exact obeys_handler obeys_listRewards
  · exact obeys_handler obeys_walkRewards
  · exact obeys_handler fun p => by simp
  · exact obeys_handler obeys_addLink
  · exact obeys_handler obeys_removeLink
  · exact obeys_handler fun p => obeys_linkedRewards p.eventId
  · exact obeys_handler obeys_createRequest
  · exact obeys_handler fun p => by simp
  · exact obeys_handler obeys_listRequests
  · exact obeys_handler obeys_walkRequests
  · exact obeys_handler obeys_reviewByName

end conduct

/-- Every errand conducts itself. -/
theorem Errand.obeys_conduct (e : Errand) : e.program.Obeys conduct {} conduct.Settled := by
  cases e with
  | command name payload =>
    exact Router.obeys_dispatch name payload (fun h hmem _ => conduct.obeys_command h hmem payload)
      (conduct.settled_start _)
  | review id status =>
    rw [program, ExceptT.run_map, Program.obeys_map]
    simpa only [conduct.settled_map] using conduct.obeys_review id status

end RewardDesk
