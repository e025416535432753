import RewardDesk.Proofs.Records.Deeds

/-!
# Dockets

What every errand does to the records, whatever the others do. It does one deed at most: a record is
created under the id that was drawn for it, an event is written back over the one that was read, and
a request is moved to a terminal status. An errand that fails has done nothing and told nobody; one
that succeeds has done what its command is there for (`Command.Did`).

`Router.obeys_duty` says this of all commands, `Errand.obeys_duty` of all errands.
-/

namespace RewardDesk

/-! ## The docket

The docket is kept by the answers that an errand gets, and says nothing of the store. An event may
be written back over the one that was looked up last, and a reward is answered as it was found, so
it keeps these two as well. -/

/-- How things stand for an errand. -/
structure Docket where
  /-- The id that was drawn for the next record. -/
  held : Option String := none
  /-- The event that was looked up last, if it was found. -/
  seen : Option Event := none
  /-- The reward that was looked up last: its id, and what was found. -/
  sought : Option (String × Option Reward) := none
  /-- What the errand has done. -/
  deed : Option Deed := none
  /-- What it has published, in order. -/
  told : List StatusChange := []

namespace Docket

/-- The calls that are in order as things stand. -/
def allows (g : Docket) : Call → Prop
  | .statement (.createEvent e) => g.deed = none ∧ g.held = some e.id
  | .statement (.updateEvent e) => g.deed = none ∧
      ∃ old, g.seen = some old ∧ old.id = e.id ∧ old.createdAt = e.createdAt
  | .statement (.createReward r) => g.deed = none ∧ g.held = some r.id
  | .statement (.addLink _) => g.deed = none
  | .statement (.removeLink ..) => g.deed = none
  | .statement (.createPending r) => g.deed = none ∧ g.held = some r.id ∧ r.status = .pending
  | .statement (.transition _ status _) => g.deed = none ∧ status.isTerminal
  | _ => True

/-- How things stand after a call. -/
def after (g : Docket) : (c : Call) → c.Answer → Docket
  | .freshId, id => { g with held := some id }
  | .publish change, _ => { g with told := g.told ++ [change] }
  | .statement (.getEvent _), .ok found => { g with seen := found }
  | .statement (.getReward id), .ok found => { g with sought := some (id, found) }
  | .statement q, .ok result => { g with deed := (q.deed result).or g.deed }
  | _, _ => g

/-- An errand ends as is said of its result and its docket. Who fails has done nothing. -/
def Ends (did : α → Option Deed → List StatusChange → Prop) : Except DeskError α → Docket → Prop
  | .ok a, g => did a g.deed g.told
  | .error _, g => g.deed = none ∧ g.told = []

/-- The answer to somebody who asks for a reward is what was found. -/
def Answers (id : String) (outcome : Except DeskError Json) (g : Docket) : Prop :=
  ∃ found, g.sought = some (id, found) ∧
    outcome = found.elim (.error (.rewardNotFound id)) fun r => .ok (Reward.codec.encode r)

end Docket

/-- The contract of errands that keep a docket. -/
abbrev duty : Contract Docket := .determined Docket.allows Docket.after

instance : duty.Quiet where
  allows_log _ _ := trivial
  leads_log _ _ _ := ⟨And.right, fun h => ⟨trivial, h⟩⟩
  allows_measure _ _ := trivial
  leads_measure _ _ _ := ⟨And.right, fun h => ⟨trivial, h⟩⟩

namespace duty

open Docket (Ends)

variable {g : Docket} {did : α → Option Deed → List StatusChange → Prop}

@[simp] theorem ends_ok (a : α) : Ends did (.ok a) g ↔ did a g.deed g.told := Iff.rfl

@[simp] theorem ends_error (error : DeskError) :
    Ends did (.error error) g ↔ g.deed = none ∧ g.told = [] := Iff.rfl

@[simp] theorem ends_map {β : Type} {did : β → Option Deed → List StatusChange → Prop} (f : α → β)
    (outcome : Except DeskError α) :
    Ends did (outcome.map f) g ↔ Ends (fun a => did (f a)) outcome g := by
  cases outcome with
  | ok a => exact Iff.rfl
  | error e => exact Iff.rfl

attribute [local simp] Docket.allows Docket.after Statement.deed

/-! ## Work on events, rewards and links

Each piece of work is followed through its program once. What it has to end with is one deed at
most, and the answer that belongs to this deed. -/

/-- The end of an errand that only looks at things. -/
def Idle (_ : α) (deed : Option Deed) (told : List StatusChange) : Prop := deed = none ∧ told = []

theorem obeys_createEvent (p : CreateEvent) : (Events.create p).run.Obeys duty {}
    (Ends fun e deed told => deed = some (.eventCreated e) ∧ told = []) := by
  simp only [Events.create, Desk.obeys_within, Desk.obeys_bind, Desk.obeys_liftM]
  cases Events.checkPeriod p.startDate p.endDate with
  | error error => simp
  | ok _ => simp [Events.ofPayload]

theorem obeys_updateEvent (p : UpdateEvent) : (Events.update p).run.Obeys duty {}
    (Ends fun e deed told => deed = some (.eventReplaced e) ∧ told = []) := by
  simp only [Events.update, Desk.obeys_within, Desk.obeys_bind, Desk.obeys_liftM,
    Contract.determined.obeys_getEvent]
  refine ⟨trivial, ⟨rfl, rfl⟩, fun e => ?_⟩
  cases Events.checkPeriod (Events.merge p e).startDate (Events.merge p e).endDate with
  | error error => simp
  | ok _ => simp [Events.merge]

theorem obeys_listEvents (p : ListEvents) : (Events.list p).run.Obeys duty {} (Ends Idle) := by
  simp [Events.list, Idle]

theorem obeys_createReward (p : CreateReward) : (Rewards.create p).run.Obeys duty {}
    (Ends fun r deed told => deed = some (.rewardCreated r) ∧ told = []) := by
  simp only [Rewards.create, Desk.obeys_within, Desk.obeys_bind, Desk.obeys_liftM]
  cases Rewards.accept p with
  | error error => simp
  | ok data => simp

theorem obeys_listRewards (p : ListRewards) : (Rewards.list p).run.Obeys duty {} (Ends Idle) := by
  simp [Rewards.list, Idle]

theorem obeys_walkRewards (p : WalkRewards) : (Rewards.walk p).run.Obeys duty {} (Ends Idle) := by
  simp [Rewards.walk, Idle]

theorem obeys_addLink (p : LinkReward) : (Links.add p).run.Obeys duty {}
    (Ends fun _ deed told =>
      (∃ time, deed = some (.linkAdded ⟨p.eventId, p.rewardId, time⟩)) ∧ told = []) := by
  simp [Links.add]

theorem obeys_removeLink (p : LinkReward) : (Links.remove p).run.Obeys duty {}
    (Ends fun _ deed told => deed = some (.linkRemoved p.eventId p.rewardId) ∧ told = []) := by
  simp [Links.remove]

theorem obeys_linkedRewards (id : String) :
    (Links.rewards id).run.Obeys duty {} (Ends Idle) := by
  simp [Links.rewards, Idle]

/-! ## Work on requests

A review does its deed and then publishes it. Who loses a race does neither, and reports what has
become of the request. -/

theorem obeys_createRequest (p : CreateRequest) : (Requests.create p).run.Obeys duty {}
    (Ends fun r deed told => deed = some (.requestCreated r) ∧ told = []) := by
  simp [Requests.create, Request.newPending]

theorem obeys_listRequests (p : ListRequests) :
    (Requests.list p).run.Obeys duty {} (Ends Idle) := by
  simp [Requests.list, Idle]

theorem obeys_walkRequests (p : WalkRequests) :
    (Requests.walk p).run.Obeys duty {} (Ends Idle) := by
  simp [Requests.walk, Idle]

/-- The end of an errand that has moved a request and told so. -/
def Reviewed (r : Request) (deed : Option Deed) (told : List StatusChange) : Prop :=
  deed = some (.requestReviewed r) ∧ told = [.ofUpdated r .pending]

theorem obeys_concludeReview (updated : Request) :
    (Requests.concludeReview updated .pending).run.Obeys duty
      { deed := some (.requestReviewed updated) } (Ends Reviewed) := by
  simp only [Requests.concludeReview, Desk.obeys_bind, Desk.obeys_measure, Desk.obeys_lift,
    Requests.obeys_announce, Contract.determined.obeys_publish]
  refine ⟨trivial, fun _ => ?_⟩
  simp [Reviewed]

theorem obeys_reportLost (id : String) (seen status : RequestStatus) :
    (Requests.reportLost id seen status).run.Obeys duty {} (Ends Reviewed) := by
  simp [Requests.reportLost]

theorem obeys_review (id : String) (status : RequestStatus) :
    (Requests.review id status).run.Obeys duty {} (Ends Reviewed) := by
  simp only [Requests.review, Desk.obeys_within, Desk.obeys_bind,
    Contract.determined.obeys_getRequest]
  refine ⟨trivial, ⟨rfl, rfl⟩, fun current => ?_⟩
  by_cases hmove : current.status.canMoveTo status
  · obtain ⟨hpending, hterminal⟩ : current.status = .pending ∧ status.isTerminal := by
      simpa [RequestStatus.canMoveTo] using hmove
    simp only [hmove, Bool.not_true, Bool.false_eq_true, if_false, Desk.obeys_bind,
      Contract.determined.obeys_clock, Contract.determined.obeys_perform]
    refine ⟨trivial, fun now => ⟨⟨rfl, hterminal⟩, fun found => ?_⟩⟩
    -- Nothing was done before the move, and whoever loses it has still done nothing.
    cases found with
    | none => exact obeys_reportLost id current.status status
    | some updated =>
      rw [hpending]
      exact obeys_concludeReview updated
  · simp [hmove]

theorem obeys_reviewByName (p : ReviewRequest) :
    (Requests.reviewByName p).run.Obeys duty {} (Ends Reviewed) := by
  rw [Requests.reviewByName]
  cases RequestStatus.ofName? p.status with
  | none => simp
  | some status => exact obeys_review p.requestId status

end duty

/-! ## Commands

`Command.Did` lists the commands that do something, each with its deed. All others only look things
up, which can be told from their names. -/

/-- Does the name say that the command only looks things up? -/
def Command.Reads (name : String) : Prop := "get_".toList <+: name.toList

instance (name : String) : Decidable (Command.Reads name) :=
  inferInstanceAs (Decidable (_ <+: _))

/-- What a command has done and published when it has succeeded. What is created, replaced or
reviewed is what the answer says. -/
inductive Command.Did (payload : Json) :
    (name : String) → (answer : Json) → Option Deed → List StatusChange → Prop
  | createEvent (e : Event) :
      Did payload "create_event" (Event.codec.encode e) (some (.eventCreated e)) []
  | updateEvent (e : Event) :
      Did payload "update_event" (Event.codec.encode e) (some (.eventReplaced e)) []
  | createReward (r : Reward) :
      Did payload "create_reward" (Reward.codec.encode r) (some (.rewardCreated r)) []
  | addLink {p : LinkReward} (time : Instant) : LinkReward.payload.read payload = .ok p →
      Did payload "add_reward_to_event" .null (some (.linkAdded ⟨p.eventId, p.rewardId, time⟩)) []
  | removeLink {p : LinkReward} : LinkReward.payload.read payload = .ok p →
      Did payload "remove_reward_from_event" .null (some (.linkRemoved p.eventId p.rewardId)) []
  | createRequest (r : Request) :
      Did payload "create_reward_request" (Request.codec.encode r) (some (.requestCreated r)) []
  | review (r : Request) :
      Did payload "update_reward_request_status" (Request.codec.encode r)
        (some (.requestReviewed r)) [.ofUpdated r .pending]
  | read {name : String} (answer : Json) : Command.Reads name → Did payload name answer none []

namespace Command.Did

variable {payload answer : Json} {name : String} {deed : Option Deed} {told : List StatusChange}

/-- A command that only looks things up has done nothing. -/
theorem of_reads (h : Did payload name answer deed told) (hreads : Reads name) :
    deed = none ∧ told = [] := by
  cases h with
  | read _ _ => exact ⟨rfl, rfl⟩
  | _ => exact absurd hreads (by decide)

theorem reward (h : Did payload name answer deed told) (hname : name = "create_reward") :
    ∃ r, answer = Reward.codec.encode r ∧ deed = some (.rewardCreated r) := by
  cases h with
  | createReward r => exact ⟨r, rfl, rfl⟩
  | read _ hreads =>
    subst hname
    exact absurd hreads (by decide)
  | _ => exact absurd hname (by decide)

end Command.Did

namespace duty

open Docket (Ends)

attribute [local simp] Docket.allows Docket.after Statement.deed

/-- A handler does what its work does. -/
theorem obeys_handler {name : String} {payload : Payload α} {work : α → Desk β} {write : β → Json}
    {j : Json} {did : α → β → Option Deed → List StatusChange → Prop}
    (hwork : ∀ a, (work a).run.Obeys duty {} (Ends (did a)))
    (hdid : ∀ {a b deed told}, payload.read j = .ok a → did a b deed told →
      Command.Did j name (write b) deed told) :
    ((Handler.of name payload work write).handle j).run.Obeys duty {}
      (Ends (Command.Did j name)) := by
  refine Handler.obeys_of (fun _ => ⟨rfl, rfl⟩) fun a hread => (hwork a).mono fun outcome g h => ?_
  rw [ends_map]
  cases outcome with
  | ok b => exact hdid hread h
  | error e => exact h

/-- A handler that only looks things up does nothing. -/
theorem obeys_reader {name : String} {payload : Payload α} {work : α → Desk β} {write : β → Json}
    {j : Json} (hname : Command.Reads name)
    (hwork : ∀ a, (work a).run.Obeys duty {} (Ends Idle)) :
    ((Handler.of name payload work write).handle j).run.Obeys duty {}
      (Ends (Command.Did j name)) := by
  refine obeys_handler hwork fun _ hidle => ?_
  obtain ⟨rfl, rfl⟩ := hidle
  exact .read _ hname

theorem obeys_command (h : Handler) (hmem : h ∈ Command.all) (payload : Json) :
    (h.handle payload).run.Obeys duty {} (Ends (Command.Did payload h.name)) := by
  simp only [Command.all, Command.onEvents, Command.onRewards, Command.onLinks, Command.onRequests,
    List.mem_append, List.mem_cons, List.not_mem_nil, or_false] at hmem
  rcases hmem with (((rfl | rfl | rfl | rfl) | rfl | rfl | rfl | rfl) | rfl | rfl | rfl) |
    rfl | rfl | rfl | rfl | rfl
  · refine obeys_handler obeys_createEvent ?_
    rintro _ e _ _ - ⟨rfl, rfl⟩
    exact .createEvent e
  · exact obeys_reader (by decide) fun p => by simp [Idle]
  · refine obeys_handler obeys_updateEvent ?_
    rintro _ e _ _ - ⟨rfl, rfl⟩
    exact .updateEvent e
  · exact obeys_reader (by decide) obeys_listEvents
  · refine obeys_handler obeys_createReward ?_
    rintro _ r _ _ - ⟨rfl, rfl⟩
    exact .createReward r
  · exact obeys_reader (by decide) obeys_listRewards
  · exact obeys_reader (by decide) obeys_walkRewards
  · exact obeys_reader (by decide) fun p => by simp [Idle]
  · refine obeys_handler obeys_addLink ?_
    rintro _ _ _ _ hread ⟨⟨time, rfl⟩, rfl⟩
    exact .addLink time hread
  · refine obeys_handler obeys_removeLink ?_
    rintro _ _ _ _ hread ⟨rfl, rfl⟩
    exact .removeLink hread
  · exact obeys_reader (by decide) fun p => obeys_linkedRewards p.eventId
  · refine obeys_handler obeys_createRequest ?_
    rintro _ r _ _ - ⟨rfl, rfl⟩
    exact .createRequest r
  · exact obeys_reader (by decide) fun p => by simp [Idle]
  · exact obeys_reader (by decide) obeys_listRequests
  · exact obeys_reader (by decide) obeys_walkRequests
  · refine obeys_handler obeys_reviewByName ?_
    rintro _ r _ _ - ⟨rfl, rfl⟩
    exact .review r

end duty

/-- A command that fails does nothing, and one that succeeds does what it is there for. -/
theorem Router.obeys_duty (name : String) (payload : Json) :
    (Router.standard.dispatch name payload).Obeys duty {}
      (Docket.Ends (Command.Did payload name)) := by
  refine Router.obeys_dispatch name payload (fun h hmem hname => ?_) ⟨rfl, rfl⟩
  rw [← hname]
  exact duty.obeys_command h hmem payload

/-- A reward is answered as it was found. -/
theorem Router.obeys_rewardLookup {payload : Json} {p : ById}
    (hread : ById.payload.read payload = .ok p) :
    (Router.standard.dispatch "get_reward_by_id" payload).Obeys duty {} (Docket.Answers p.id) := by
  have hget : Router.standard.get? "get_reward_by_id" = some (.of "get_reward_by_id" ById.payload
      (fun p => Rewards.get p.id) Reward.codec.encode) := rfl
  refine (obeys_dispatch_of_get? hget).2 ?_
  simp only [Handler.of, hread]
  refine (Program.obeys_bind _ _).2 
    ((Contract.determined.obeys_getReward p.id).2 ⟨trivial, ?_, fun r => ?_⟩)
  · exact ⟨none, rfl, rfl⟩
  · exact ⟨some r, rfl, rfl⟩

/-- What an errand has done and published when it has succeeded. -/
def Errand.Did : Errand → (answer : Json) → Option Deed → List StatusChange → Prop
  | .command name payload => Command.Did payload name
  | .review .. => fun answer deed told =>
    ∃ r, answer = Request.codec.encode r ∧ duty.Reviewed r deed told

/-- Every errand keeps its docket. -/
theorem Errand.obeys_duty (e : Errand) : e.program.Obeys duty {} (Docket.Ends e.Did) := by
  cases e with
  | command name payload => exact Router.obeys_duty name payload
  | review id status =>
    rw [program, ExceptT.run_map, Program.obeys_map]
    refine (duty.obeys_review id status).mono fun outcome g h => ?_
    cases outcome with
    | ok r => exact ⟨r, rfl, h⟩
    | error e => exact h

end RewardDesk
