import RewardDesk.Proofs.Records.Docket

/-!
# Receipts

What errands count. A `Receipt` notes what an errand has done to the records and what it has
counted, and when the errand has ended the two agree: nothing is counted but its deed, and a command
of the router counts itself besides (`Errand.obeys_bookkeeping`). Whether the deed came about, and
in what store, is not said here; that is what dockets are for.
-/

namespace RewardDesk

/-! ## Measures and receipts -/

/-- The measure of a review. -/
def Request.reviewMeasure (r : Request) : Measure :=
  .transition RequestStatus.pending.name r.status.name

/-- What is counted when it is done. -/
def Deed.measures : Deed → List Measure
  | .rewardCreated r => [.rewardCreated r.type.name]
  | .requestCreated _ => [.requestCreated]
  | .requestReviewed r => [r.reviewMeasure]
  | _ => []

/-- How things stand for an errand. -/
structure Receipt where
  /-- What the errand has done. -/
  deed : Option Deed := none
  /-- What it has counted, in order. -/
  counted : List Measure := []

namespace Receipt

/-- How things stand after a call. -/
def after (r : Receipt) : (c : Call) → c.Answer → Receipt
  | .statement q, .ok result => { r with deed := (q.deed result).or r.deed }
  | .measure m, _ => { r with counted := r.counted ++ [m] }
  | _, _ => r

/-- Nothing is counted but what was done. -/
def Settled (r : Receipt) : Prop := r.counted = r.deed.elim [] Deed.measures

end Receipt

/-- The contract of errands that keep a receipt. They may do as they like. -/
abbrev bookkeeping : Contract Receipt := .determined (fun _ _ => True) Receipt.after

instance : bookkeeping.LogsFreely where
  allows_log _ _ := trivial
  leads_log _ _ _ := ⟨And.right, fun h => ⟨trivial, h⟩⟩

namespace bookkeeping

open Receipt (Settled)

variable {α β : Type} {r : Receipt}

@[simp] theorem obeys_measure (m : Measure) {post : Except DeskError Unit → Receipt → Prop} :
    Program.Obeys (α := no_index (Except DeskError Unit)) bookkeeping
        (ExceptT.run (α := no_index Unit) (Desk.ask (.measure m))) r post ↔
      post (.ok ()) { r with counted := r.counted ++ [m] } := by
  rw [Desk.obeys_ask]
  refine ⟨fun h => h.2 () _ ⟨trivial, rfl⟩, fun h => ⟨trivial, ?_⟩⟩
  rintro _ r' ⟨-, rfl⟩
  exact h

attribute [local simp] Receipt.after Statement.deed Settled Deed.measures Request.reviewMeasure

/-! ## Work

Each piece of work counts right behind its deed. Whoever fails before that has counted nothing and
done nothing. -/

theorem obeys_createEvent (p : CreateEvent) :
    (Events.create p).run.Obeys bookkeeping {} fun _ => Settled := by
  simp only [Events.create, Desk.obeys_within, Desk.obeys_bind, Desk.obeys_liftM]
  cases Events.checkPeriod p.startDate p.endDate with
  | error error => simp
  | ok _ => simp

theorem obeys_updateEvent (p : UpdateEvent) :
    (Events.update p).run.Obeys bookkeeping {} fun _ => Settled := by
  simp only [Events.update, Desk.obeys_within, Desk.obeys_bind, Desk.obeys_liftM,
    Contract.determined.obeys_getEvent]
  refine ⟨trivial, rfl, fun e => ?_⟩
  cases Events.checkPeriod (Events.merge p e).startDate (Events.merge p e).endDate with
  | error error => simp
  | ok _ => simp

theorem obeys_createReward (p : CreateReward) :
    (Rewards.create p).run.Obeys bookkeeping {} fun _ => Settled := by
  simp only [Rewards.create, Desk.obeys_within, Desk.obeys_bind, Desk.obeys_liftM]
  cases Rewards.accept p with
  | error error => simp
  | ok data => simp

theorem obeys_createRequest (p : CreateRequest) :
    (Requests.create p).run.Obeys bookkeeping {} fun _ => Settled := by
  simp [Requests.create]

/-- Only a pending request can be moved, so a review is counted as one that ends a wait. -/
theorem obeys_review (id : String) (status : RequestStatus) :
    (Requests.review id status).run.Obeys bookkeeping {} fun _ => Settled := by
  simp only [Requests.review, Desk.obeys_within, Desk.obeys_bind,
    Contract.determined.obeys_getRequest]
  refine ⟨trivial, rfl, fun current => ?_⟩
  by_cases hmove : current.status.canMoveTo status
  · obtain ⟨hpending, -⟩ : current.status = .pending ∧ status.isTerminal := by
      simpa [RequestStatus.canMoveTo] using hmove
    simp only [hmove, Bool.not_true, Bool.false_eq_true, if_false, Desk.obeys_bind,
      Contract.determined.obeys_clock, Contract.determined.obeys_perform]
    refine ⟨trivial, fun now => ⟨trivial, fun found => ?_⟩⟩
    cases found with
    | none => simp [Requests.reportLost]
    | some updated => simp [Requests.concludeReview, Requests.obeys_announce, hpending]
  · simp [hmove]

theorem obeys_reviewByName (p : ReviewRequest) :
    (Requests.reviewByName p).run.Obeys bookkeeping {} fun _ => Settled := by
  rw [Requests.reviewByName]
  cases RequestStatus.ofName? p.status with
  | none => simp
  | some status => exact obeys_review p.requestId status

/-! ## Commands

A command is counted by its name and how it ended, after all its work. -/

/-- A handler that refuses its payload has done nothing, so it is enough that its work settles. -/
theorem obeys_handler {name : String} {payload : Payload α} {work : α → Desk β} {write : β → Json}
    {j : Json} (hwork : ∀ a, (work a).run.Obeys bookkeeping {} fun _ => Settled) :
    ((Handler.of name payload work write).handle j).run.Obeys bookkeeping {} fun _ => Settled :=
  Handler.obeys_of (fun _ => rfl) fun a _ => hwork a

theorem obeys_command (h : Handler) (hmem : h ∈ Command.all) (payload : Json) :
    (h.handle payload).run.Obeys bookkeeping {} fun _ => Settled := by
  simp only [Command.all, Command.onEvents, Command.onRewards, Command.onLinks, Command.onRequests,
    List.mem_append, List.mem_cons, List.not_mem_nil, or_false] at hmem
  rcases hmem with (((rfl | rfl | rfl | rfl) | rfl | rfl | rfl | rfl) | rfl | rfl | rfl) |
    rfl | rfl | rfl | rfl | rfl
  · exact obeys_handler obeys_createEvent
  · exact obeys_handler fun p => by simp
  · exact obeys_handler obeys_updateEvent
  · exact obeys_handler fun p => by simp [Events.list]
  · exact obeys_handler obeys_createReward
  · exact obeys_handler fun p => by simp [Rewards.list]
  · exact obeys_handler fun p => by simp [Rewards.walk]
  · exact obeys_handler fun p => by simp
  · exact obeys_handler fun p => by simp [Links.add]
  · exact obeys_handler fun p => by simp [Links.remove]
  · exact obeys_handler fun p => by simp [Links.rewards]
  · exact obeys_handler obeys_createRequest
  · exact obeys_handler fun p => by simp
  · exact obeys_handler fun p => by simp [Requests.list]
  · exact obeys_handler fun p => by simp [Requests.walk]
  · exact obeys_handler obeys_reviewByName

end bookkeeping

/-- What an errand counts besides its deed: a command of the router counts how it ended. -/
def Errand.measured? : Errand → Except DeskError Json → Option Measure
  | .command name _, outcome =>
    if (Router.standard.get? name).isSome then some (.command name (Router.statusOf outcome)) else none
  | .review .., _ => none

/-- Every errand counts its deed and then, if it is a command, itself. -/
theorem Errand.obeys_bookkeeping (e : Errand) :
    e.program.Obeys bookkeeping {} fun outcome r =>
      r.counted = r.deed.elim [] Deed.measures ++ (e.measured? outcome).toList := by
  cases e with
  | command name payload =>
    cases hget : Router.standard.get? name with
    | none =>
      refine (Router.obeys_dispatch_unknown hget).2 ?_
      simp [measured?, hget]
    | some h =>
      obtain ⟨hmem, -⟩ := Router.mem_of_standard_get? hget
      refine (Router.obeys_dispatch_known hget).2 ?_
      refine (bookkeeping.obeys_command h hmem payload).mono fun outcome r hsettled => ?_
      refine ⟨trivial, ?_⟩
      rintro _ _ ⟨-, rfl⟩
      have hcounted : r.counted = r.deed.elim [] Deed.measures := hsettled
      simp [Receipt.after, measured?, hget, hcounted]
  | review id status =>
    rw [program, ExceptT.run_map, Program.obeys_map]
    refine (bookkeeping.obeys_review id status).mono fun outcome r hsettled => ?_
    rw [measured?, Option.toList_none, List.append_nil]
    exact hsettled

end RewardDesk
