import RewardDesk.Desk.Requests
import RewardDesk.Proofs.Interleaving.Contract
import RewardDesk.Store.Basic

/-!
# The request workflow, call by call

The calls by which requests come into being, are looked up and are reviewed. Each of them makes
several calls to the storage, yet has one moment at which it takes effect:

    create_event     the event is stored
    create_request   the event is not found, or the request is entered or refused
    get_request      the request is looked up
    review           the request is not found or cannot be moved, or the move succeeds or fails

A review that fails to move the request reads it once more to report the status; the contract
`workflow` promises it the one that stood when the move failed. `Job.serve` is the effect of a call
that is served at one moment, and `Workflow.obeys_program` says that each call has such a moment.
-/

namespace RewardDesk

/-- A call of the request workflow. -/
inductive Workflow where
  | createEvent (p : CreateEvent)
  | createRequest (p : CreateRequest)
  | getRequest (id : String)
  | review (id : String) (status : RequestStatus)
  | reviewByName (p : ReviewRequest)

/-- What comes of a call of the workflow. -/
abbrev Outcome : Type := Except DeskError (Event ⊕ Request)

/-- The program of a call. -/
def Workflow.program : Workflow → Program Outcome
  | .createEvent p => (Sum.inl <$> Events.create p).run
  | .createRequest p => (Sum.inr <$> Requests.create p).run
  | .getRequest id => (Sum.inr <$> Requests.get id).run
  | .review id status => (Sum.inr <$> Requests.review id status).run
  | .reviewByName p => (Sum.inr <$> Requests.reviewByName p).run

/-! ## Calls served at one moment

The sequential account of a call: the store that it finds decides everything. -/

/-- What there is to do for a call. -/
inductive Job where
  /-- There is nothing to do but to refuse. -/
  | refuse (error : DeskError)
  | createEvent (p : CreateEvent)
  | apply (p : CreateRequest)
  /-- Everything follows from what is found under an id. -/
  | inspect (id : String) (verdict : Option Request → Outcome)
  | review (id : String) (status : RequestStatus)

/-- The outcome of a look at a request. -/
def Job.ifFound (id : String) (verdict : Request → Outcome) (found : Option Request) :
    Outcome :=
  found.elim (.error (.requestNotFound id)) verdict

/-- What there is to do for a call. -/
def Workflow.job : Workflow → Job
  | .createEvent p =>
    match Events.checkPeriod p.startDate p.endDate with
    | .error error => .refuse error
    | .ok _ => .createEvent p
  | .createRequest p => .apply p
  | .getRequest id => .inspect id (Job.ifFound id fun r => .ok (.inr r))
  | .review id status => .review id status
  | .reviewByName p =>
    match RequestStatus.ofName? p.status with
    | some status => .review p.requestId status
    | none => .inspect p.requestId
        (Job.ifFound p.requestId fun r => .error (.invalidTransition p.requestId r.status p.status))

/-- Serve a job at one moment, with the id and the time that it is given. -/
def Job.serve (id : String) (time : Instant) : Job → Store → Outcome × Store
  | .refuse error, s => (.error error, s)
  | .createEvent p, s =>
    let e := Events.ofPayload p id time
    (.ok (.inl e), (s.execute (.createEvent e)).2)
  | .apply p, s =>
    match s.events.get? p.eventId with
    | none => (.error (.eventNotFound p.eventId), s)
    | some _ =>
      let r := Request.newPending id p.userId p.eventId time
      let (created, s) := s.execute (.createPending r)
      (if created then .ok (.inr r) else .error (.duplicateRequest p.userId p.eventId), s)
  | .inspect id verdict, s => (verdict (s.requests.requests.get? id), s)
  | .review id status, s =>
    match s.requests.requests.get? id with
    | none => (.error (.requestNotFound id), s)
    | some r =>
      if r.status.canMoveTo status then
        (.ok (.inr { r with status, updatedAt := time }), (s.execute (.transition id status time)).2)
      else (.error (.invalidTransition id r.status status.name), s)

/-! ## Calls served step by step

The account of the same call as a program. A stage says what the call has drawn and found so far,
and from which moment on its outcome is certain. -/

/-- How far a call has come. -/
inductive Stage where
  /-- It has not taken effect. The id and the time are those it has drawn, and `seen` says whether
  it has found the record that it depends on. -/
  | open (job : Job) (id : Option String) (time : Option Instant) (seen : Bool)
  /-- Its move failed while the request had the status `current`, which is still to be reported. -/
  | lost (id : String) (current status : RequestStatus)
  /-- It has taken effect and will end like this. -/
  | settled (outcome : Outcome)

namespace Stage

/-- What comes of a call, as soon as that is certain. -/
def outcome? : Stage → Option Outcome
  | .open .. => none
  | .lost id current status => some (.error (.invalidTransition id current status.name))
  | .settled outcome => some outcome

/-- After an applicant has looked for the event. -/
def afterLookup (p : CreateRequest) (id : Option String) (time : Option Instant) :
    Option Event → Stage
  | none => .settled (.error (.eventNotFound p.eventId))
  | some _ => .open (.apply p) id time true

/-- After a request was entered or refused. -/
def afterEntry (p : CreateRequest) (r : Request) : Bool → Stage
  | true => .settled (.ok (.inr r))
  | false => .settled (.error (.duplicateRequest p.userId p.eventId))

/-- After a reviewer has looked at the request. -/
def afterLook (id : String) (status : RequestStatus) (x : Option String) (time : Option Instant) :
    Option Request → Stage
  | none => .settled (.error (.requestNotFound id))
  | some r =>
    if r.status.canMoveTo status then .open (.review id status) x time true
    else .settled (.error (.invalidTransition id r.status status.name))

/-- After a reviewer has tried to move the request, which else has the status `current`. -/
def afterMove (id : String) (current status : RequestStatus) : Option Request → Stage
  | none => .lost id current status
  | some updated => .settled (.ok (.inr updated))

/-- What calls can be made at a stage, and where the answers lead. -/
inductive Leads : Stage → (c : Call) → c.Answer → Stage → Prop
  | log (g entry) : Leads g (.log entry) () g
  | measure (g m) : Leads g (.measure m) () g
  | publish (outcome change n) : Leads (.settled outcome) (.publish change) n (.settled outcome)
  | freshId (job time seen id) :
      Leads (.open job none time seen) .freshId id (.open job (some id) time seen)
  | clock (job id seen time) :
      Leads (.open job id none seen) .clock time (.open job id (some time) seen)
  | createEvent (p id time seen) :
      Leads (.open (.createEvent p) (some id) (some time) seen)
        (.statement (.createEvent (Events.ofPayload p id time))) (.ok ())
        (.settled (.ok (.inl (Events.ofPayload p id time))))
  | lookup (p id time) (found : Option Event) :
      Leads (.open (.apply p) id time false) (.statement (.getEvent p.eventId)) (.ok found)
        (afterLookup p id time found)
  | enter (p id time) (created : Bool) :
      Leads (.open (.apply p) (some id) (some time) true)
        (.statement (.createPending (.newPending id p.userId p.eventId time))) (.ok created)
        (afterEntry p (.newPending id p.userId p.eventId time) created)
  | inspect (id verdict x time seen) (found : Option Request) :
      Leads (.open (.inspect id verdict) x time seen) (.statement (.getRequest id)) (.ok found)
        (.settled (verdict found))
  | look (id status x time) (found : Option Request) :
      Leads (.open (.review id status) x time false) (.statement (.getRequest id)) (.ok found)
        (afterLook id status x time found)
  | move (id status x time current) (updated : Option Request) :
      Leads (.open (.review id status) x (some time) true)
        (.statement (.transition id status time)) (.ok updated) (afterMove id current status updated)
  | lookAgain (id current status) (r : Request) : r.status = current →
      Leads (.lost id current status) (.statement (.getRequest id)) (.ok (some r))
        (.settled (.error (.invalidTransition id current status.name)))

end Stage

/-- The contract of calls that have something to do. -/
def workflow : Contract Stage where
  allows g c := ∃ a g', g.Leads c a g'
  leads := Stage.Leads

/-- The contract of calls that refuse at once. -/
def refusal (error : DeskError) : Contract Stage where
  allows _ c := ∃ entry, c = .log entry
  leads _ _ _ g' := g' = .settled (.error error)

/-- The contract of a call. -/
def Job.contract : Job → Contract Stage
  | .refuse error => refusal error
  | _ => workflow

/-- The stage at which a call begins. -/
def Job.start (job : Job) : Stage := .open job none none false

namespace workflow

open Stage (Leads)

instance : workflow.Quiet where
  allows_log g entry := ⟨(), g, .log g entry⟩
  leads_log g entry g' := by
    constructor
    · intro h
      cases h
      rfl
    · rintro rfl
      exact .log g' entry
  allows_measure g m := ⟨(), g, .measure g m⟩
  leads_measure g m g' := by
    constructor
    · intro h
      cases h
      rfl
    · rintro rfl
      exact .measure g' m

/-- The end of a call. -/
def Settled (outcome : Outcome) (g : Stage) : Prop := g = .settled outcome

/-- An event is stored at once, and nothing can go wrong then. -/
theorem obeys_createEvent (p : CreateEvent) {u : Unit}
    (hperiod : Events.checkPeriod p.startDate p.endDate = .ok u) :
    (Workflow.createEvent p).program.Obeys workflow (Job.createEvent p).start Settled := by
  simp only [Workflow.program, Events.create, ExceptT.run_map, Program.obeys_map,
    Desk.obeys_within, Desk.obeys_bind, Desk.obeys_liftM, hperiod]
  refine (Desk.obeys_ask _).2 ⟨⟨default, _, .clock ..⟩, fun time g' htime => ?_⟩
  cases htime
  refine (Desk.obeys_ask _).2 ⟨⟨default, _, .freshId ..⟩, fun id g' hid => ?_⟩
  cases hid
  refine (Desk.obeys_perform _).2 ⟨⟨_, _, .createEvent ..⟩, fun a g' hcreated => ?_⟩
  cases hcreated
  simp [Except.map, Settled]

/-- An application takes effect when no event is found, or when the request is entered or
refused. -/
theorem obeys_createRequest (p : CreateRequest) :
    (Workflow.createRequest p).program.Obeys workflow (Job.apply p).start Settled := by
  simp only [Workflow.program, Requests.create, ExceptT.run_map, Program.obeys_map,
    Desk.obeys_within, Desk.obeys_bind, Events.get, Desk.obeys_orElse]
  refine (Desk.obeys_perform _).2 ⟨⟨_, _, .lookup p none none none⟩, fun a g' hfound => ?_⟩
  cases hfound with | lookup _ _ _ found => ?_
  cases found with
  | none => rfl
  | some e =>
    refine (Desk.obeys_ask _).2 ⟨⟨default, _, .freshId ..⟩, fun id g' hid => ?_⟩
    cases hid
    refine (Desk.obeys_ask _).2 ⟨⟨default, _, .clock ..⟩, fun time g' htime => ?_⟩
    cases htime
    refine (Desk.obeys_perform _).2 ⟨⟨_, _, .enter p id time true⟩, fun a g' hentered => ?_⟩
    cases hentered with | enter _ _ _ created => ?_
    cases created with
    | false => simp [Except.map, Settled, Stage.afterEntry]
    | true => simp [Except.map, Settled, Stage.afterEntry]

theorem obeys_getRequest (id : String) :
    (Workflow.getRequest id).program.Obeys workflow
      (Job.inspect id (Job.ifFound id fun r => .ok (.inr r))).start Settled := by
  simp only [Workflow.program, Requests.get, ExceptT.run_map, Program.obeys_map, Desk.obeys_bind,
    Desk.obeys_orElse]
  refine (Desk.obeys_perform _).2 ⟨⟨_, _, .inspect id _ none none false none⟩, fun a g' hfound => ?_⟩
  cases hfound with | inspect _ _ _ _ _ found => ?_
  cases found with
  | none => rfl
  | some r => rfl

/-- What was settled is counted, published and noted. -/
theorem obeys_concludeReview (updated : Request) (old : RequestStatus) :
    (Requests.concludeReview updated old).run.Obeys workflow (.settled (.ok (.inr updated)))
      fun outcome g => Settled (outcome.map .inr) g := by
  simp only [Requests.concludeReview, Desk.obeys_bind, Desk.obeys_measure, Desk.obeys_lift,
    Requests.announce, Program.obeys_bind]
  refine (Program.obeys_ask _).2 ⟨⟨0, _, .publish ..⟩, fun n g' hpublished => ?_⟩
  cases hpublished
  by_cases hn : n = 0
  · simp [hn, Settled, Except.map]
  · simp [hn, Settled, Except.map]

/-- Who has lost reports the status that the contract promises. -/
theorem obeys_reportLost (id : String) (seen current status : RequestStatus) :
    (Requests.reportLost id seen status).run.Obeys workflow (.lost id current status)
      fun outcome g => Settled (outcome.map .inr) g := by
  simp only [Requests.reportLost, Desk.obeys_bind]
  refine (Desk.obeys_perform _).2
    ⟨⟨_, _, .lookAgain id current status ⟨id, "", "", current, default, default⟩ rfl⟩, ?_⟩
  intro a g' hfound
  cases hfound with | lookAgain _ _ _ r hcurrent => ?_
  simp [Except.map, Settled, hcurrent]

/-- A review takes effect when the request is not found or cannot be moved, or at the attempt to
move it. -/
theorem obeys_review (id : String) (status : RequestStatus) :
    (Workflow.review id status).program.Obeys workflow (Job.review id status).start Settled := by
  simp only [Workflow.program, Requests.review, Requests.get, ExceptT.run_map, Program.obeys_map,
    Desk.obeys_within, Desk.obeys_bind, Desk.obeys_orElse]
  refine (Desk.obeys_perform _).2 ⟨⟨_, _, .look id status none none none⟩, fun a g' hfound => ?_⟩
  cases hfound with | look _ _ _ _ found => ?_
  cases found with
  | none => rfl
  | some r =>
    by_cases hmove : r.status.canMoveTo status
    · simp only [Desk.mapError_ok, Option.elim, hmove, Stage.afterLook, Bool.not_true,
        Bool.false_eq_true, if_false, if_true, Desk.obeys_bind]
      refine (Desk.obeys_ask _).2 ⟨⟨default, _, .clock ..⟩, fun time g' htime => ?_⟩
      cases htime
      refine (Desk.obeys_perform _).2
        ⟨⟨_, _, .move id status none time status none⟩, fun a g' hmoved => ?_⟩
      cases hmoved with | move _ _ _ _ current updated => ?_
      cases updated with
      | some updated => exact obeys_concludeReview updated r.status
      | none => exact obeys_reportLost id r.status current status
    · simp [Except.map, hmove, Stage.afterLook, Settled]

/-- A name that is none is refused by the look at the request. -/
theorem obeys_reviewByUnknownName (p : ReviewRequest) (hname : RequestStatus.ofName? p.status = none) :
    (Workflow.reviewByName p).program.Obeys workflow
      (Job.inspect p.requestId (Job.ifFound p.requestId fun r =>
        .error (.invalidTransition p.requestId r.status p.status))).start Settled := by
  simp only [Workflow.program, Requests.reviewByName, hname, Requests.get, ExceptT.run_map,
    Program.obeys_map, Desk.obeys_bind, Desk.obeys_orElse]
  refine (Desk.obeys_perform _).2
    ⟨⟨_, _, .inspect p.requestId _ none none false none⟩, fun a g' hfound => ?_⟩
  cases hfound with | inspect _ _ _ _ _ found => ?_
  cases found with
  | none => rfl
  | some r => rfl

end workflow

/-- To refuse at once is settled before the first call is over. -/
theorem refusal.obeys_createEvent (p : CreateEvent) {error : DeskError}
    (hperiod : Events.checkPeriod p.startDate p.endDate = .error error) :
    (Workflow.createEvent p).program.Obeys (refusal error) (Job.refuse error).start
      workflow.Settled := by
  simp only [Workflow.program, Events.create, hperiod, Desk.within, Program.within,
    ExceptT.run_map, ExceptT.run_mk, Program.obeys_map, Program.obeys_bind]
  refine (Program.obeys_ask _).2 ⟨⟨_, rfl⟩, ?_⟩
  rintro - g' rfl
  refine (Program.obeys_ask _).2 ⟨⟨_, rfl⟩, ?_⟩
  rintro - g' rfl
  rfl

/-- Every call keeps the contract of its job, and ends as it was settled. -/
theorem Workflow.obeys_program (w : Workflow) :
    w.program.Obeys w.job.contract w.job.start workflow.Settled := by
  cases w with
  | createEvent p =>
    rw [job]
    cases hperiod : Events.checkPeriod p.startDate p.endDate with
    | error error => exact refusal.obeys_createEvent p hperiod
    | ok u => exact workflow.obeys_createEvent p hperiod
  | createRequest p => exact workflow.obeys_createRequest p
  | getRequest id => exact workflow.obeys_getRequest id
  | review id status => exact workflow.obeys_review id status
  | reviewByName p =>
    rw [job]
    cases hname : RequestStatus.ofName? p.status with
    | none => exact workflow.obeys_reviewByUnknownName p hname
    | some status =>
      rw [program, Requests.reviewByName, hname]
      exact workflow.obeys_review p.requestId status

end RewardDesk
