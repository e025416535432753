import RewardDesk.Desk.Events

/-!
# Work on requests

    PENDING ──► APPROVED
       │
       └──────► REJECTED

A user has at most one pending request at an event. A review is a compare-and-set on the pending
status: of several reviewers one wins, and the others are told what the winner decided.
-/

namespace RewardDesk.Requests

/-- Where the notes of this work come from. -/
def target : String := "reward_service::service::reward_request_service"

/-- Where the notes about notices come from. -/
def noticeTarget : String := "reward_service::notifier"

/-- Tell the subscribers of a change, and say how many they are. -/
def announce (change : StatusChange) : Program Nat := do
  let receivers ← Program.ask (.publish change)
  if receivers = 0 then
    Program.note ⟨.debug, noticeTarget, "No subscriber for status change",
      [("request_id", .words change.requestId)]⟩
  return receivers

/-- Apply to an event. -/
def create (p : CreateRequest) : Desk Request :=
  Desk.within ⟨.info, target, "create_reward_request",
      [("user_id", .text p.userId), ("event_id", .text p.eventId)]⟩ do
    let _ ← Events.get p.eventId
    let id ← Desk.ask .freshId
    let now ← Desk.ask .clock
    let request := Request.newPending id p.userId p.eventId now
    if !(← Desk.perform (.createPending request)) then
      Desk.note ⟨.warn, target, "Duplicate pending reward request", []⟩
      throw (.duplicateRequest p.userId p.eventId)
    Desk.ask (.measure .requestCreated)
    Desk.note ⟨.info, target, "Reward request created", [("request_id", .words request.id)]⟩
    return request

def get (id : String) : Desk Request := do
  Desk.orElse (.requestNotFound id) (← Desk.perform (.getRequest id))

/-- A page of requests, newest first. -/
def list (p : ListRequests) : Desk (OffsetPage Request) := do
  let items ← Desk.perform (.listRequests p.filter p.params.window)
  let total ← Desk.perform (.countRequests p.filter)
  return .of items total p.params

/-- A page of a walk through the requests. -/
def walk (p : WalkRequests) : Desk (CursorPage Request) := do
  let fetched ← Desk.perform (.walkRequests p.filter p.params.query)
  return .ofFetched Request.id fetched p.params.limit

/-- The name of a status in the fields of a span. -/
def spokenStatus : RequestStatus → String
  | .pending => "Pending"
  | .approved => "Approved"
  | .rejected => "Rejected"

/-- Report that another reviewer was faster: the status that the request has by now, or the one
that was seen before if the request is gone. -/
def reportLost (id : String) (seen status : RequestStatus) : Desk Request := do
  let found ← Desk.perform (.getRequest id)
  let actual := (found.map (·.status)).getD seen
  Desk.note ⟨.warn, target, "Lost concurrent status transition",
    [("current", .words actual.name)]⟩
  throw (.invalidTransition id actual status.name)

/-- Count, publish and note a review. -/
def concludeReview (updated : Request) (old : RequestStatus) : Desk Request := do
  Desk.ask (.measure (.transition old.name updated.status.name))
  let _ ← ExceptT.lift (announce (.ofUpdated updated old))
  Desk.note ⟨.info, target, "Reward request status updated",
    [("user_id", .words updated.userId), ("event_id", .words updated.eventId)]⟩
  return updated

/-- Review a request. -/
def review (id : String) (status : RequestStatus) : Desk Request :=
  Desk.within ⟨.info, target, "update_reward_request_status",
      [("request_id", .text id), ("new_status", .words (spokenStatus status))]⟩ do
    let current ← get id
    if !current.status.canMoveTo status then
      throw (.invalidTransition id current.status status.name)
    let now ← Desk.ask .clock
    match ← Desk.perform (.transition id status now) with
    | some updated => concludeReview updated current.status
    | none => reportLost id current.status status

/-- Review a request with a status given by name. A name that is none is refused as a transition,
after the request has been found. -/
def reviewByName (p : ReviewRequest) : Desk Request := do
  match RequestStatus.ofName? p.status with
  | some status => review p.requestId status
  | none =>
    let current ← get p.requestId
    throw (.invalidTransition p.requestId current.status p.status)

end RewardDesk.Requests
