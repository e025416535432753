import RewardDesk.Json.Record

/-!
# Requests

A user applies to an event with a `Request`. It is pending until a reviewer approves or rejects it,
once and for all; `StatusChange` is the notice of that review.
-/

namespace RewardDesk

/-- The state of a request. -/
inductive RequestStatus where
  | pending | approved | rejected
  deriving DecidableEq, Repr

namespace RequestStatus

/-- New requests are pending. -/
instance : Inhabited RequestStatus := ⟨.pending⟩

def all : List RequestStatus := [.pending, .approved, .rejected]

def name : RequestStatus → String
  | .pending => "PENDING"
  | .approved => "APPROVED"
  | .rejected => "REJECTED"

def names : List (String × RequestStatus) := all.map fun s => (s.name, s)

def codec : Json.Codec RequestStatus := .choice names name

/-- The status with a given name, exactly as it is written. -/
def ofName? (name : String) : Option RequestStatus := (names.find? (·.1 == name)).map (·.2)

/-- What is said of a name that is none. -/
def unknownMessage (name : String) : String := "未知的奖励申请状态: " ++ name

/-- Is the review over? -/
def isTerminal : RequestStatus → Bool
  | .pending => false
  | .approved | .rejected => true

/-- May a request in this status be moved to `target`? -/
def canMoveTo (s target : RequestStatus) : Bool := s = .pending && target.isTerminal

end RequestStatus

/-- A user's application to an event. -/
structure Request where
  id : String
  userId : String
  eventId : String
  status : RequestStatus
  createdAt : Instant
  updatedAt : Instant
  deriving DecidableEq, Repr

namespace Request

/-- A fresh application. -/
def newPending (id userId eventId : String) (now : Instant) : Request :=
  { id, userId, eventId, status := .pending, createdAt := now, updatedAt := now }

/-- Does it still wait for a review? -/
def isPending (r : Request) : Bool := r.status = .pending

def codec : Json.Codec Request :=
  .record "RewardRequest"
    (.cons (.required "id" .string) <|
      .cons (.required "userId" .string) <|
      .cons (.required "eventId" .string) <|
      .cons (.required "status" RequestStatus.codec) <|
      .cons (.required "createdAt" .instant) <|
      .cons (.required "updatedAt" .instant) .nil)
    (fun (id, userId, eventId, status, createdAt, updatedAt, _) =>
      { id, userId, eventId, status, createdAt, updatedAt })
    (fun r => (r.id, r.userId, r.eventId, r.status, r.createdAt, r.updatedAt, ()))

end Request

/-- The notice that a request was reviewed. -/
structure StatusChange where
  requestId : String
  userId : String
  eventId : String
  oldStatus : RequestStatus
  newStatus : RequestStatus
  changedAt : Instant
  deriving DecidableEq, Repr

namespace StatusChange

/-- The notice for a request that has just been moved from `old`. -/
def ofUpdated (updated : Request) (old : RequestStatus) : StatusChange :=
  { requestId := updated.id, userId := updated.userId, eventId := updated.eventId,
    oldStatus := old, newStatus := updated.status, changedAt := updated.updatedAt }

def codec : Json.Codec StatusChange :=
  .record "RewardRequestStatusChanged"
    (.cons (.required "requestId" .string) <|
      .cons (.required "userId" .string) <|
      .cons (.required "eventId" .string) <|
      .cons (.required "from" RequestStatus.codec) <|
      .cons (.required "to" RequestStatus.codec) <|
      .cons (.required "changedAt" .instant) .nil)
    (fun (requestId, userId, eventId, oldStatus, newStatus, changedAt, _) =>
      { requestId, userId, eventId, oldStatus, newStatus, changedAt })
    (fun c => (c.requestId, c.userId, c.eventId, c.oldStatus, c.newStatus, c.changedAt, ()))

end StatusChange
end RewardDesk
