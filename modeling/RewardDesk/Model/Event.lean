import RewardDesk.Json.Record

/-!
# Events

An event runs from its start date to its end date; rewards are linked to it and users apply to it.
-/

namespace RewardDesk

/-- Is an event on? -/
inductive EventStatus where
  | active | inactive
  deriving DecidableEq, Repr

namespace EventStatus

/-- New events are active. -/
instance : Inhabited EventStatus := ⟨.active⟩

def name : EventStatus → String
  | .active => "ACTIVE"
  | .inactive => "INACTIVE"

def names : List (String × EventStatus) := [.active, .inactive].map fun s => (s.name, s)

def codec : Json.Codec EventStatus := .choice names name

end EventStatus

/-- An event. Its condition is any JSON and means nothing here. -/
structure Event where
  id : String
  name : String
  description : Option String
  condition : Option Json
  startDate : Instant
  endDate : Instant
  status : EventStatus
  createdAt : Instant
  updatedAt : Instant

namespace Event

section
open Json

def codec : Codec Event :=
  .record "Event"
    (.cons (.required "id" .string) <|
      .cons (.required "name" .string) <|
      .cons (.optional "description" .string) <|
      .cons (.optional "condition" .any) <|
      .cons (.required "startDate" .instant) <|
      .cons (.required "endDate" .instant) <|
      .cons (.required "status" EventStatus.codec) <|
      .cons (.required "createdAt" .instant) <|
      .cons (.required "updatedAt" .instant) .nil)
    (fun (id, name, description, condition, startDate, endDate, status, createdAt, updatedAt, _) =>
      { id, name, description, condition, startDate, endDate, status, createdAt, updatedAt })
    (fun e => (e.id, e.name, e.description, e.condition, e.startDate, e.endDate, e.status,
      e.createdAt, e.updatedAt, ()))

end
end Event

/-- A reward linked to an event. -/
structure Link where
  eventId : String
  rewardId : String
  createdAt : Instant
  deriving DecidableEq, Repr

def Link.codec : Json.Codec Link :=
  .record "EventReward"
    (.cons (.required "eventId" .string) <|
      .cons (.required "rewardId" .string) <|
      .cons (.required "createdAt" .instant) .nil)
    (fun (eventId, rewardId, createdAt, _) => { eventId, rewardId, createdAt })
    (fun l => (l.eventId, l.rewardId, l.createdAt, ()))

end RewardDesk
