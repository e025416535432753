import RewardDesk.Command.Payload
import RewardDesk.Desk.Program

/-!
# Work on events

Events are created, changed field by field, and listed newest first. An event never ends before it
starts.
-/

namespace RewardDesk.Events

/-- Where the notes of this work come from. -/
def target : String := "reward_service::service::event_service"

/-- An event must not end before it starts. -/
def checkPeriod (startDate endDate : Instant) : Except DeskError Unit :=
  if endDate < startDate then .error (.validation (.period startDate endDate)) else .ok ()

/-- The event that a payload describes. -/
def ofPayload (p : CreateEvent) (id : String) (now : Instant) : Event :=
  { id, name := p.name, description := p.description, condition := p.condition,
    startDate := p.startDate, endDate := p.endDate, status := p.status.getD default,
    createdAt := now, updatedAt := now }

def create (p : CreateEvent) : Desk Event :=
  Desk.within ⟨.info, target, "create_event", [("name", .words p.name)]⟩ do
    checkPeriod p.startDate p.endDate
    let now ← Desk.ask .clock
    let id ← Desk.ask .freshId
    let event := ofPayload p id now
    Desk.perform (.createEvent event)
    Desk.note ⟨.info, target, "Event created",
      [("event_id", .words event.id), ("status", .words event.status.name)]⟩
    return event

def get (id : String) : Desk Event := do
  Desk.orElse (.eventNotFound id) (← Desk.perform (.getEvent id))

/-- The event with the fields that are given in a payload. -/
def merge (p : UpdateEvent) (e : Event) : Event :=
  { e with
    name := p.name.getD e.name
    description := p.description.or e.description
    condition := p.condition.or e.condition
    startDate := p.startDate.getD e.startDate
    endDate := p.endDate.getD e.endDate
    status := p.status.getD e.status }

def update (p : UpdateEvent) : Desk Event :=
  Desk.within ⟨.info, target, "update_event", [("event_id", .words p.id)]⟩ do
    let event := merge p (← get p.id)
    checkPeriod event.startDate event.endDate
    let event := { event with updatedAt := ← Desk.ask .clock }
    if !(← Desk.perform (.updateEvent event)) then throw (.eventNotFound p.id)
    Desk.note ⟨.info, target, "Event updated", [("status", .words event.status.name)]⟩
    return event

/-- A page of events, newest first. -/
def list (p : ListEvents) : Desk (OffsetPage Event) := do
  let items ← Desk.perform (.listEvents p.status p.params.window)
  let total ← Desk.perform (.countEvents p.status)
  return .of items total p.params

end RewardDesk.Events
