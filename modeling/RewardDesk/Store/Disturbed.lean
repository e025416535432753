import RewardDesk.Store.Basic

/-!
# Storage with other writers

A storage in which others work too, at the worst moments: between a look at a record and the change
that follows it. Each disturbance strikes once.
-/

namespace RewardDesk

/-- What others are about to do. -/
structure Disturbance where
  /-- Move the request of the next transition to this status first. -/
  race : Option RequestStatus := none
  /-- Remove the request of the next transition first. -/
  vanish : Bool := false
  /-- Requests that have been removed. -/
  vanished : List String := []
  /-- Remove the event of the next update first. -/
  loseUpdate : Bool := false

namespace Storage

/-- Carry out a statement that nobody disturbs. -/
def undisturbed (base : Storage σ) : Storage (σ × Disturbance) := fun q (state, d) =>
  let (answer, state) := base q state
  (answer, state, d)

/-- A storage in which the disturbances strike. -/
def disturbed (base : Storage σ) : Storage (σ × Disturbance) := fun q (state, d) =>
  match q with
  | .updateEvent e =>
    if d.loseUpdate then (.ok false, state, { d with loseUpdate := false })
    else undisturbed base (.updateEvent e) (state, d)
  | .getRequest id =>
    if id ∈ d.vanished then (.ok none, state, d)
    else undisturbed base (.getRequest id) (state, d)
  | .transition id status time =>
    if d.vanish then (.ok none, state, { d with vanish := false, vanished := id :: d.vanished })
    else
      let state := match d.race with
        | some other => (base (.transition id other time) state).2
        | none => state
      undisturbed base (.transition id status time) (state, { d with race := none })
  | q => undisturbed base q (state, d)

end Storage
end RewardDesk
