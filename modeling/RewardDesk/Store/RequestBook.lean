import RewardDesk.Store.Table
import RewardDesk.Model.Request

/-!
# The book of requests

Requests by their ids, and an index of who waits where: for each user and event the id of the
request that is pending. A request is entered only while the index has no entry for its user and
event, and the entry goes when that request is reviewed.
-/

namespace RewardDesk

/-- A user who applies to an event. -/
structure Applicant where
  userId : String
  eventId : String
  deriving DecidableEq, Repr

namespace Applicant

/-- By user, then by event. -/
instance : Ord Applicant := ⟨compareLex (compareOn userId) (compareOn eventId)⟩

instance : Std.TransOrd Applicant :=
  inferInstanceAs (Std.TransCmp (compareLex (compareOn userId) (compareOn eventId)))

instance : Std.LawfulEqOrd Applicant where
  eq_of_compare := by
    intro a b h
    obtain ⟨hu, he⟩ := Ordering.then_eq_eq.1
      (h : (compare a.userId b.userId).then (compare a.eventId b.eventId) = .eq)
    have hu : a.userId = b.userId := Std.LawfulEqOrd.eq_of_compare hu
    have he : a.eventId = b.eventId := Std.LawfulEqOrd.eq_of_compare he
    cases a
    cases b
    simp_all

end Applicant

/-- Who sent a request. -/
def Request.applicant (r : Request) : Applicant := ⟨r.userId, r.eventId⟩

/-- The requests, and which of them are pending. -/
structure RequestBook where
  requests : Table String Request
  pending : Table Applicant String

namespace RequestBook

def empty : RequestBook := ⟨.empty, .empty⟩

/-- Enter a request as pending, unless one of its applicant is pending already. -/
def createPending (b : RequestBook) (r : Request) : Bool × RequestBook :=
  if b.pending.contains r.applicant then (false, b)
  else
    (true, { requests := b.requests.set r.id { r with status := .pending }
             pending := b.pending.set r.applicant r.id })

/-- The request that a review makes of a pending one. -/
def reviewed (status : RequestStatus) (time : Instant) (r : Request) : Option Request :=
  if r.status = .pending then some { r with status, updatedAt := time } else none

/-- Move a pending request to a status. -/
def transition (b : RequestBook) (id : String) (status : RequestStatus) (time : Instant) :
    Option Request × RequestBook :=
  match b.requests.update id (reviewed status time) with
  | (none, _) => (none, b)
  | (some updated, requests) =>
    let pending := if b.pending.get? updated.applicant = some id then
      b.pending.erase updated.applicant else b.pending
    (some updated, { requests, pending })

end RequestBook
end RewardDesk
