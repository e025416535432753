import RewardDesk.Proofs.Store.Table
import RewardDesk.Store.Basic

/-!
# What statements do to the book of requests

Two statements change the book. `createPending_cases` and `transition_cases` say all that each of
them can do, and `Store.requests_execute` that every other statement leaves the book as it is.
-/

namespace RewardDesk

/-! ## The two changes -/

namespace RequestBook

variable {b : RequestBook}

/-- A request is refused because of an entry in the index, or entered in both tables. -/
theorem createPending_cases (b : RequestBook) (r : Request) :
    ((b.pending.get? r.applicant).isSome ∧ b.createPending r = (false, b)) ∨
      (b.pending.get? r.applicant = none ∧ b.createPending r =
        (true, { requests := b.requests.set r.id { r with status := .pending }
                 pending := b.pending.set r.applicant r.id })) := by
  rw [createPending, Table.contains]
  cases h : b.pending.get? r.applicant with
  | none => right; simp
  | some id => left; simp

/-- The index after the review of a request. -/
def freed (b : RequestBook) (r : Request) (id : String) : Table Applicant String :=
  if b.pending.get? r.applicant = some id then b.pending.erase r.applicant else b.pending

/-- A review finds no pending request, or carries the request over to its new status and frees the
place in the index that the request holds. -/
theorem transition_cases (b : RequestBook) (id : String) (status : RequestStatus) (time : Instant) :
    ((∀ r, b.requests.get? id = some r → r.status ≠ .pending) ∧
        b.transition id status time = (none, b)) ∨
      ∃ r, b.requests.get? id = some r ∧ r.status = .pending ∧
        b.transition id status time = (some { r with status, updatedAt := time },
          { requests := b.requests.set id { r with status, updatedAt := time }
            pending := b.freed r id }) := by
  cases h : (b.requests.get? id).bind (reviewed status time) with
  | none =>
    left
    constructor
    · intro r hr hpending
      simp [hr, reviewed, hpending] at h
    · rw [transition, Table.update_of_none h]
  | some updated =>
    right
    obtain ⟨r, hr, hreviewed⟩ := Option.bind_eq_some_iff.1 h
    unfold reviewed at hreviewed
    split at hreviewed
    · rename_i hpending
      obtain rfl := Option.some.inj hreviewed
      refine ⟨r, hr, hpending, ?_⟩
      rw [transition, Table.update_of_some h]
      rfl
    · exact absurd hreviewed (by simp)

end RequestBook

/-! ## Statements -/

namespace Store

/-- Does a statement change the book of requests? -/
def changesRequests : Statement → Prop
  | .createPending _ | .transition .. => True
  | _ => False

theorem requests_execute {s : Store} {q : Statement} (h : ¬ changesRequests q) :
    (s.execute q).2.requests = s.requests := by
  cases q <;> first | rfl | exact absurd trivial h

end Store
end RewardDesk
