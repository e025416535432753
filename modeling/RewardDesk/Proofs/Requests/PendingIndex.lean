import RewardDesk.Proofs.Requests.Ids
import RewardDesk.Proofs.Requests.Places

/-!
# The index of pending requests

The index says exactly which requests are pending (`RequestBook.Exact`). The two statements that
change the book keep it so: a request is entered in both tables under an id that was free, and a
review that ends the wait also frees the place.

`Errand.pending_index_exact` draws the conclusion for errands in any number and order: nobody has
two pending requests at an event, and nobody is refused for a request that is not pending.
-/

namespace RewardDesk

/-! ## The index

The exact index is the one in which nothing was renewed, so what holds of renewed requests holds
here with none of them (`exact_iff_exactBut`). -/

namespace RequestBook

/-- The index has an entry for a user and an event if and only if their request is pending. -/
def Exact (b : RequestBook) : Prop :=
  ∀ a id, b.pending.get? a = some id ↔
    ∃ r, b.requests.get? id = some r ∧ r.applicant = a ∧ r.status = .pending

variable {b : RequestBook}

theorem exact_empty : empty.Exact := by
  intro a id
  constructor
  · intro h
    exact absurd h nofun
  · rintro ⟨r, hr, -⟩
    exact absurd hr nofun

theorem exact_iff_exactBut : b.Exact ↔ b.ExactBut fun _ => False := by
  simp [Exact, ExactBut]

/-- To enter a request under a free id keeps the index exact. -/
theorem Exact.createPending {r : Request} (h : b.Exact) (hfree : b.requests.get? r.id = none) :
    (b.createPending r).2.Exact :=
  exact_iff_exactBut.2 ((exact_iff_exactBut.1 h).createPending hfree id)

/-- To end the wait for a review keeps the index exact. -/
theorem Exact.transition {id : String} {status : RequestStatus} {time : Instant} (h : b.Exact)
    (hterminal : status.isTerminal) : (b.transition id status time).2.Exact := by
  have hstatus : status ≠ .pending := by
    rintro rfl
    exact absurd hterminal nofun
  have hmoved : (b.transition id status time).2.ExactBut fun x =>
      False ∨ x = id ∧ status = .pending ∧ (b.transition id status time).1.isSome :=
    (exact_iff_exactBut.1 h).transition
  simpa [exact_iff_exactBut, hstatus] using hmoved

end RequestBook

/-- A statement keeps the index exact if it enters requests under free ids only, and only ends their
wait. -/
theorem Store.exact_execute {s : Store} {q : Statement} (h : s.requests.Exact)
    (hentered : ∀ r, q = .createPending r → s.requests.requests.get? r.id = none)
    (hreviewed : ∀ id status time, q = .transition id status time → status.isTerminal) :
    (s.execute q).2.requests.Exact := by
  by_cases hq : changesRequests q
  · cases q with
    | createPending r => exact h.createPending (hentered r rfl)
    | transition id status time => exact h.transition (hreviewed id status time rfl)
    | _ => exact absurd hq id
  · rwa [requests_execute hq]

/-! ## Errands

Errands enter requests under ids that they have drawn, which name nothing yet, and move them to
terminal statuses only. Their contract says so, and therefore every call of theirs keeps the index
exact. -/

namespace Errand

variable {ι : Type} [DecidableEq ι] {supply : Supply}

omit [DecidableEq ι] in
/-- Every proper call keeps the index exact. -/
theorem exact_call {w : World Store} {acc : ι → Standing} {i : ι} {c : Call}
    (hfresh : Fresh supply w.storage.requests w.idsGiven acc) (h : w.storage.requests.Exact)
    (hallows : (acc i).allows c) :
    (World.answer .memory supply c w).2.storage.requests.Exact := by
  cases c with
  | freshId => exact h
  | clock => exact h
  | publish change => exact h
  | measure m => exact h
  | log entry => exact h
  | statement q =>
    refine Store.exact_execute h ?_ ?_
    · rintro r rfl
      exact hfresh.unused i r.id hallows
    · rintro id status time rfl
      exact hallows.1

/-- After any calls of any errands, in any order, the index is exact. -/
theorem exact_runAll (hids : Function.Injective supply.id) (channel : Channel StatusChange)
    (errands : ι → Errand) (schedule : List ι) :
    (runAll supply channel errands schedule).state.storage.requests.Exact := by
  obtain ⟨acc, ⟨-, hexact⟩, -⟩ := runAll_holds
    (fun w _ acc => Fresh supply w.storage.requests w.idsGiven acc ∧ w.storage.requests.Exact)
    (fun h hallows => ⟨h.1.call hids hallows, exact_call h.1 h.2 hallows⟩)
    channel errands schedule ⟨Fresh.start supply, RequestBook.exact_empty⟩
  exact hexact

/-- If no id is given out twice, then after any calls of any errands, in any order:

* the index has an id for a user and an event if and only if the request stored under that id is
  theirs and is pending;
* no two stored requests of one user at one event are pending;
* an application is refused if and only if a request of that user at that event is pending. -/
theorem pending_index_exact (hids : Function.Injective supply.id) (channel : Channel StatusChange)
    (errands : ι → Errand) (schedule : List ι) :
    let s := (runAll supply channel errands schedule).state.storage
    (∀ userId eventId id, s.requests.pending.get? ⟨userId, eventId⟩ = some id ↔
      ∃ r, s.requests.requests.get? id = some r ∧ r.id = id ∧ r.userId = userId ∧
        r.eventId = eventId ∧ r.status = .pending) ∧
    (∀ r ∈ s.requests.requests.values, ∀ r' ∈ s.requests.requests.values,
      r.status = .pending → r'.status = .pending →
        r.userId = r'.userId → r.eventId = r'.eventId → r = r') ∧
    ∀ r, (Storage.memory (.createPending r) s).1 = .ok false ↔
      ∃ r' ∈ s.requests.requests.values, r'.status = .pending ∧ r'.userId = r.userId ∧
        r'.eventId = r.eventId := by
  intro s
  have hexact := exact_runAll hids channel errands schedule
  have hfiled := (filed_runAll supply channel errands schedule).requests
  have happlicant : ∀ {r : Request} {userId eventId},
      r.applicant = ⟨userId, eventId⟩ ↔ r.userId = userId ∧ r.eventId = eventId := by
    intro r userId eventId
    simp [Request.applicant]
  refine ⟨fun userId eventId id => ?_, ?_, fun r => ?_⟩
  · rw [hexact]
    constructor
    · rintro ⟨r, hr, happ, hpending⟩
      obtain ⟨huser, hevent⟩ := happlicant.1 happ
      exact ⟨r, hr, hfiled id r hr, huser, hevent, hpending⟩
    · rintro ⟨r, hr, -, huser, hevent, hpending⟩
      exact ⟨r, hr, happlicant.2 ⟨huser, hevent⟩, hpending⟩
  · intro r hr r' hr' hpending hpending' huser hevent
    obtain ⟨id, hid⟩ := Table.mem_values.1 hr
    obtain ⟨id', hid'⟩ := Table.mem_values.1 hr'
    have hentry := (hexact r.applicant id).2 ⟨r, hid, rfl, hpending⟩
    have hentry' := (hexact r.applicant id').2
      ⟨r', hid', happlicant.2 ⟨huser.symm, hevent.symm⟩, hpending'⟩
    have hsame : id = id' := Option.some.inj (hentry.symm.trans hentry')
    rw [hsame, hid'] at hid
    exact (Option.some.inj hid).symm
  · have hanswer : (Storage.memory (.createPending r) s).1 = .ok (s.requests.createPending r).1 := rfl
    rw [hanswer]
    constructor
    · intro hrefused
      rcases s.requests.createPending_cases r with ⟨hentry, -⟩ | ⟨-, hentered⟩
      · obtain ⟨id, hid⟩ := Option.isSome_iff_exists.1 hentry
        obtain ⟨r', hr', happ, hpending⟩ := (hexact r.applicant id).1 hid
        obtain ⟨huser, hevent⟩ := happlicant.1 happ
        exact ⟨r', Table.mem_values.2 ⟨id, hr'⟩, hpending, huser, hevent⟩
      · rw [hentered] at hrefused
        exact absurd hrefused nofun
    · rintro ⟨r', hr', hpending, huser, hevent⟩
      obtain ⟨id, hid⟩ := Table.mem_values.1 hr'
      have hentry := (hexact r.applicant id).2 ⟨r', hid, happlicant.2 ⟨huser, hevent⟩, hpending⟩
      rcases s.requests.createPending_cases r with ⟨-, hrefused⟩ | ⟨hvacant, -⟩
      · rw [hrefused]
      · rw [hvacant] at hentry
        exact absurd hentry nofun

/-- Between an application and its review the index has an entry, and that request is stored. -/
theorem pending_index_exact_of_application :
    Function.Injective Supply.growing.id ∧
      let s := (runAll .growing (.ofCapacity 1) round [0, 0, 0, 1, 1, 0, 0, 1, 1, 1, 1]).state.storage
      s.requests.pending.get? ⟨"u", "x"⟩ = some "xx" ∧
        ∃ r, s.requests.requests.get? "xx" = some r ∧ r.id = "xx" ∧ r.userId = "u" ∧
          r.eventId = "x" ∧ r.status = .pending := by
  refine ⟨Supply.growing_injective, ?_⟩
  intro s
  have hentry : s.requests.pending.get? ⟨"u", "x"⟩ = some "xx" := by decide +kernel
  obtain ⟨hindex, -⟩ := pending_index_exact Supply.growing_injective (.ofCapacity 1) round
    [0, 0, 0, 1, 1, 0, 0, 1, 1, 1, 1]
  exact ⟨hentry, (hindex "u" "x" "xx").1 hentry⟩

end Errand
end RewardDesk
