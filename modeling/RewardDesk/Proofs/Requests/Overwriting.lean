import RewardDesk.Proofs.Requests.Places

/-!
# Requests that are entered under the id of another one

Whether a request may be entered is decided by its applicant alone. Under an id that a request has
already it takes that one's place, and if that one was pending its entry stays in the index and
leads to a request of somebody else: it is stale from then on (`Store.Stale`). Each entry of the
index leads to a pending request of its own or is stale (`RequestBook.ExactOrStale`), and each
statement that enters or decides a request keeps it so.

`Store.records_kept_unless_reentered` says what that means for an application after any such
statements, and `Store.request_overwritten` that a decided request can be lost that way.
-/

namespace RewardDesk

namespace RequestBook

variable {b : RequestBook} {stale : Applicant → String → Prop}

/-! ## The index

Here requests may be entered under any ids, also under those of others, but they are only moved to
statuses that end their wait. An applicant has one place in the index at most, so a stale entry and
a pending request of the same applicant exclude each other (`RequestBook.ExactOrStale`). -/

/-- Under the id there is a pending request of the applicant. -/
def Waits (b : RequestBook) (a : Applicant) (id : String) : Prop :=
  ∃ r, b.requests.get? id = some r ∧ r.applicant = a ∧ r.status = .pending

/-- To enter the request drives out a pending request of the applicant that has the same id. -/
def Supplants (b : RequestBook) (r : Request) (a : Applicant) (id : String) : Prop :=
  (b.createPending r).1 = true ∧ r.id = id ∧ b.Waits a id

/-- Each entry of the index leads to a pending request of its own, or it is stale, and then no
request of its applicant is pending. -/
structure ExactOrStale (stale : Applicant → String → Prop) (b : RequestBook) : Prop where
  entry : ∀ a id, b.pending.get? a = some id ↔ b.Waits a id ∨ stale a id
  vacant : ∀ a id, stale a id → ∀ id', ¬ b.Waits a id'

theorem exactOrStale_empty : empty.ExactOrStale fun _ _ => False where
  entry a id := by simp [empty, Waits]
  vacant _ _ h := h.elim

/-- Who waits after a request was written. -/
theorem waits_set {r : Request} {key id : String} {a : Applicant} {pending : Table Applicant String} :
    Waits ⟨b.requests.set key r, pending⟩ a id ↔
      (id = key ∧ a = r.applicant ∧ r.status = .pending) ∨ (id ≠ key ∧ b.Waits a id) := by
  simp only [Waits, Table.get?_set]
  by_cases hid : id = key
  · simp [hid, eq_comm]
  · simp [hid]

/-- An applicant has one entry, and so there is one request that waits for it. -/
theorem ExactOrStale.unique (h : b.ExactOrStale stale) {a : Applicant} {id id' : String}
    (hid : b.Waits a id) (hid' : b.Waits a id') : id = id' :=
  Option.some.inj (((h.entry a id).2 (.inl hid)).symm.trans ((h.entry a id').2 (.inl hid')))

/-- To enter a request makes the entry of the one that it drives out stale. -/
theorem ExactOrStale.createPending (h : b.ExactOrStale stale) (r : Request) :
    (b.createPending r).2.ExactOrStale fun a id => stale a id ∨ b.Supplants r a id := by
  rcases b.createPending_cases r with ⟨-, hrefused⟩ | ⟨hvacant, hentered⟩
  · simpa [Supplants, hrefused] using h
  -- The applicant has no entry, so what is waiting or stale is somebody else's.
  have hother : ∀ {a id}, b.Waits a id ∨ stale a id → a ≠ r.applicant := by
    rintro a id howned rfl
    rw [(h.entry _ _).2 howned] at hvacant
    exact absurd hvacant nofun
  have hwaits : ∀ {a id}, (b.createPending r).2.Waits a id ↔
      (id = r.id ∧ a = r.applicant) ∨ (id ≠ r.id ∧ b.Waits a id) := by
    intro a id
    rw [hentered, waits_set]
    exact or_congr_left (and_congr_right fun _ => and_iff_left rfl)
  refine ⟨fun a id => ?_, fun a id hstale id' hwaiting => ?_⟩
  · have hentry : (b.createPending r).2.pending.get? a = some id ↔
        (a = r.applicant ∧ id = r.id) ∨ (a ≠ r.applicant ∧ b.pending.get? a = some id) := by
      rw [hentered, Table.get?_set]
      by_cases ha : a = r.applicant
      · simp [ha, eq_comm]
      · simp [ha]
    rw [hentry, hwaits, h.entry, Supplants, hentered]
    have hfree := @hother a id
    have hsame : r.id = id ↔ id = r.id := eq_comm
    tauto
  · have hne : a ≠ r.applicant := hother (hstale.elim .inr fun hsupplants => .inl hsupplants.2.2)
    rcases hwaits.1 hwaiting with ⟨-, ha⟩ | ⟨hid', hwaiting⟩
    · exact hne ha
    · rcases hstale with hstale | ⟨-, rfl, hold⟩
      · exact h.vacant a id hstale id' hwaiting
      · exact hid' (h.unique hwaiting hold)

/-- To decide a request takes its entry out and leaves the stale ones. -/
theorem ExactOrStale.transition (h : b.ExactOrStale stale) (id : String) {status : RequestStatus}
    (hstatus : status.isTerminal) (time : Instant) :
    (b.transition id status time).2.ExactOrStale stale := by
  rcases b.transition_cases id status time with ⟨-, hnone⟩ | ⟨r, hr, hpending, hmoved⟩
  · rwa [hnone]
  have hwaits : ∀ {a x}, (b.transition id status time).2.Waits a x ↔ x ≠ id ∧ b.Waits a x := by
    intro a x
    rw [hmoved, waits_set, or_iff_right]
    rintro ⟨-, -, rfl⟩
    exact absurd hstatus nofun
  have hdecided : b.Waits r.applicant id := ⟨r, hr, rfl, hpending⟩
  refine ⟨fun a x => ?_, fun a x hstale id' hwaiting => ?_⟩
  · have hentry : (b.transition id status time).2.pending.get? a = some x ↔
        b.pending.get? a = some x ∧ ¬ (a = r.applicant ∧ x = id) := by
      rw [hmoved]
      exact get?_freed
    rw [hentry, hwaits, h.entry]
    constructor
    · rintro ⟨hwaiting | hstale, hkept⟩
      · refine .inl ⟨?_, hwaiting⟩
        rintro rfl
        obtain ⟨r', hr', rfl, -⟩ := hwaiting
        rw [hr] at hr'
        exact hkept ⟨by rw [Option.some.inj hr'], rfl⟩
      · exact .inr hstale
    · rintro (⟨hx, hwaiting⟩ | hstale)
      · exact ⟨.inl hwaiting, fun hsame => hx hsame.2⟩
      · refine ⟨.inr hstale, ?_⟩
        rintro ⟨rfl, rfl⟩
        exact h.vacant _ _ hstale _ hdecided
  · exact h.vacant a x hstale id' (hwaits.1 hwaiting).2

end RequestBook

namespace Store

/-! ## Statement after statement

Which entries are stale is told by the statements that were carried out before: one of them has put
a request in the place of another one that was still pending. -/

/-- Among the statements one has entered a request under the id of a pending one of the
applicant. -/
def Stale (statements : List Statement) (a : Applicant) (id : String) : Prop :=
  History.Happened (fun earlier q =>
    ∃ r, q = .createPending r ∧ (after earlier).requests.Supplants r a id) statements

/-- Requests are moved to a status in which they are decided, and to no other. -/
def OnlyDecides (statements : List Statement) : Prop :=
  ∀ id status time, .transition id status time ∈ statements → status.isTerminal

/-- A statement makes the entry stale whose request it drives out, and no other. -/
theorem exactOrStale_execute {s : Store} {q : Statement} {stale : Applicant → String → Prop}
    (h : s.requests.ExactOrStale stale) (hdecides : OnlyDecides [q]) :
    (s.execute q).2.requests.ExactOrStale fun a id =>
      stale a id ∨ ∃ r, q = .createPending r ∧ s.requests.Supplants r a id := by
  by_cases hq : changesRequests q
  · cases q with
    | createPending r =>
      simp only [Statement.createPending.injEq, exists_eq_left']
      exact h.createPending r
    | transition id status time =>
      simp only [reduceCtorEq, false_and, exists_false, or_false]
      exact h.transition id (hdecides id status time List.mem_cons_self) time
    | _ => exact hq.elim
  · have hnone : ∀ a id, ¬ ∃ r, q = .createPending r ∧ s.requests.Supplants r a id := by
      rintro a id ⟨r, rfl, -⟩
      exact hq trivial
    simp only [hnone, or_false]
    rwa [requests_execute hq]

/-- After any statements that only decide each entry leads to a pending request or is stale. -/
theorem exactOrStale_after {statements : List Statement} (h : OnlyDecides statements) :
    (after statements).requests.ExactOrStale (Stale statements) := by
  induction statements using List.reverseRecOn with
  | nil =>
    have hnone : Stale [] = fun _ _ => False :=
      funext fun a => funext fun id => eq_false History.not_happened_nil
    rw [hnone]
    exact RequestBook.exactOrStale_empty
  | append_singleton statements q ih =>
    have hstale : Stale (statements ++ [q]) = fun a id => Stale statements a id ∨
        ∃ r, q = .createPending r ∧ (after statements).requests.Supplants r a id :=
      funext fun a => funext fun id => propext History.happened_concat
    rw [after_concat, hstale]
    refine exactOrStale_execute (ih fun id status time hq => ?_) fun id status time hq => ?_
    · exact h id status time (List.mem_append_left _ hq)
    · exact h id status time (List.mem_append_right _ hq)

/-- A request is entered at any time after statements that only decide, whatever ids were given.

* A record that was there is still there unless the request has its id and was not refused.
* Each entry of the index leads to a pending request of its own user and event, or it is stale: a
  request of theirs was pending when another was entered under its id. Then they have no pending
  request at all.
* An application is refused if and only if a request of this user at this event is pending or their
  entry is stale. -/
theorem records_kept_unless_reentered (statements : List Statement)
    (hdecides : OnlyDecides statements) (r : Request) :
    let s := after statements
    let entered := Storage.memory (.createPending r) s
    let s' := entered.2
    (∀ old ∈ s.requests.requests.values, old ∈ s'.requests.requests.values ↔
      entered.1 = .ok false ∨ old.id ≠ r.id ∨ old = { r with status := .pending }) ∧
    (∀ a id, (s'.requests.pending.get? a = some id ↔
        s'.requests.Waits a id ∨ Stale (statements ++ [.createPending r]) a id) ∧
      (Stale (statements ++ [.createPending r]) a id → ∀ id', ¬ s'.requests.Waits a id')) ∧
    (entered.1 = .ok false ↔
      ∃ id, s.requests.Waits r.applicant id ∨ Stale statements r.applicant id) := by
  intro s entered s'
  have hs' : s' = after (statements ++ [.createPending r]) := by
    rw [after_concat]
    rfl
  have hanswer : entered.1 = .ok (s.requests.createPending r).1 := rfl
  have hbook : s'.requests = (s.requests.createPending r).2 := rfl
  have hfiled : s.requests.requests.Filed := (filed_after statements).requests
  have hfiled' : s'.requests.requests.Filed := by
    rw [hs']
    exact (filed_after _).requests
  have hexact : s.requests.ExactOrStale (Stale statements) := exactOrStale_after hdecides
  have hexact' : s'.requests.ExactOrStale (Stale (statements ++ [.createPending r])) := by
    rw [hs']
    refine exactOrStale_after fun id status time hq => hdecides id status time ?_
    simpa using hq
  refine ⟨fun old hold => ?_, fun a id => ⟨hexact'.entry a id, hexact'.vacant a id⟩, ?_⟩
  · rw [hfiled.mem_values] at hold
    rw [hfiled'.mem_values, hanswer, hbook]
    rcases s.requests.createPending_cases r with ⟨-, hrefused⟩ | ⟨-, hentered⟩
    · rw [hrefused]
      exact iff_of_true hold (.inl rfl)
    · rw [hentered, Table.get?_set]
      by_cases hid : old.id = r.id
      · simp [Recorded.id, hid, eq_comm]
      · have hkept : Recorded.id old ≠ r.id := hid
        simp [hkept, hid, hold]
  · rw [hanswer, Except.ok.injEq]
    simp only [← hexact.entry]
    rcases s.requests.createPending_cases r with ⟨hentry, hrefused⟩ | ⟨hvacant, hentered⟩
    · rw [hrefused]
      exact iff_of_true rfl (Option.isSome_iff_exists.1 hentry)
    · rw [hentered, hvacant]
      exact iff_of_false nofun nofun

/-- To enter a request under the id of a pending one loses that one and its applicant's place. -/
theorem records_kept_unless_reentered_of_pending :
    let statements : List Statement := [.createPending (.newPending "a" "u" "e" default)]
    let s' := (Storage.memory (.createPending (.newPending "a" "v" "f" default)) (after statements)).2
    OnlyDecides statements ∧ .newPending "a" "u" "e" default ∉ s'.requests.requests.values ∧
      s'.requests.pending.get? ⟨"u", "e"⟩ = some "a" ∧ ∀ id, ¬ s'.requests.Waits ⟨"u", "e"⟩ id := by
  intro statements s'
  have hdecides : OnlyDecides statements := by simp [OnlyDecides, statements]
  obtain ⟨hkept, hentries, -⟩ := records_kept_unless_reentered statements hdecides
    (.newPending "a" "v" "f" default)
  have hstored : (after statements).requests.requests.values = [.newPending "a" "u" "e" default] := rfl
  have hstale : Stale (statements ++ [.createPending (.newPending "a" "v" "f" default)])
      ⟨"u", "e"⟩ "a" :=
    History.happened_concat.2 (.inr ⟨_, rfl, rfl, rfl, .newPending "a" "u" "e" default, rfl, rfl, rfl⟩)
  obtain ⟨hentry, hvacant⟩ := hentries ⟨"u", "e"⟩ "a"
  refine ⟨hdecides, ?_, hentry.2 (.inr hstale), hvacant hstale⟩
  rw [hkept _ (by rw [hstored]; exact List.mem_cons_self)]
  decide +kernel

/-- A request that was approved can be lost: another one is entered under its id. -/
theorem request_overwritten :
    let statements : List Statement :=
      [.createPending (.newPending "a" "u" "e" default), .transition "a" .approved default]
    let s := after statements
    let entered := Storage.memory (.createPending (.newPending "a" "v" "f" default)) s
    OnlyDecides statements ∧
      s.requests.requests.values =
        [{ Request.newPending "a" "u" "e" default with status := .approved }] ∧
      entered.1 = .ok true ∧
      entered.2.requests.requests.values = [.newPending "a" "v" "f" default] := by
  intro statements s entered
  refine ⟨fun id status time h => ?_, rfl, rfl, rfl⟩
  have hmoved : id = "a" ∧ status = .approved ∧ time = default := by simpa [statements] using h
  rw [hmoved.2.1]
  rfl

end Store
end RewardDesk
