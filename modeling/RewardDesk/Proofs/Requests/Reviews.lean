import RewardDesk.Proofs.Requests.PendingIndex
import RewardDesk.Proofs.Session.Watching

/-!
# What comes of a review

A review that nobody interrupts depends on the request and on the word that is said: it succeeds if
the request is pending and the word is the name of a status that ends the wait (`Requests.Ends`),
and else the request is missing or cannot be moved. The request that was looked at is the one that
is moved, so nobody has been faster and the request is not looked up again.

`Requests.review_outcomes` says this of every word.
-/

namespace RewardDesk

/-! ## Words

A review is given by a word, and the word may be anything. Two words end a wait, one more is the
name of a status, and all others are refused with the word as it was said. -/

namespace RequestStatus

/-- A status is meant by its name and by nothing else. -/
theorem ofName?_eq_some {s : String} {status : RequestStatus} :
    ofName? s = some status ↔ s = status.name := by
  constructor
  · intro h
    obtain ⟨⟨name, found⟩, hfind, rfl⟩ := Option.map_eq_some_iff.1 h
    have hname : name = s := by simpa using List.find?_some hfind
    have hmem := List.mem_of_find?_eq_some hfind
    simp only [names, all, List.map_cons, List.map_nil, List.mem_cons, List.not_mem_nil,
      or_false, Prod.mk.injEq] at hmem
    rcases hmem with ⟨hspelled, rfl⟩ | ⟨hspelled, rfl⟩ | ⟨hspelled, rfl⟩
    · exact hname.symm.trans hspelled
    · exact hname.symm.trans hspelled
    · exact hname.symm.trans hspelled
  · rintro rfl
    cases status with
    | pending => rfl
    | approved => rfl
    | rejected => rfl

theorem canMoveTo_iff {s target : RequestStatus} :
    s.canMoveTo target ↔ s = .pending ∧ target.isTerminal := by
  simp [canMoveTo]

end RequestStatus

namespace Requests

/-- Does the word end the wait of a request? -/
def Ends (s : String) : Prop := s = "APPROVED" ∨ s = "REJECTED"

instance (s : String) : Decidable (Ends s) := inferInstanceAs (Decidable (_ ∨ _))

theorem ends_name {status : RequestStatus} : Ends status.name ↔ status.isTerminal := by
  cases status with
  | pending => decide
  | approved => decide
  | rejected => decide

/-- The words that end a wait are names of statuses. -/
theorem Ends.exists_name {s : String} (h : Ends s) :
    ∃ status : RequestStatus, s = status.name ∧ status.isTerminal := by
  rcases h with rfl | rfl
  · exact ⟨.approved, rfl, rfl⟩
  · exact ⟨.rejected, rfl, rfl⟩

theorem reviewByName_name (id : String) (status : RequestStatus) :
    reviewByName ⟨id, status.name⟩ = review id status := by
  rw [reviewByName, RequestStatus.ofName?_eq_some.2 rfl]

/-- The surroundings in which a pending request was moved to a status: the request has the new
status and the time of the move and its place in the index is free, the subscribers and the counters
have heard of it, and nothing else has changed. -/
def moved (supply : Supply) (w : World Store) (id : String) (r : Request) (status : RequestStatus) :
    World Store :=
  let r' := { r with status, updatedAt := supply.time w.timesRead }
  { w with
    storage := { w.storage with requests :=
      { requests := w.storage.requests.requests.set id r'
        pending := w.storage.requests.freed r id } }
    channel := (w.channel.send (.ofUpdated r' .pending)).2
    tally := w.tally ++ [.transition RequestStatus.pending.name status.name]
    timesRead := w.timesRead + 1 }

end Requests

/-! ## Under watch

Nobody interrupts, so the program can be followed from the look at the request to its end in the
surroundings that it finds. -/

namespace watching

variable {supply : Supply} {w : World Store} {id : String} {r : Request} {status : RequestStatus}

theorem obeys_review_missing (hmissing : w.storage.requests.requests.get? id = none) :
    (Requests.review id status).run.Obeys (watching supply) ⟨w, []⟩ fun outcome g =>
      outcome = .error (.requestNotFound id) ∧ g = ⟨w, [.getRequest id]⟩ := by
  simp only [Requests.review, Desk.obeys_within, Desk.obeys_bind, obeys_getRequest, hmissing]
  exact ⟨rfl, rfl⟩

theorem obeys_review_refused (hfound : w.storage.requests.requests.get? id = some r)
    (hmove : ¬ r.status.canMoveTo status) :
    (Requests.review id status).run.Obeys (watching supply) ⟨w, []⟩ fun outcome g =>
      outcome = .error (.invalidTransition id r.status status.name) ∧ g = ⟨w, [.getRequest id]⟩ := by
  simp only [Requests.review, Desk.obeys_within, Desk.obeys_bind, obeys_getRequest, hfound,
    Option.elim, hmove, Bool.not_false, if_true]
  exact ⟨rfl, rfl⟩

/-- The request is still what was looked at when it is moved. -/
theorem obeys_review_moved (hfound : w.storage.requests.requests.get? id = some r)
    (hpending : r.status = .pending) (hterminal : status.isTerminal) :
    (Requests.review id status).run.Obeys (watching supply) ⟨w, []⟩ fun outcome g =>
      outcome = .ok { r with status, updatedAt := supply.time w.timesRead } ∧
        g = ⟨Requests.moved supply w id r status,
          [.getRequest id, .transition id status (supply.time w.timesRead)]⟩ := by
  have hmove : RequestStatus.pending.canMoveTo status :=
    RequestStatus.canMoveTo_iff.2 ⟨rfl, hterminal⟩
  have htransition : w.storage.requests.transition id status (supply.time w.timesRead) =
      (some { r with status, updatedAt := supply.time w.timesRead },
        { requests := w.storage.requests.requests.set id
            { r with status, updatedAt := supply.time w.timesRead }
          pending := w.storage.requests.freed r id }) := by
    rcases w.storage.requests.transition_cases id status (supply.time w.timesRead) with
      ⟨hnot, -⟩ | ⟨r', hr', -, hdone⟩
    · exact absurd hpending (hnot r hfound)
    · obtain rfl := Option.some.inj (hfound.symm.trans hr')
      exact hdone
  simp only [Requests.review, Desk.obeys_within, Desk.obeys_bind, obeys_getRequest, hfound,
    Option.elim, hpending, hmove, Bool.not_true, Bool.false_eq_true, if_false, obeys_clock,
    obeys_perform, Watch.after, World.answer, Storage.memory, Store.execute]
  simp only [htransition, Requests.concludeReview, Desk.obeys_bind, obeys_measure,
    Desk.obeys_lift, obeys_announce, Desk.obeys_note]
  exact ⟨rfl, rfl⟩

/-- A word that is no status is refused by the look at the request. -/
theorem obeys_reviewByName_unknown {s : String} (hname : RequestStatus.ofName? s = none) :
    (Requests.reviewByName ⟨id, s⟩).run.Obeys (watching supply) ⟨w, []⟩ fun outcome g =>
      outcome = (w.storage.requests.requests.get? id).elim (.error (.requestNotFound id))
        (fun r => .error (.invalidTransition id r.status s)) ∧ g.world = w := by
  simp only [Requests.reviewByName, hname, Desk.obeys_bind, obeys_getRequest]
  cases w.storage.requests.requests.get? id with
  | none => exact ⟨rfl, rfl⟩
  | some r => exact ⟨rfl, rfl⟩

/-- Whatever the request is, the statements of a review are the look-up and at most the move: a
second look-up would be that of a review that lost. -/
theorem obeys_review_statements (supply : Supply) (w : World Store) (id : String)
    (status : RequestStatus) :
    (Requests.review id status).run.Obeys (watching supply) ⟨w, []⟩ fun _ g =>
      g.made <+: [.getRequest id, .transition id status (supply.time w.timesRead)] := by
  have hlooked : [Statement.getRequest id] <+:
      [.getRequest id, .transition id status (supply.time w.timesRead)] := ⟨_, rfl⟩
  cases hfound : w.storage.requests.requests.get? id with
  | none => exact (obeys_review_missing hfound).mono fun _ _ h => h.2 ▸ hlooked
  | some r =>
    by_cases hmove : r.status.canMoveTo status
    · obtain ⟨hpending, hterminal⟩ := RequestStatus.canMoveTo_iff.1 hmove
      exact (obeys_review_moved hfound hpending hterminal).mono fun _ _ h => h.2 ▸ List.prefix_rfl
    · exact (obeys_review_refused hfound hmove).mono fun _ _ h => h.2 ▸ hlooked

end watching

/-! ## Outcomes

What was followed case by case is collected in one relation between the word, the request that is
stored, the outcome and the surroundings afterwards. -/

namespace Requests

variable {supply : Supply} {w : World Store} {id s : String}

/-- What can come of a review by a word, with the surroundings that it leaves. -/
inductive Reviewed (supply : Supply) (w : World Store) (id s : String) :
    Except DeskError Request × World Store → Prop
  | missing {w'} : w.storage.requests.requests.get? id = none → w.Alike w' →
      Reviewed supply w id s (.error (.requestNotFound id), w')
  | refused {w'} (r : Request) : w.storage.requests.requests.get? id = some r →
      ¬ (r.status = .pending ∧ Ends s) → w.Alike w' →
      Reviewed supply w id s (.error (.invalidTransition id r.status s), w')
  | moved {w'} (r : Request) (status : RequestStatus) :
      w.storage.requests.requests.get? id = some r → r.status = .pending → s = status.name →
      status.isTerminal → (moved supply w id r status).Alike w' →
      Reviewed supply w id s (.ok { r with status, updatedAt := supply.time w.timesRead }, w')

/-- What a program under watch ends with is what it ends with, up to the log. -/
theorem Reviewed.of_watched {p : Program (Except DeskError Request)}
    (h : p.Obeys (watching supply) ⟨w, []⟩ fun outcome g =>
      ∀ w', g.world.Alike w' → Reviewed supply w id s (outcome, w')) :
    Reviewed supply w id s (World.run .memory supply p w) := by
  obtain ⟨g, hreviewed, halike, -⟩ := watching.run h
  exact hreviewed _ halike

theorem reviewed_review (supply : Supply) (w : World Store) (id : String) (status : RequestStatus) :
    Reviewed supply w id status.name (World.run .memory supply (review id status).run w) := by
  refine Reviewed.of_watched ?_
  cases hfound : w.storage.requests.requests.get? id with
  | none =>
    refine (watching.obeys_review_missing hfound).mono ?_
    rintro _ _ ⟨rfl, rfl⟩ w' halike
    exact .missing hfound halike
  | some r =>
    by_cases hmove : r.status.canMoveTo status
    · obtain ⟨hpending, hterminal⟩ := RequestStatus.canMoveTo_iff.1 hmove
      refine (watching.obeys_review_moved hfound hpending hterminal).mono ?_
      rintro _ _ ⟨rfl, rfl⟩ w' halike
      exact .moved r status hfound hpending rfl hterminal halike
    · have hrefused : ¬ (r.status = .pending ∧ Ends status.name) := fun ⟨hpending, hends⟩ =>
        hmove (RequestStatus.canMoveTo_iff.2 ⟨hpending, ends_name.1 hends⟩)
      refine (watching.obeys_review_refused hfound hmove).mono ?_
      rintro _ _ ⟨rfl, rfl⟩ w' halike
      exact .refused r hfound hrefused halike

theorem reviewed_byName (supply : Supply) (w : World Store) (id s : String) :
    Reviewed supply w id s (World.run .memory supply (reviewByName ⟨id, s⟩).run w) := by
  cases hname : RequestStatus.ofName? s with
  | some status =>
    obtain rfl := RequestStatus.ofName?_eq_some.1 hname
    rw [reviewByName_name]
    exact reviewed_review supply w id status
  | none =>
    have hends : ¬ Ends s := by
      intro h
      obtain ⟨status, rfl, -⟩ := h.exists_name
      rw [RequestStatus.ofName?_eq_some.2 rfl] at hname
      exact absurd hname nofun
    refine Reviewed.of_watched ((watching.obeys_reviewByName_unknown hname).mono ?_)
    rintro _ g ⟨rfl, hworld⟩ w' halike
    rw [hworld] at halike
    cases hfound : w.storage.requests.requests.get? id with
    | none => exact .missing hfound halike
    | some r => exact .refused r hfound (fun h => hends h.2) halike

namespace Reviewed

variable {o : Except DeskError Request × World Store}

/-- To find a pending request and to say one of the two words is to succeed. -/
theorem ok_iff (h : Reviewed supply w id s o) : (∃ updated, o.1 = .ok updated) ↔
    (∃ r, w.storage.requests.requests.get? id = some r ∧ r.status = .pending) ∧ Ends s := by
  cases h with
  | missing hmissing _ =>
    refine iff_of_false nofun ?_
    rintro ⟨⟨r, hr, -⟩, -⟩
    exact absurd (hmissing.symm.trans hr) nofun
  | refused r hr hnot _ =>
    refine iff_of_false nofun ?_
    rintro ⟨⟨r', hr', hpending⟩, hends⟩
    obtain rfl := Option.some.inj (hr.symm.trans hr')
    exact hnot ⟨hpending, hends⟩
  | moved r status hr hpending hs hterminal _ =>
    exact iff_of_true ⟨_, rfl⟩ ⟨⟨r, hr, hpending⟩, hs ▸ ends_name.2 hterminal⟩

theorem exists_of_ok (h : Reviewed supply w id s o) {updated : Request} (hok : o.1 = .ok updated) :
    ∃ r status, w.storage.requests.requests.get? id = some r ∧ s = status.name ∧
      updated = { r with status, updatedAt := supply.time w.timesRead } ∧
      (Requests.moved supply w id r status).Alike o.2 := by
  cases h with
  | missing _ _ => exact absurd hok nofun
  | refused _ _ _ _ => exact absurd hok nofun
  | moved r status hr _ hs _ halike =>
    exact ⟨r, status, hr, hs, (Except.ok.inj hok).symm, halike⟩

theorem eq_of_missing (h : Reviewed supply w id s o)
    (hmissing : w.storage.requests.requests.get? id = none) :
    o.1 = .error (.requestNotFound id) := by
  cases h with
  | missing _ _ => rfl
  | refused r hr _ _ => exact absurd (hmissing.symm.trans hr) nofun
  | moved r status hr _ _ _ _ => exact absurd (hmissing.symm.trans hr) nofun

theorem eq_of_refused (h : Reviewed supply w id s o) {r : Request}
    (hr : w.storage.requests.requests.get? id = some r) (hnot : ¬ (r.status = .pending ∧ Ends s)) :
    o.1 = .error (.invalidTransition id r.status s) := by
  cases h with
  | missing hmissing _ => exact absurd (hmissing.symm.trans hr) nofun
  | refused r' hr' _ _ =>
    obtain rfl := Option.some.inj (hr.symm.trans hr')
    rfl
  | moved r' status hr' hpending hs hterminal _ =>
    obtain rfl := Option.some.inj (hr.symm.trans hr')
    exact absurd ⟨hpending, hs ▸ ends_name.2 hterminal⟩ hnot

/-- Who fails changes nothing. -/
theorem alike_of_error (h : Reviewed supply w id s o) {error : DeskError}
    (herror : o.1 = .error error) : w.Alike o.2 := by
  cases h with
  | missing _ halike => exact halike
  | refused _ _ _ halike => exact halike
  | moved _ _ _ _ _ _ _ => exact absurd herror nofun

end Reviewed

/-- A review by a status is that by its name, and looks at the request once. -/
theorem review_eq_byName (supply : Supply) (w : World Store) (id : String) (status : RequestStatus) :
    World.run .memory supply (review id status).run w =
        World.run .memory supply (reviewByName ⟨id, status.name⟩).run w ∧
      ((review id status).run.calls (World.answer .memory supply) w).filterMap Call.statement? <+:
        [.getRequest id, .transition id status (supply.time w.timesRead)] := by
  obtain ⟨g, hprefix, -, hmade⟩ := watching.run (watching.obeys_review_statements supply w id status)
  rw [reviewByName_name, ← hmade]
  exact ⟨rfl, hprefix⟩

/-- A review by a word that nobody interrupts. It succeeds if and only if the request is there and
pending and the word is one of the two that end its wait; the request is then returned and stored
with the status of that name and the time of the review. It fails because the request is missing,
whatever the word is, or else because the request cannot move from its status by that word, and then
nothing changes. A review by a status is that by its name, and never looks at the request a second
time: the branch of a review that another one has overtaken is not entered. -/
theorem review_outcomes (supply : Supply) (w : World Store) (id s : String) :
    let found := w.storage.requests.requests.get? id
    let served := World.run .memory supply (reviewByName ⟨id, s⟩).run w
    ((∃ updated, served.1 = .ok updated) ↔
      (∃ r, found = some r ∧ r.status = .pending) ∧ (s = "APPROVED" ∨ s = "REJECTED")) ∧
    (∀ updated, served.1 = .ok updated → ∃ r status, found = some r ∧ s = status.name ∧
      updated = { r with status, updatedAt := supply.time w.timesRead } ∧
      (moved supply w id r status).Alike served.2) ∧
    (found = none → served.1 = .error (.requestNotFound id)) ∧
    (∀ r, found = some r → ¬ (r.status = .pending ∧ (s = "APPROVED" ∨ s = "REJECTED")) →
      served.1 = .error (.invalidTransition id r.status s)) ∧
    (∀ error, served.1 = .error error → w.Alike served.2) ∧
    ∀ status : RequestStatus,
      World.run .memory supply (review id status).run w =
        World.run .memory supply (reviewByName ⟨id, status.name⟩).run w ∧
      ((review id status).run.calls (World.answer .memory supply) w).filterMap Call.statement? <+:
        [.getRequest id, .transition id status (supply.time w.timesRead)] := by
  intro found served
  have hreviewed : Reviewed supply w id s served := reviewed_byName supply w id s
  exact ⟨hreviewed.ok_iff, fun _ => hreviewed.exists_of_ok, hreviewed.eq_of_missing,
    fun _ => hreviewed.eq_of_refused, fun _ => hreviewed.alike_of_error,
    fun status => review_eq_byName supply w id status⟩

/-- After an application, a word in small letters is refused with the word as it was said, a request
that nobody has made is missing, and one of the two words moves the request. -/
theorem review_outcomes_of_application :
    let w := (Errand.runAll .growing (.ofCapacity 1) Errand.round
      (.replicate 9 0 ++ .replicate 11 1)).state
    let served := fun id s => World.run .memory .growing (reviewByName ⟨id, s⟩).run w
    (∃ r, w.storage.requests.requests.get? "xx" = some r ∧ r.status = .pending) ∧
      (served "xx" "approved").1 = .error (.invalidTransition "xx" .pending "approved") ∧
      (served "x" "approved").1 = .error (.requestNotFound "x") ∧
      ∃ updated, (served "xx" "REJECTED").1 = .ok updated ∧ updated.status = .rejected := by
  intro w served
  obtain ⟨r, hr, hpending⟩ : ∃ r, w.storage.requests.requests.get? "xx" = some r ∧
      r.status = .pending := ⟨_, rfl, rfl⟩
  obtain ⟨-, -, -, hrefused, -⟩ := review_outcomes .growing w "xx" "approved"
  obtain ⟨-, -, hmissing, -⟩ := review_outcomes .growing w "x" "approved"
  obtain ⟨hsucceeds, hmoved, -⟩ := review_outcomes .growing w "xx" "REJECTED"
  obtain ⟨updated, hupdated⟩ := hsucceeds.2 ⟨⟨r, hr, hpending⟩, .inr rfl⟩
  obtain ⟨_, status, -, hstatus, rfl, -⟩ := hmoved _ hupdated
  refine ⟨⟨r, hr, hpending⟩, ?_, hmissing rfl, _, hupdated, ?_⟩
  · rw [← hpending]
    exact hrefused r hr (by simp)
  · exact Option.some.inj ((RequestStatus.ofName?_eq_some.2 hstatus).symm.trans rfl)

end Requests
end RewardDesk
