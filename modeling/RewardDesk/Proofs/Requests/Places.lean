import Mathlib.Data.List.Induction
import RewardDesk.Proofs.History
import RewardDesk.Proofs.Store.Filed

/-!
# Requests that are moved to pending

The book moves a pending request to any status, and so also to the one that it has. Such a request
is renewed: it is pending as before, but its place in the index is free. From then on the index
knows all pending requests but the renewed ones (`RequestBook.ExactBut`), and each statement keeps
it so.

`Store.places_kept_unless_renewed` says what that means for applications after any statements, and
`Store.place_lost` that a renewed request does not keep its applicant from a second one.
-/

namespace RewardDesk

namespace RequestBook

variable {b : RequestBook}

/-! ## The index

The exact index (`RequestBook.Exact`) is the case in which nothing was renewed. To allow for renewed
requests is to weaken one direction only: an entry still belongs to a pending request, but not every
pending request has an entry any more. -/

/-- A review takes the entry of its request out of the index, if it is there. -/
theorem get?_freed {r : Request} {id x : String} {a : Applicant} :
    (b.freed r id).get? a = some x ↔
      b.pending.get? a = some x ∧ ¬ (a = r.applicant ∧ x = id) := by
  by_cases hentry : b.pending.get? r.applicant = some id
  · rw [freed, if_pos hentry, Table.get?_erase]
    by_cases ha : a = r.applicant
    · subst ha
      simp [hentry, eq_comm]
    · simp [ha]
  · rw [freed, if_neg hentry]
    refine ⟨fun h => ⟨h, ?_⟩, And.left⟩
    rintro ⟨rfl, rfl⟩
    exact hentry h

/-- The index has an entry for a user and an event if and only if their request is pending and is
none of those that were renewed. -/
def ExactBut (renewed : String → Prop) (b : RequestBook) : Prop :=
  ∀ a id, b.pending.get? a = some id ↔
    ∃ r, b.requests.get? id = some r ∧ r.applicant = a ∧ r.status = .pending ∧ ¬ renewed id

variable {renewed : String → Prop}

theorem exactBut_empty : empty.ExactBut renewed := by
  intro a id
  simp [empty]

/-- To enter a request under a free id keeps the index exact. -/
theorem ExactBut.createPending {r : Request} (h : b.ExactBut renewed)
    (hfree : b.requests.get? r.id = none) (hnew : ¬ renewed r.id) :
    (b.createPending r).2.ExactBut renewed := by
  rcases b.createPending_cases r with ⟨-, hrefused⟩ | ⟨hvacant, hentered⟩
  · rwa [hrefused]
  · rw [hentered]
    intro a id
    rw [Table.get?_set, Table.get?_set]
    by_cases hid : id = r.id
    · subst hid
      -- No entry can lead to an id that was free.
      have hnone : b.pending.get? a ≠ some r.id := by
        intro hentry
        obtain ⟨r', hr', -⟩ := (h a r.id).1 hentry
        rw [hfree] at hr'
        exact absurd hr' nofun
      by_cases ha : a = r.applicant
      · exact iff_of_true (if_pos ha) ⟨_, if_pos rfl, ha.symm, rfl, hnew⟩
      · rw [if_neg ha, if_pos rfl]
        refine iff_of_false hnone ?_
        rintro ⟨r', hr', happ, -⟩
        obtain rfl := Option.some.inj hr'
        exact ha happ.symm
    · by_cases ha : a = r.applicant
      · subst ha
        have hothers := h r.applicant id
        rw [hvacant] at hothers
        simpa [hid, Ne.symm hid] using hothers
      · simpa [hid, ha] using h a id

/-- To move a request keeps the index exact, but for the request itself if it is moved to
pending. -/
theorem ExactBut.transition {id : String} {status : RequestStatus} {time : Instant}
    (h : b.ExactBut renewed) :
    (b.transition id status time).2.ExactBut fun x =>
      renewed x ∨ x = id ∧ status = .pending ∧ (b.transition id status time).1.isSome := by
  rcases b.transition_cases id status time with ⟨-, hnone⟩ | ⟨r, hr, hpending, hmoved⟩
  · rw [hnone]
    simpa using h
  · rw [hmoved]
    intro a x
    rw [get?_freed, Table.get?_set]
    by_cases hx : x = id
    -- The moved request is not pending any more, or it is renewed; its entry is out either way.
    · subst hx
      rw [if_pos rfl]
      refine iff_of_false ?_ ?_
      · rintro ⟨hentry, hother⟩
        obtain ⟨r', hr', happ, -⟩ := (h a x).1 hentry
        rw [hr] at hr'
        obtain rfl := Option.some.inj hr'
        exact hother ⟨happ.symm, rfl⟩
      · rintro ⟨r', hr', -, hstatus, hold⟩
        obtain rfl := Option.some.inj hr'
        exact hold (.inr ⟨rfl, hstatus, rfl⟩)
    · simpa [hx] using h a x

/-- Of two pending requests of one applicant one was renewed. -/
theorem ExactBut.eq_or_renewed {id id' : String} {r r' : Request} (h : b.ExactBut renewed)
    (hr : b.requests.get? id = some r) (hr' : b.requests.get? id' = some r')
    (hpending : r.status = .pending) (hpending' : r'.status = .pending)
    (happ : r.applicant = r'.applicant) : r = r' ∨ renewed id ∨ renewed id' := by
  by_cases hold : renewed id
  · exact .inr (.inl hold)
  by_cases hold' : renewed id'
  · exact .inr (.inr hold')
  have hentry := (h r.applicant id).2 ⟨r, hr, rfl, hpending, hold⟩
  have hentry' := (h r.applicant id').2 ⟨r', hr', happ.symm, hpending', hold'⟩
  obtain rfl : id = id' := Option.some.inj (hentry.symm.trans hentry')
  exact .inl (Option.some.inj (hr.symm.trans hr'))

/-- Who is refused has a pending request that was not renewed. -/
theorem ExactBut.refused_iff (h : b.ExactBut renewed) (r : Request) :
    (b.createPending r).1 = false ↔ ∃ id r', b.requests.get? id = some r' ∧
      r'.applicant = r.applicant ∧ r'.status = .pending ∧ ¬ renewed id := by
  simp only [← h r.applicant]
  rcases b.createPending_cases r with ⟨hentry, hrefused⟩ | ⟨hvacant, hentered⟩
  · rw [hrefused]
    exact iff_of_true rfl (Option.isSome_iff_exists.1 hentry)
  · rw [hentered, hvacant]
    exact iff_of_false nofun nofun

end RequestBook

namespace Store

/-! ## Single statements

Statements are given to the storage directly here, so any of them may come with any values. The one
assumption is that requests are entered under new ids. -/

/-- The statement moves a pending request to pending. -/
def Renews (s : Store) (q : Statement) (id : String) : Prop :=
  ∃ time, q = .transition id .pending time ∧ (s.execute (.transition id .pending time)).1.isSome

theorem renews_transition {s : Store} {id x : String} {status : RequestStatus} {time : Instant} :
    s.Renews (.transition id status time) x ↔
      x = id ∧ status = .pending ∧ (s.requests.transition id status time).1.isSome := by
  constructor
  · rintro ⟨_, heq, hsome⟩
    obtain ⟨rfl, rfl, rfl⟩ := Statement.transition.inj heq
    exact ⟨rfl, rfl, hsome⟩
  · rintro ⟨rfl, rfl, hsome⟩
    exact ⟨time, rfl, hsome⟩

/-- What a statement renews is stored. -/
theorem Renews.isSome {s : Store} {q : Statement} {id : String} (h : s.Renews q id) :
    (s.requests.requests.get? id).isSome := by
  obtain ⟨time, rfl, hmoved⟩ := h
  have hmoved : (s.requests.transition id .pending time).1.isSome := hmoved
  rcases s.requests.transition_cases id .pending time with ⟨-, hnone⟩ | ⟨r, hr, -, -⟩
  · rw [hnone] at hmoved
    exact absurd hmoved nofun
  · exact Option.isSome_of_mem hr

/-- A request that is stored stays there. -/
theorem isSome_execute {s : Store} {key : String} (q : Statement)
    (h : (s.requests.requests.get? key).isSome) :
    ((s.execute q).2.requests.requests.get? key).isSome := by
  have hset : ∀ id r, ((s.requests.requests.set id r).get? key).isSome := by
    intro id r
    rw [Table.get?_set]
    split
    · rfl
    · exact h
  by_cases hq : changesRequests q
  · cases q with
    | createPending r =>
      show ((s.requests.createPending r).2.requests.get? key).isSome
      rcases s.requests.createPending_cases r with ⟨-, hrefused⟩ | ⟨-, hentered⟩
      · rwa [hrefused]
      · rw [hentered]
        exact hset r.id _
    | transition id status time =>
      show ((s.requests.transition id status time).2.requests.get? key).isSome
      rcases s.requests.transition_cases id status time with ⟨-, hnone⟩ | ⟨r, -, -, hmoved⟩
      · rwa [hnone]
      · rw [hmoved]
        exact hset id _
    | _ => exact hq.elim
  · rwa [requests_execute hq]

/-- A statement keeps the index exact, but for the request that it renews, if it enters requests
under new ids only. -/
theorem exactBut_execute {s : Store} {q : Statement} {renewed : String → Prop}
    (h : s.requests.ExactBut renewed)
    (hnew : ∀ r, q = .createPending r → s.requests.requests.get? r.id = none ∧ ¬ renewed r.id) :
    (s.execute q).2.requests.ExactBut fun id => renewed id ∨ s.Renews q id := by
  by_cases hq : changesRequests q
  · cases q with
    | createPending r =>
      obtain ⟨hfree, hunrenewed⟩ := hnew r rfl
      have hnone : ∀ id, ¬ s.Renews (.createPending r) id := fun id ⟨_, heq, _⟩ => nomatch heq
      simp only [hnone, or_false]
      exact h.createPending hfree hunrenewed
    | transition id status time =>
      simp only [renews_transition]
      exact h.transition
    | _ => exact hq.elim
  · have hnone : ∀ id, ¬ s.Renews q id := by
      rintro id ⟨time, rfl, -⟩
      exact hq trivial
    simp only [hnone, or_false]
    rwa [requests_execute hq]

/-! ## Statement after statement

Which requests were renewed is told by the statements that were carried out before, one by one. -/

/-- Among the statements one has moved a pending request to pending. -/
def Renewed (statements : List Statement) (id : String) : Prop :=
  ∃ earlier q, earlier ++ [q] <+: statements ∧ (after earlier).Renews q id

/-- Every request is entered under an id that no request has at that moment. -/
def EntersAnew (statements : List Statement) : Prop :=
  ∀ earlier r, earlier ++ [.createPending r] <+: statements →
    (after earlier).requests.requests.get? r.id = none

variable {statements : List Statement} {q : Statement} {id : String}

theorem renewed_concat :
    Renewed (statements ++ [q]) id ↔ Renewed statements id ∨ (after statements).Renews q id :=
  History.happened_concat

theorem entersAnew_concat : EntersAnew (statements ++ [q]) ↔ EntersAnew statements ∧
    ∀ r, q = .createPending r → (after statements).requests.requests.get? r.id = none := by
  constructor
  · intro h
    refine ⟨fun earlier r hsplit => h earlier r (hsplit.trans (List.prefix_append _ _)), ?_⟩
    rintro r rfl
    exact h statements r List.prefix_rfl
  · rintro ⟨h, hlast⟩ earlier r hsplit
    rcases List.prefix_concat_iff.1 hsplit with heq | hsplit
    · obtain ⟨rfl, hq⟩ := List.append_inj' heq rfl
      exact hlast r (List.singleton_inj.1 hq).symm
    · exact h earlier r hsplit

/-- What was renewed is stored. -/
theorem Renewed.isSome (h : Renewed statements id) :
    ((after statements).requests.requests.get? id).isSome := by
  induction statements using List.reverseRecOn with
  | nil =>
    obtain ⟨earlier, q, hsplit, -⟩ := h
    simp at hsplit
  | append_singleton statements q ih =>
    rw [after_concat]
    apply isSome_execute
    rcases renewed_concat.1 h with hbefore | hnow
    · exact ih hbefore
    · exact hnow.isSome

/-- After any statements the index knows all pending requests but those that were renewed. -/
theorem exactBut_after (h : EntersAnew statements) :
    (after statements).requests.ExactBut (Renewed statements) := by
  induction statements using List.reverseRecOn with
  | nil => exact RequestBook.exactBut_empty
  | append_singleton statements q ih =>
    have hrenewed : Renewed (statements ++ [q]) =
        fun id => Renewed statements id ∨ (after statements).Renews q id :=
      funext fun id => propext renewed_concat
    obtain ⟨hbefore, hlast⟩ := entersAnew_concat.1 h
    rw [after_concat, hrenewed]
    refine exactBut_execute (ih hbefore) fun r hr => ⟨hlast r hr, fun hold => ?_⟩
    have hstored := hold.isSome
    rw [hlast r hr] at hstored
    exact absurd hstored nofun

/-- After any statements that enter every request under a new id:

* of two pending requests of one user at one event one was renewed;
* an application is refused if and only if a request of that user at that event is pending and was
  not renewed;
* an application that is refused changes nothing. -/
theorem places_kept_unless_renewed (statements : List Statement) (hnew : EntersAnew statements) :
    let s := after statements
    (∀ r ∈ s.requests.requests.values, ∀ r' ∈ s.requests.requests.values,
      r.status = .pending → r'.status = .pending → r.userId = r'.userId → r.eventId = r'.eventId →
        r = r' ∨ Renewed statements r.id ∨ Renewed statements r'.id) ∧
    ∀ r, ((Storage.memory (.createPending r) s).1 = .ok false ↔
        ∃ r' ∈ s.requests.requests.values, r'.status = .pending ∧ r'.userId = r.userId ∧
          r'.eventId = r.eventId ∧ ¬ Renewed statements r'.id) ∧
      ((Storage.memory (.createPending r) s).1 = .ok false →
        (Storage.memory (.createPending r) s).2 = s) := by
  intro s
  have hexact : s.requests.ExactBut (Renewed statements) := exactBut_after hnew
  have hfiled : s.requests.requests.Filed := (filed_after statements).requests
  have happlicant : ∀ {r r' : Request}, r.applicant = r'.applicant ↔
      r.userId = r'.userId ∧ r.eventId = r'.eventId :=
    iff_of_eq (Applicant.mk.injEq ..)
  refine ⟨?_, fun r => ⟨?_, ?_⟩⟩
  · intro r hr r' hr' hpending hpending' huser hevent
    obtain ⟨id, hid⟩ := Table.mem_values.1 hr
    obtain ⟨id', hid'⟩ := Table.mem_values.1 hr'
    obtain rfl : r.id = id := hfiled id r hid
    obtain rfl : r'.id = id' := hfiled id' r' hid'
    exact hexact.eq_or_renewed hid hid' hpending hpending' (happlicant.2 ⟨huser, hevent⟩)
  · have hanswer : (Storage.memory (.createPending r) s).1 = .ok (s.requests.createPending r).1 := rfl
    rw [hanswer, Except.ok.injEq, hexact.refused_iff r]
    constructor
    · rintro ⟨id, r', hid, happ, hpending, hkept⟩
      obtain rfl : r'.id = id := hfiled id r' hid
      obtain ⟨huser, hevent⟩ := happlicant.1 happ
      exact ⟨r', Table.mem_values.2 ⟨r'.id, hid⟩, hpending, huser, hevent, hkept⟩
    · rintro ⟨r', hr', hpending, huser, hevent, hkept⟩
      obtain ⟨id, hid⟩ := Table.mem_values.1 hr'
      obtain rfl : r'.id = id := hfiled id r' hid
      exact ⟨r'.id, r', hid, happlicant.2 ⟨huser, hevent⟩, hpending, hkept⟩
  · intro hrefused
    rcases s.requests.createPending_cases r with ⟨-, hsame⟩ | ⟨-, hentered⟩
    · show { s with requests := (s.requests.createPending r).2 } = s
      rw [hsame]
    · have hanswer : (s.requests.createPending r).1 = false := Except.ok.inj hrefused
      rw [hentered] at hanswer
      exact absurd hanswer nofun

/-- To apply, to be moved to pending, and to apply again. -/
def applyTwice : List Statement :=
  [.createPending (.newPending "a" "u" "e" default), .transition "a" .pending default,
    .createPending (.newPending "b" "u" "e" default)]

theorem entersAnew_applyTwice : EntersAnew applyTwice := by
  have hnil : EntersAnew [] := fun earlier r hsplit => by simp at hsplit
  have hfirst : EntersAnew ([] ++ [.createPending (.newPending "a" "u" "e" default)]) :=
    entersAnew_concat.2 ⟨hnil, fun r hr => rfl⟩
  have hmoved : EntersAnew ([.createPending (.newPending "a" "u" "e" default)] ++
      [.transition "a" .pending default]) :=
    entersAnew_concat.2 ⟨hfirst, nofun⟩
  have hagain : EntersAnew ([.createPending (.newPending "a" "u" "e" default),
      .transition "a" .pending default] ++ [.createPending (.newPending "b" "u" "e" default)]) :=
    entersAnew_concat.2 ⟨hmoved, fun r hr => by
      obtain rfl := Statement.createPending.inj hr
      rfl⟩
  exact hagain

/-- The place is taken again by the second request, which was not renewed. -/
theorem places_kept_unless_renewed_of_applyTwice :
    EntersAnew applyTwice ∧
      (Storage.memory (.createPending (.newPending "c" "u" "e" default)) (after applyTwice)).1 =
        .ok false ∧
      ∃ r ∈ (after applyTwice).requests.requests.values, r.status = .pending ∧ r.userId = "u" ∧
        r.eventId = "e" ∧ ¬ Renewed applyTwice r.id := by
  obtain ⟨-, happly⟩ := places_kept_unless_renewed applyTwice entersAnew_applyTwice
  obtain ⟨hiff, -⟩ := happly (.newPending "c" "u" "e" default)
  have hrefused : (Storage.memory (.createPending (.newPending "c" "u" "e" default))
      (after applyTwice)).1 = .ok false := rfl
  exact ⟨entersAnew_applyTwice, hrefused, hiff.1 hrefused⟩

/-- A request that was moved to pending does not keep its applicant from a second one. -/
theorem place_lost :
    let s := after [.createPending (.newPending "a" "u" "e" default), .transition "a" .pending default]
    let again := Storage.memory (.createPending (.newPending "b" "u" "e" default)) s
    EntersAnew applyTwice ∧
      (∃ r ∈ s.requests.requests.values, r.status = .pending ∧ r.userId = "u" ∧ r.eventId = "e") ∧
      again.1 = .ok true ∧
      ∃ r ∈ again.2.requests.requests.values, ∃ r' ∈ again.2.requests.requests.values,
        r.status = .pending ∧ r'.status = .pending ∧ r.userId = r'.userId ∧
          r.eventId = r'.eventId ∧ r ≠ r' := by
  intro s again
  have hstored : s.requests.requests.values = [.newPending "a" "u" "e" default] := rfl
  have hboth : again.2.requests.requests.values =
      [.newPending "a" "u" "e" default, .newPending "b" "u" "e" default] := rfl
  refine ⟨entersAnew_applyTwice, ?_, rfl, ?_⟩
  · rw [hstored]
    exact ⟨_, List.mem_cons_self, rfl, rfl, rfl⟩
  · rw [hboth]
    exact ⟨_, List.mem_cons_self, _, List.mem_cons_of_mem _ List.mem_cons_self, rfl, rfl, rfl, rfl,
      by decide⟩

end Store
end RewardDesk
