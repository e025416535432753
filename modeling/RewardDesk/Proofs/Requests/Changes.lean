import RewardDesk.Proofs.Records.Effects

/-!
# Changes of status

Which requests have been reviewed from one store to a later one can be seen from the two stores
(`Store.changes`). One statement makes one such change at most (`Store.changes_execute`), and so
does an errand that nobody interrupts. What such an errand sends to the subscribers is just what it
has changed, whether it succeeds or fails (`Errand.sends_changes`).
-/

namespace RewardDesk

/-! ## Two stores compared

What has changed between two stores is read off the stores: every request that could have been moved
to where it is now, in the order of their ids. If only one request was written, there is one change
or none. -/

/-- What only one record of a table gives is all that its records give. -/
theorem Table.Filed.filterMap_values {α β : Type} [Recorded α] {t : Table String α} (h : t.Filed)
    {a : α} (ha : t.get? (Recorded.id a) = some a) {f : α → Option β}
    (hothers : ∀ b, t.get? (Recorded.id b) = some b → Recorded.id b ≠ Recorded.id a → f b = none) :
    t.values.filterMap f = (f a).toList := by
  have hnone : ∀ b ∈ t.values, Recorded.id b ≠ Recorded.id a → f b = none := by
    intro b hb hne
    exact hothers b (h.mem_values.1 hb) hne
  obtain ⟨former, latter, hsplit⟩ := List.append_of_mem (h.mem_values.2 ha)
  have hascending := h.ascending
  rw [hsplit] at hnone hascending ⊢
  obtain ⟨-, hlatter, hformer⟩ := List.pairwise_append.1 hascending
  have hformer' : former.filterMap f = [] := List.filterMap_eq_nil_iff.2 fun b hb =>
    hnone b (List.mem_append_left _ hb) (Std.ne_of_lt (hformer b hb a List.mem_cons_self))
  have hlatter' : latter.filterMap f = [] := List.filterMap_eq_nil_iff.2 fun b hb =>
    hnone b (List.mem_append_right _ (List.mem_cons_of_mem a hb))
      (Std.ne_of_lt ((List.pairwise_cons.1 hlatter).1 b hb)).symm
  rw [List.filterMap_append, hformer', List.filterMap_cons, hlatter']
  cases f a with
  | none => rfl
  | some b => rfl

/-- The change that has led to a request, if it was there and could be moved to where it is now. -/
def Request.changeSince (before : Table String Request) (r : Request) : Option StatusChange :=
  (before.get? r.id).bind fun old =>
    if old.status.canMoveTo r.status then some (.ofUpdated r old.status) else none

/-- The changes of status from one store to another, in the order of the requests. -/
def Store.changes (before after : Store) : List StatusChange :=
  after.requests.requests.values.filterMap (Request.changeSince before.requests.requests)

theorem RequestStatus.canMoveTo_self (status : RequestStatus) :
    status.canMoveTo status = false := by
  cases status <;> rfl

namespace Store

variable {s s' : Store}

/-- A request that is as it was has not changed. -/
theorem changes_eq_nil (h : s.Filed) (hsame : s'.requests.requests = s.requests.requests) :
    s.changes s' = [] := by
  refine List.filterMap_eq_nil_iff.2 fun r hr => ?_
  rw [hsame] at hr
  have hget : s.requests.requests.get? r.id = some r := h.requests.mem_values.1 hr
  simp [Request.changeSince, hget, RequestStatus.canMoveTo_self]

/-- Where one request was entered there is its change or none. -/
theorem changes_of_set (h : s.Filed) (r : Request)
    (hset : s'.requests.requests = s.requests.requests.set r.id r) :
    s.changes s' = (r.changeSince s.requests.requests).toList := by
  rw [changes, hset]
  refine (h.requests.set rfl).filterMap_values (by simp [Recorded.id]) fun other hget hne => ?_
  have hother : s.requests.requests.get? other.id = some other := by
    rwa [Table.get?_set, if_neg hne] at hget
  simp [Request.changeSince, hother, RequestStatus.canMoveTo_self]

end Store

/-! ## Single statements

Of all deeds only a review is worth a message. The comparison of the stores before and after a
statement says the same as the deed that the statement has done. -/

/-- What there is to say of a deed. -/
def Deed.change : Deed → Option StatusChange
  | .requestReviewed r => some (.ofUpdated r .pending)
  | _ => none

/-- There is nothing to say of a statement that leaves the requests alone. -/
theorem Statement.change_eq_none {q : Statement} (h : ¬ Store.changesRequests q)
    (result : q.Result) : (q.deed result).bind Deed.change = none := by
  cases hdeed : q.deed result with
  | none => rfl
  | some d =>
    have hdoes := does_of_deed hdeed
    cases q with
    | createPending _ | transition _ _ _ => exact absurd trivial h
    | createEvent _ | updateEvent _ | createReward _ | addLink _ | removeLink _ _ =>
      rw [show d = _ from hdoes]
      rfl
    | _ => exact absurd hdoes id

namespace Store

/-- A request that is entered is pending, which is no change. -/
theorem changes_createPending {s : Store} (h : s.Filed) (r : Request) :
    s.changes (s.execute (.createPending r)).2 = [] := by
  rw [execute]
  rcases s.requests.createPending_cases r with ⟨-, hrefused⟩ | ⟨-, hentered⟩
  · rw [hrefused]
    exact changes_eq_nil h rfl
  · rw [hentered]
    refine (changes_of_set h { r with status := .pending } ?_).trans ?_
    · rfl
    simp [Request.changeSince, RequestStatus.canMoveTo, RequestStatus.isTerminal]

/-- A review that is carried out is a change. -/
theorem changes_transition {s : Store} (h : s.Filed) {id : String} {status : RequestStatus}
    {time : Instant} (hterminal : status.isTerminal) :
    s.changes (s.execute (.transition id status time)).2 =
      ((s.execute (.transition id status time)).1.map fun u => .ofUpdated u .pending).toList := by
  rw [execute]
  rcases s.requests.transition_cases id status time with ⟨-, hnone⟩ | ⟨r, hr, hpending, hmoved⟩
  · rw [hnone]
    exact changes_eq_nil h rfl
  · obtain rfl : r.id = id := h.requests id r hr
    rw [hmoved]
    refine (changes_of_set h { r with status, updatedAt := time } ?_).trans ?_
    · rfl
    simp [Request.changeSince, hr, hpending, RequestStatus.canMoveTo, hterminal]

/-- What a statement has changed is what there is to say of its deed. -/
theorem changes_execute {s : Store} {q : Statement} {g : Docket} (h : s.Filed)
    (hallows : g.allows (.statement q)) :
    s.changes (s.execute q).2 = ((q.deed (s.execute q).1).bind Deed.change).toList := by
  by_cases hq : changesRequests q
  · cases q with
    | createPending r =>
      rw [changes_createPending h]
      cases (s.execute (.createPending r)).1 <;> rfl
    | transition id status time =>
      rw [changes_transition h hallows.2]
      cases (s.execute (.transition id status time)).1 <;> rfl
    | _ => exact absurd hq id
  · rw [Statement.change_eq_none hq]
    exact changes_eq_nil h (congrArg RequestBook.requests (requests_execute hq))

end Store

/-! ## Errands that work alone

An errand does one deed at most, so what it changes in all is what that deed changes, and this is
what it publishes. -/

/-- What an errand that works alone has changed is what there is to say of its deed. -/
structure Reported (before : Store) (w : World Store) (g : Docket) : Prop where
  filed : w.storage.Filed
  changes : before.changes w.storage = (g.deed.bind Deed.change).toList

theorem Reported.call {supply : Supply} {before w : World Store} {calls : List Call} {g : Docket}
    {c : Call} (h : Reported before.storage w g) (halone : Alone before w calls g)
    (hallows : g.allows c) :
    Reported before.storage (World.answer .memory supply c w).2
      (g.after c (World.answer .memory supply c w).1) where
  filed := World.filed_answer c w h.filed
  changes := by
    cases c with
    | statement q =>
      show before.storage.changes (w.storage.execute q).2 =
        ((g.after (.statement q) (.ok (w.storage.execute q).1)).deed.bind Deed.change).toList
      have hstep := w.storage.changes_execute h.filed hallows
      rw [Docket.deed_after_statement]
      cases hdeed : q.deed (w.storage.execute q).1 with
      | none =>
        rw [Store.execute_of_deed_eq_none hdeed]
        exact h.changes
      -- It is the first deed, so the store is still the one from before.
      | some d =>
        have hsame := halone.idle (Effected.deed_eq_none_of_allows hallows hdeed)
        rw [hdeed, hsame] at hstep
        rw [hsame]
        exact hstep
    | _ => exact h.changes

namespace Errand

variable {e : Errand} {answer : Json} {deed : Option Deed} {told : List StatusChange}

/-- Who has done something has told what there is to say of it. -/
theorem Did.told_eq (h : e.Did answer deed told) : told = (deed.bind Deed.change).toList := by
  cases e with
  | command name payload => cases h <;> rfl
  | review id status =>
    obtain ⟨r, -, rfl, rfl⟩ := h
    rfl

theorem told_of_ends {outcome : Except DeskError Json} {g : Docket}
    (h : Docket.Ends e.Did outcome g) : g.told = (g.deed.bind Deed.change).toList := by
  cases outcome with
  | ok answer => exact Did.told_eq h
  | error error =>
    obtain ⟨hdeed, htold⟩ := h
    rw [hdeed, htold]
    rfl

/-- An errand that nobody interrupts sends what it has changed to the subscribers, and nothing
else. -/
theorem sends_changes (supply : Supply) {w : World Store} (h : w.storage.Filed) (e : Errand) :
    let w' := (World.run .memory supply e.program w).2
    w'.channel = w.channel.sendAll (w.storage.changes w'.storage) ∧ w'.storage.Filed := by
  intro w'
  obtain ⟨g, ⟨halone, hreported⟩, hends⟩ := Contract.determined.run_alone
    (fun w' calls g => Alone w w' calls g ∧ Reported w.storage w' g)
    (fun h hallows => ⟨h.1.call, h.2.call h.1 hallows⟩)
    ⟨Alone.start w, h, Store.changes_eq_nil h rfl⟩ e.obeys_duty
  refine ⟨?_, hreported.filed⟩
  rw [halone.channel, told_of_ends hends, hreported.changes]

end Errand
end RewardDesk
