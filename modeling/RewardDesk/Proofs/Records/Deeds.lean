import RewardDesk.Proofs.Links.Book
import RewardDesk.Proofs.Requests.Announcements
import RewardDesk.Proofs.Requests.PendingIndex

/-!
# Deeds

What a statement does to the records, if it does anything: `Statement.deed` reads it off the answer,
`Deed.apply` is the store in which it is done, and `Deed.Fits` says in which stores it may be done.
A statement that is in its place does what it has answered and nothing else
(`Store.leads_execute`).

A deed that fits takes no event, reward or request away and changes only what may change about them
(`Deed.Fits.ages`): from one moment to the next a store does nothing but age (`Store.Ages`).
-/

namespace RewardDesk

/-! ## Deeds

There are seven things that can happen to the records, and a statement does one of them or nothing.
Which it was can be told from the answer alone, so whoever makes the call knows as well as the
storage. -/

/-- What can be done to the records. -/
inductive Deed where
  | eventCreated (e : Event)
  | eventReplaced (e : Event)
  | rewardCreated (r : Reward)
  | linkAdded (l : Link)
  | linkRemoved (eventId rewardId : String)
  | requestCreated (r : Request)
  | requestReviewed (r : Request)

/-- What a statement has done, to judge by its answer. -/
def Statement.deed : (q : Statement) → q.Result → Option Deed
  | .createEvent e, _ => some (.eventCreated e)
  | .updateEvent e, true => some (.eventReplaced e)
  | .createReward r, _ => some (.rewardCreated r)
  | .addLink l, true => some (.linkAdded l)
  | .removeLink eventId rewardId, true => some (.linkRemoved eventId rewardId)
  | .createPending r, true => some (.requestCreated r)
  | .transition .., some r => some (.requestReviewed r)
  | _, _ => none

/-- Can the statement do this? -/
def Statement.Does : Statement → Deed → Prop
  | .createEvent e, d => d = .eventCreated e
  | .updateEvent e, d => d = .eventReplaced e
  | .createReward r, d => d = .rewardCreated r
  | .addLink l, d => d = .linkAdded l
  | .removeLink eventId rewardId, d => d = .linkRemoved eventId rewardId
  | .createPending r, d => d = .requestCreated r
  | .transition .., d => ∃ r, d = .requestReviewed r
  | _, _ => False

theorem Statement.does_of_deed {q : Statement} {result : q.Result} {d : Deed}
    (h : q.deed result = some d) : q.Does d := by
  cases q with
  | createEvent _ | createReward _ => exact (Option.some.inj h).symm
  | updateEvent _ | addLink _ | removeLink _ _ | createPending _ =>
    cases result with
    | false => exact absurd h nofun
    | true => exact (Option.some.inj h).symm
  | transition id status time =>
    cases result with
    | none => exact absurd h nofun
    | some r => exact ⟨r, (Option.some.inj h).symm⟩
  | _ => exact absurd h nofun

namespace Deed

/-- The store in which it is done. Nothing but the one record is touched, and for a request its
entry in the index. -/
def apply : Deed → Store → Store
  | .eventCreated e, s => { s with events := s.events.set e.id e }
  | .eventReplaced e, s => { s with events := s.events.set e.id e }
  | .rewardCreated r, s => { s with rewards := s.rewards.set r.id r }
  | .linkAdded l, s => { s with links := ⟨s.links.links.set (LinkBook.key l.eventId l.rewardId) l⟩ }
  | .linkRemoved eventId rewardId, s =>
    { s with links := ⟨s.links.links.erase (LinkBook.key eventId rewardId)⟩ }
  | .requestCreated r, s =>
    { s with requests := ⟨s.requests.requests.set r.id r, s.requests.pending.set r.applicant r.id⟩ }
  | .requestReviewed r, s =>
    { s with requests := ⟨s.requests.requests.set r.id r, s.requests.pending.erase r.applicant⟩ }

/-- What is created is new, and what is replaced or removed is there. -/
def Fits : Deed → Store → Prop
  | .eventCreated e, s => s.events.get? e.id = none
  | .eventReplaced e, s => ∃ old, s.events.get? e.id = some old ∧ old.id = e.id ∧
      old.createdAt = e.createdAt
  | .rewardCreated r, s => s.rewards.get? r.id = none
  | .linkAdded l, s => s.links.links.get? (LinkBook.key l.eventId l.rewardId) = none
  | .linkRemoved eventId rewardId, s =>
    ∃ l, s.links.links.get? (LinkBook.key eventId rewardId) = some l
  | .requestCreated r, s => r.status = .pending ∧ s.requests.requests.get? r.id = none ∧
      s.requests.pending.get? r.applicant = none
  | .requestReviewed r, s => r.status.isTerminal ∧ s.requests.pending.get? r.applicant = some r.id ∧
      ∃ old, s.requests.requests.get? r.id = some old ∧ old.status = .pending ∧
        r = { old with status := r.status, updatedAt := r.updatedAt }

/-- What leads from one store to another: a deed, or nothing. -/
def Leads : Option Deed → Store → Store → Prop
  | none, s, s' => s' = s
  | some d, s, s' => d.Fits s ∧ s' = d.apply s

end Deed

/-! ## Statements

The two accounts of a statement, what the storage makes of it and the deed that its answer stands
for, agree wherever the statement is in its place (`Store.leads_execute`). -/

namespace Store

theorem updateEvent_cases (s : Store) (e : Event) :
    (s.events.get? e.id = none ∧ s.execute (.updateEvent e) = (false, s)) ∨
      ∃ old, s.events.get? e.id = some old ∧
        s.execute (.updateEvent e) = (true, (Deed.eventReplaced e).apply s) := by
  have hexecute : s.execute (.updateEvent e) = ((s.events.replace e.id e).1,
      { s with events := (s.events.replace e.id e).2 }) := rfl
  rw [hexecute, Table.replace, Table.contains]
  cases hget : s.events.get? e.id with
  | none => exact .inl ⟨rfl, rfl⟩
  | some old => exact .inr ⟨old, rfl, rfl⟩

theorem addLink_cases (s : Store) (l : Link) :
    (s.execute (.addLink l) = (false, s)) ∨
      (s.links.links.get? (LinkBook.key l.eventId l.rewardId) = none ∧
        s.execute (.addLink l) = (true, (Deed.linkAdded l).apply s)) := by
  have hexecute : s.execute (.addLink l) =
      ((s.links.add l).1, { s with links := (s.links.add l).2 }) := rfl
  rw [hexecute]
  rcases s.links.add_cases l with ⟨-, hrefused⟩ | ⟨hvacant, hentered⟩
  · rw [hrefused]
    exact .inl rfl
  · rw [hentered]
    exact .inr ⟨hvacant, rfl⟩

theorem removeLink_cases (s : Store) (eventId rewardId : String) :
    (s.execute (.removeLink eventId rewardId) = (false, s)) ∨
      ∃ l, s.links.links.get? (LinkBook.key eventId rewardId) = some l ∧
        s.execute (.removeLink eventId rewardId) =
          (true, (Deed.linkRemoved eventId rewardId).apply s) := by
  have hexecute : s.execute (.removeLink eventId rewardId) =
      ((s.links.links.get? (LinkBook.key eventId rewardId)).isSome,
        { s with links := ⟨s.links.links.erase (LinkBook.key eventId rewardId)⟩ }) := rfl
  rw [hexecute]
  cases hget : s.links.links.get? (LinkBook.key eventId rewardId) with
  | none =>
    rw [Table.erase_of_get?_eq_none hget]
    exact .inl rfl
  | some l => exact .inr ⟨l, rfl, rfl⟩

/-- A statement that has done nothing has left the store alone. -/
theorem execute_of_deed_eq_none {s : Store} {q : Statement} (h : q.deed (s.execute q).1 = none) :
    (s.execute q).2 = s := by
  cases q with
  | createEvent e => exact absurd h nofun
  | createReward r => exact absurd h nofun
  | updateEvent e =>
    rcases s.updateEvent_cases e with ⟨-, hnone⟩ | ⟨old, -, hdone⟩
    · rw [hnone]
    · rw [hdone] at h
      exact absurd h nofun
  | addLink l =>
    rcases s.addLink_cases l with hnone | ⟨-, hdone⟩
    · rw [hnone]
    · rw [hdone] at h
      exact absurd h nofun
  | removeLink eventId rewardId =>
    rcases s.removeLink_cases eventId rewardId with hnone | ⟨l, -, hdone⟩
    · rw [hnone]
    · rw [hdone] at h
      exact absurd h nofun
  | createPending r =>
    rw [execute] at h ⊢
    rcases s.requests.createPending_cases r with ⟨-, hrefused⟩ | ⟨-, hentered⟩
    · rw [hrefused]
    · rw [hentered] at h
      exact absurd h nofun
  | transition id status time =>
    rw [execute] at h ⊢
    rcases s.requests.transition_cases id status time with ⟨-, hnone⟩ | ⟨r, -, -, hmoved⟩
    · rw [hnone]
    · rw [hmoved] at h
      exact absurd h nofun
  | _ => rfl

/-- Is the statement in its place: what it creates is new, what it replaces is what is there as far
as it cannot change, and a review ends the wait? -/
def Awaits (s : Store) : Statement → Prop
  | .createEvent e => s.events.get? e.id = none
  | .updateEvent e => ∀ old, s.events.get? e.id = some old → old.createdAt = e.createdAt
  | .createReward r => s.rewards.get? r.id = none
  | .createPending r => r.status = .pending ∧ s.requests.requests.get? r.id = none
  | .transition _ status _ => status.isTerminal
  | _ => True

/-- A statement in its place keeps the index exact. -/
theorem exact_of_awaits {s : Store} {q : Statement} (h : s.requests.Exact) (hawaits : s.Awaits q) :
    (s.execute q).2.requests.Exact := by
  refine exact_execute h ?_ ?_
  · rintro r rfl
    exact hawaits.2
  · rintro id status time rfl
    exact hawaits

/-- A statement in its place does what it has answered. -/
theorem leads_execute {s : Store} {q : Statement} (hevents : s.events.Filed)
    (hfiled : s.requests.requests.Filed) (hexact : s.requests.Exact) (h : s.Awaits q) :
    Deed.Leads (q.deed (s.execute q).1) s (s.execute q).2 := by
  cases q with
  | createEvent e => exact ⟨h, rfl⟩
  | createReward r => exact ⟨h, rfl⟩
  | updateEvent e =>
    rcases s.updateEvent_cases e with ⟨-, hnone⟩ | ⟨old, hold, hdone⟩
    · rw [hnone]
      exact rfl
    · rw [hdone]
      exact ⟨⟨old, hold, hevents e.id old hold, h old hold⟩, rfl⟩
  | addLink l =>
    rcases s.addLink_cases l with hnone | ⟨hvacant, hdone⟩
    · rw [hnone]
      exact rfl
    · rw [hdone]
      exact ⟨hvacant, rfl⟩
  | removeLink eventId rewardId =>
    rcases s.removeLink_cases eventId rewardId with hnone | ⟨l, hl, hdone⟩
    · rw [hnone]
      exact rfl
    · rw [hdone]
      exact ⟨⟨l, hl⟩, rfl⟩
  | createPending r =>
    obtain ⟨hpending, hfree⟩ := h
    rw [execute]
    rcases s.requests.createPending_cases r with ⟨-, hrefused⟩ | ⟨hvacant, hentered⟩
    · rw [hrefused]
      exact rfl
    · have hr : { r with status := .pending } = r := by rw [← hpending]
      rw [hentered, hr]
      exact ⟨⟨hpending, hfree, hvacant⟩, rfl⟩
  | transition id status time =>
    rw [execute]
    rcases s.requests.transition_cases id status time with ⟨-, hnone⟩ | ⟨r, hr, hpending, hmoved⟩
    · rw [hnone]
      exact rfl
    -- The place in the index is held by this very request, so the review frees it.
    · obtain rfl : r.id = id := hfiled id r hr
      have hentry : s.requests.pending.get? r.applicant = some r.id :=
        (hexact r.applicant r.id).2 ⟨r, hr, rfl, hpending⟩
      rw [hmoved, RequestBook.freed, if_pos hentry]
      exact ⟨⟨h, hentry, r, hr, hpending, rfl⟩, rfl⟩
  | _ => exact rfl

end Store

/-! ## Ages

`Store.Ages` forgets which deeds were done and keeps what later readers rely on. It is transitive,
so it holds between any two moments of a run once it holds for single deeds. -/

/-- What becomes of a request: it stays as it is, or its wait ends. -/
def Request.Becomes (r r' : Request) : Prop :=
  r' = r ∨ r.status = .pending ∧ (r'.status = .approved ∨ r'.status = .rejected) ∧
    r' = { r with status := r'.status, updatedAt := r'.updatedAt }

theorem Request.Becomes.createdAt_eq {r r' : Request} (h : r.Becomes r') :
    r'.createdAt = r.createdAt := by
  rcases h with rfl | ⟨-, -, heq⟩
  · rfl
  · rw [heq]

/-- Whose wait has ended stays as it is. -/
theorem Request.Becomes.eq_of_changed {r r' r'' : Request} (h : r.Becomes r')
    (hchanged : r'.status ≠ r.status) (h' : r'.Becomes r'') : r'' = r' := by
  rcases h' with rfl | ⟨hpending', -⟩
  · rfl
  · rcases h with rfl | ⟨hpending, -⟩
    · exact absurd rfl hchanged
    · exact absurd (hpending'.trans hpending.symm) hchanged

namespace Store

/-- From one store to a later one: rewards are as they were, events are still there with the id and
the time of their creation, and requests become what can become of them. -/
structure Ages (s s' : Store) : Prop where
  events : ∀ id e, s.events.get? id = some e →
    ∃ e', s'.events.get? id = some e' ∧ e'.id = e.id ∧ e'.createdAt = e.createdAt
  rewards : ∀ id r, s.rewards.get? id = some r → s'.rewards.get? id = some r
  requests : ∀ id r, s.requests.requests.get? id = some r →
    ∃ r', s'.requests.requests.get? id = some r' ∧ r.Becomes r'

theorem Ages.refl (s : Store) : s.Ages s where
  events _ e h := ⟨e, h, rfl, rfl⟩
  rewards _ _ h := h
  requests _ r h := ⟨r, h, .inl rfl⟩

theorem Ages.trans {s s' s'' : Store} (h : s.Ages s') (h' : s'.Ages s'') : s.Ages s'' where
  events id e he := by
    obtain ⟨e', he', hid, hcreated⟩ := h.events id e he
    obtain ⟨e'', he'', hid', hcreated'⟩ := h'.events id e' he'
    exact ⟨e'', he'', hid'.trans hid, hcreated'.trans hcreated⟩
  rewards id r hr := h'.rewards id r (h.rewards id r hr)
  requests id r hr := by
    obtain ⟨r', hr', hbecomes⟩ := h.requests id r hr
    obtain ⟨r'', hr'', hbecomes'⟩ := h'.requests id r' hr'
    refine ⟨r'', hr'', ?_⟩
    rcases hbecomes with rfl | ⟨hpending, hterminal, heq⟩
    · exact hbecomes'
    -- A wait that has ended does not end again.
    · rcases hbecomes' with rfl | ⟨hpending', -⟩
      · exact .inr ⟨hpending, hterminal, heq⟩
      · rw [hpending'] at hterminal
        simp at hterminal

end Store

/-- A deed that fits lets the store age. -/
theorem Deed.Fits.ages {d : Deed} {s : Store} (h : d.Fits s) : s.Ages (d.apply s) := by
  have hsame := Store.Ages.refl s
  cases d with
  | eventCreated e =>
    exact { hsame with events := fun _ e' he' => ⟨e', Table.get?_set_of_vacant h he', rfl, rfl⟩ }
  | eventReplaced e =>
    obtain ⟨old, hold, hid, hcreated⟩ := h
    refine { hsame with events := fun id e' he' => ?_ }
    by_cases heq : id = e.id
    · subst heq
      obtain rfl := Option.some.inj (hold.symm.trans he')
      exact ⟨e, by simp [apply], hid.symm, hcreated.symm⟩
    · exact ⟨e', by simp [apply, heq, he'], rfl, rfl⟩
  | rewardCreated r =>
    exact { hsame with rewards := fun _ _ hr' => Table.get?_set_of_vacant h hr' }
  | linkAdded l => exact { hsame with }
  | linkRemoved eventId rewardId => exact { hsame with }
  | requestCreated r =>
    exact { hsame with
      requests := fun _ r' hr' => ⟨r', Table.get?_set_of_vacant h.2.1 hr', .inl rfl⟩ }
  | requestReviewed r =>
    obtain ⟨hterminal, -, old, hold, hpending, heq⟩ := h
    refine { hsame with requests := fun id r' hr' => ?_ }
    by_cases hid : id = r.id
    · subst hid
      obtain rfl := Option.some.inj (hold.symm.trans hr')
      exact ⟨r, by simp [apply], .inr ⟨hpending, RequestStatus.isTerminal_iff.1 hterminal, heq⟩⟩
    · exact ⟨r', by simp [apply, hid, hr'], .inl rfl⟩

theorem Deed.Leads.ages {deed : Option Deed} {s s' : Store} (h : Leads deed s s') : s.Ages s' := by
  cases deed with
  | none =>
    obtain rfl : s' = s := h
    exact .refl s'
  | some d =>
    obtain ⟨hfits, rfl⟩ := h
    exact hfits.ages

/-! ## Names

Only what creates a record gives a name, and it gives the one that it was told to. -/

/-- Is there an event, a reward or a request with the id? -/
def Store.Names (s : Store) (id : String) : Prop :=
  (∃ e, s.events.get? id = some e) ∨ (∃ r, s.rewards.get? id = some r) ∨
    ∃ r, s.requests.requests.get? id = some r

/-- The id of the record that is created. -/
def Deed.newId : Deed → Option String
  | .eventCreated e => some e.id
  | .rewardCreated r => some r.id
  | .requestCreated r => some r.id
  | _ => none

/-- A deed gives no id but that of the record which it creates. -/
theorem Deed.Fits.names_apply {d : Deed} {s : Store} {id : String} (h : d.Fits s)
    (hnames : (d.apply s).Names id) : s.Names id ∨ d.newId = some id := by
  rcases hnames with ⟨e, he⟩ | ⟨r, hr⟩ | ⟨r, hr⟩
  · have hbefore : (∃ e, s.events.get? id = some e) ∨ d.newId = some id := by
      cases d with
      | eventCreated e' =>
        rcases Table.eq_or_get?_of_set he with rfl | he
        · exact .inr rfl
        · exact .inl ⟨e, he⟩
      | eventReplaced e' =>
        obtain ⟨old, hold, -⟩ := h
        rcases Table.eq_or_get?_of_set he with rfl | he
        · exact .inl ⟨old, hold⟩
        · exact .inl ⟨e, he⟩
      | _ => exact .inl ⟨e, he⟩
    exact hbefore.imp_left .inl
  · have hbefore : (∃ r, s.rewards.get? id = some r) ∨ d.newId = some id := by
      cases d with
      | rewardCreated r' =>
        rcases Table.eq_or_get?_of_set hr with rfl | hr
        · exact .inr rfl
        · exact .inl ⟨r, hr⟩
      | _ => exact .inl ⟨r, hr⟩
    exact hbefore.imp_left fun hr => .inr (.inl hr)
  · have hbefore : (∃ r, s.requests.requests.get? id = some r) ∨ d.newId = some id := by
      cases d with
      | requestCreated r' =>
        rcases Table.eq_or_get?_of_set hr with rfl | hr
        · exact .inr rfl
        · exact .inl ⟨r, hr⟩
      | requestReviewed r' =>
        obtain ⟨-, -, old, hold, -⟩ := h
        rcases Table.eq_or_get?_of_set hr with rfl | hr
        · exact .inl ⟨old, hold⟩
        · exact .inl ⟨r, hr⟩
      | _ => exact .inl ⟨r, hr⟩
    exact hbefore.imp_left fun hr => .inr (.inr hr)

end RewardDesk
