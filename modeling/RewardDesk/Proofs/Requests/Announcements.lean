import RewardDesk.Proofs.Requests.Ids

/-!
# Announcements

What is published of reviews, and what is stored. Between the statement that carries out a review
and its publication other errands may do what they like, so the two are tied together by what
errands owe (`Errand.Mirrored`): every terminal request was published or is owed by exactly one
errand, and a terminal request never changes again.

`Errand.announcements_mirror_reviews` says what that means for whole runs.
-/

namespace RewardDesk

/-! ## What is published

The history of a crew lists every call with the errand that made it. What was published can be read
off it, in order, and calls that publish nothing leave it as it is. -/

/-- The change that a call publishes. -/
def Call.announced : Call → Option StatusChange
  | .publish change => some change
  | _ => none

/-- The changes that were published, in order. -/
def published {ι : Type} (history : List (ι × Call)) : List StatusChange :=
  history.filterMap fun e => e.2.announced

theorem published_append {ι : Type} (history : List (ι × Call)) (i : ι) (c : Call) :
    published (history ++ [(i, c)]) = published history ++ c.announced.toList := by
  rw [published, List.filterMap_append]
  cases h : c.announced with
  | none => simp [published, h]
  | some change => simp [published, h]

theorem published_of_silent {ι : Type} {history : List (ι × Call)} {i : ι} {c : Call}
    (h : c.announced = none) : published (history ++ [(i, c)]) = published history := by
  rw [published_append, h]
  exact List.append_nil _

theorem published_mono {ι : Type} {earlier later : List (ι × Call)} (h : earlier <+: later) :
    ∀ change ∈ published earlier, change ∈ published later := by
  obtain ⟨rest, rfl⟩ := h
  intro change hmem
  rw [published, List.filterMap_append]
  exact List.mem_append_left _ hmem

theorem RequestStatus.isTerminal_iff {status : RequestStatus} :
    status.isTerminal ↔ status = .approved ∨ status = .rejected := by
  cases status <;> simp [isTerminal]

/-! ## Debts

An errand owes the publication of a request (`Standing.owed`) from the statement that reviewed it
until the call that publishes it. In between its other calls leave the debt alone. -/

namespace Standing

/-- Only a review makes a debt, only a publication settles it. -/
theorem owed_after (g : Standing) (c : Call) (answer : c.Answer) (hpublish : c.announced = none)
    (hreview : ∀ id status time, c ≠ .statement (.transition id status time)) :
    (g.after c answer).owed = g.owed := by
  unfold after
  split
  all_goals first
    | rfl
    | exact absurd rfl (hreview _ _ _)
    | cases hpublish

/-- What was told cannot be taken back. -/
theorem told_after {g : Standing} {c : Call} {answer : c.Answer} (h : g.told) :
    (g.after c answer).told := by
  unfold after
  split
  all_goals first
    | exact h
    | rfl

end Standing

/-! ## The mirror

Published changes and terminal requests cannot agree at every moment, since the review comes first
and the publication later. What does hold at every moment is that each terminal request has its
change or has somebody who owes it, and never both (`Mirrored`). Two lemmas carry all cases: by
`frame` a call that publishes nothing and moves no request to a terminal status or back keeps the
mirror, and by `owe` and `publish` a debt begins and ends. -/

namespace Errand

variable {ι : Type} [DecidableEq ι] {supply : Supply}

/-- What was published mirrors what was reviewed, up to what is owed. -/
structure Mirrored (b : RequestBook) (history : List (ι × Call)) (acc : ι → Standing) : Prop where
  told : ∀ i change, (i, Call.publish change) ∈ history → (acc i).told
  owed : ∀ i u, (acc i).owed = some u → b.requests.get? u.id = some u ∧ u.status.isTerminal
  single : ∀ i j u v, (acc i).owed = some u → (acc j).owed = some v → u.id = v.id → i = j
  unpublished : ∀ i u, (acc i).owed = some u → ∀ change ∈ published history, change.requestId ≠ u.id
  once : ((published history).map (·.requestId)).Nodup
  stored : ∀ change ∈ published history, ∃ r, b.requests.get? change.requestId = some r ∧
    r.status.isTerminal ∧ change = .ofUpdated r .pending
  complete : ∀ id r, b.requests.get? id = some r → r.status.isTerminal →
    (∃ change ∈ published history, change.requestId = id) ∨ ∃ i u, (acc i).owed = some u ∧ u.id = id

namespace Mirrored

variable {b b' : RequestBook} {history : List (ι × Call)} {acc : ι → Standing}

omit [DecidableEq ι] in
theorem start : Mirrored .empty ([] : List (ι × Call)) fun _ => {} where
  told _ _ h := absurd h nofun
  owed _ _ h := absurd h nofun
  single _ _ _ _ h := absurd h nofun
  unpublished _ _ h := absurd h nofun
  once := List.nodup_nil
  stored _ h := absurd h nofun
  complete _ _ h := absurd h nofun

theorem told_append {i : ι} {c : Call} {answer : c.Answer} (h : Mirrored b history acc) :
    ∀ j change, (j, Call.publish change) ∈ history ++ [(i, c)] →
      (account acc i c answer j).told := by
  intro j change hmem
  by_cases hj : j = i
  · subst hj
    rw [account_self]
    rcases List.mem_append.1 hmem with hmem | hmem
    · exact Standing.told_after (h.told j change hmem)
    · obtain ⟨-, rfl⟩ := Prod.mk.inj (List.mem_singleton.1 hmem)
      rfl
  · rw [account_of_ne hj]
    rcases List.mem_append.1 hmem with hmem | hmem
    · exact h.told j change hmem
    · exact absurd (Prod.mk.inj (List.mem_singleton.1 hmem)).1 hj

/-- A call that publishes nothing and leaves terminal requests alone changes nothing. -/
theorem frame {i : ι} {c : Call} {answer : c.Answer} (h : Mirrored b history acc)
    (hpublish : c.announced = none)
    (howed : ((acc i).after c answer).owed = (acc i).owed)
    (hterminal : ∀ id r, r.status.isTerminal →
      (b'.requests.get? id = some r ↔ b.requests.get? id = some r)) :
    Mirrored b' (history ++ [(i, c)]) (account acc i c answer) := by
  have howes : ∀ j, (account acc i c answer j).owed = (acc j).owed := by
    intro j
    by_cases hj : j = i
    · subst hj
      rw [account_self, howed]
    · rw [account_of_ne hj]
  constructor
  case told => exact h.told_append
  all_goals
    simp only [howes, published_of_silent hpublish]
  case owed =>
    intro j u hj
    obtain ⟨hu, hstatus⟩ := h.owed j u hj
    exact ⟨(hterminal _ _ hstatus).2 hu, hstatus⟩
  case single => exact h.single
  case unpublished => exact h.unpublished
  case once => exact h.once
  case stored =>
    intro change hmem
    obtain ⟨r, hr, hstatus, hchange⟩ := h.stored change hmem
    exact ⟨r, (hterminal _ _ hstatus).2 hr, hstatus, hchange⟩
  case complete =>
    intro id r hr hstatus
    exact h.complete id r ((hterminal _ _ hstatus).1 hr) hstatus

/-- A request that is entered is pending, and under a free id. -/
theorem createPending {i : ι} {r : Request} {answer : Except StorageFault Bool}
    (h : Mirrored b history acc) (hfree : b.requests.get? r.id = none) :
    Mirrored (b.createPending r).2 (history ++ [(i, .statement (.createPending r))])
      (account acc i (.statement (.createPending r)) answer) := by
  refine h.frame rfl rfl fun id r' hstatus => ?_
  rcases b.createPending_cases r with ⟨-, hrefused⟩ | ⟨-, hentered⟩
  · rw [hrefused]
  · rw [hentered, Table.get?_set]
    by_cases hid : id = r.id
    · rw [if_pos hid, hid, hfree]
      constructor
      · intro heq
        rw [← Option.some.inj heq] at hstatus
        exact absurd hstatus nofun
      · intro heq
        exact absurd heq nofun
    · rw [if_neg hid]

/-- Of a request that becomes terminal nothing was published yet, but it is owed. -/
theorem owe {i : ι} {c : Call} {answer : c.Answer} {r u : Request} (h : Mirrored b history acc)
    (hpublish : c.announced = none) (hfree : (acc i).owed = none)
    (hafter : (acc i).after c answer = { acc i with owed := some u })
    (hr : b.requests.get? u.id = some r) (hpending : r.status = .pending)
    (hterminal : u.status.isTerminal)
    (hbook : ∀ id, b'.requests.get? id = if id = u.id then some u else b.requests.get? id) :
    Mirrored b' (history ++ [(i, c)]) (account acc i c answer) := by
  -- `r` is pending, so whatever is terminal in the book is another request, and untouched.
  have hothers : ∀ {id r'}, b.requests.get? id = some r' → r'.status.isTerminal →
      id ≠ u.id ∧ b'.requests.get? id = some r' := by
    intro id r' hr' hstatus
    have hne : id ≠ u.id := by
      rintro rfl
      rw [hr] at hr'
      rw [← Option.some.inj hr', hpending] at hstatus
      exact absurd hstatus nofun
    exact ⟨hne, by rw [hbook, if_neg hne, hr']⟩
  have hdebts : ∀ {j v}, (account acc i c answer j).owed = some v →
      (j = i ∧ v = u) ∨ (j ≠ i ∧ (acc j).owed = some v) := by
    intro j v hj
    rcases account_cases Standing.owed hj with ⟨rfl, hi⟩ | hj
    · rw [hafter] at hi
      exact .inl ⟨rfl, (Option.some.inj hi).symm⟩
    · exact .inr hj
  constructor
  case told => exact h.told_append
  case owed =>
    intro j v hj
    rcases hdebts hj with ⟨-, rfl⟩ | ⟨-, hj⟩
    · exact ⟨by rw [hbook, if_pos rfl], hterminal⟩
    · obtain ⟨hv, hstatus⟩ := h.owed j v hj
      exact ⟨(hothers hv hstatus).2, hstatus⟩
  case single =>
    intro j k v w hj hk hvw
    rcases hdebts hj with ⟨rfl, rfl⟩ | ⟨-, hj'⟩
    · rcases hdebts hk with ⟨rfl, -⟩ | ⟨-, hk'⟩
      · rfl
      · obtain ⟨hw, hstatus⟩ := h.owed k w hk'
        exact absurd hvw.symm (hothers hw hstatus).1
    · rcases hdebts hk with ⟨rfl, rfl⟩ | ⟨-, hk'⟩
      · obtain ⟨hv, hstatus⟩ := h.owed j v hj'
        exact absurd hvw (hothers hv hstatus).1
      · exact h.single j k v w hj' hk' hvw
  case unpublished =>
    intro j v hj change hmem
    rw [published_of_silent hpublish] at hmem
    rcases hdebts hj with ⟨-, rfl⟩ | ⟨-, hj'⟩
    · obtain ⟨r', hr', hstatus, -⟩ := h.stored change hmem
      exact (hothers hr' hstatus).1
    · exact h.unpublished j v hj' change hmem
  case once =>
    rw [published_of_silent hpublish]
    exact h.once
  case stored =>
    intro change hmem
    rw [published_of_silent hpublish] at hmem
    obtain ⟨r', hr', hstatus, hchange⟩ := h.stored change hmem
    exact ⟨r', (hothers hr' hstatus).2, hstatus, hchange⟩
  case complete =>
    intro id r' hr' hstatus
    rw [published_of_silent hpublish]
    by_cases hid : id = u.id
    · exact .inr ⟨i, u, by rw [account_self, hafter], hid.symm⟩
    · rw [hbook, if_neg hid] at hr'
      rcases h.complete id r' hr' hstatus with hmem | ⟨j, v, hj, hv⟩
      · exact .inl hmem
      · have hji : j ≠ i := by
          rintro rfl
          rw [hfree] at hj
          exact absurd hj nofun
        exact .inr ⟨j, v, by rw [account_of_ne hji, hj], hv⟩

/-- A review that is carried out becomes a debt. -/
theorem transition {i : ι} {id : String} {status : RequestStatus} {time : Instant}
    (h : Mirrored b history acc) (hfiled : b.requests.Filed) (hterminal : status.isTerminal)
    (hfree : (acc i).owed = none) :
    Mirrored (b.transition id status time).2 (history ++ [(i, .statement (.transition id status time))])
      (account acc i (.statement (.transition id status time))
        (.ok (b.transition id status time).1)) := by
  rcases b.transition_cases id status time with ⟨-, hnone⟩ | ⟨r, hr, hpending, hmoved⟩
  · rw [hnone]
    exact h.frame rfl rfl fun _ _ _ => Iff.rfl
  · have hid : r.id = id := hfiled id r hr
    subst hid
    rw [hmoved]
    exact h.owe rfl hfree rfl hr hpending hterminal fun id => Table.get?_set ..

/-- The publication of what is owed settles the debt. -/
theorem publish {i : ι} {u : Request} {n : Nat} (h : Mirrored b history acc)
    (howed : (acc i).owed = some u) :
    Mirrored b (history ++ [(i, .publish (.ofUpdated u .pending))])
      (account acc i (.publish (.ofUpdated u .pending)) n) := by
  have hpublished : published (history ++ [(i, .publish (.ofUpdated u .pending))]) =
      published history ++ [.ofUpdated u .pending] := published_append ..
  have hdebts : ∀ {j v}, (account acc i (.publish (.ofUpdated u .pending)) n j).owed = some v →
      j ≠ i ∧ (acc j).owed = some v := by
    intro j v hj
    rcases account_cases Standing.owed hj with ⟨-, hi⟩ | hj
    · exact absurd hi nofun
    · exact hj
  constructor
  · exact h.told_append
  · exact fun j v hj => h.owed j v (hdebts hj).2
  · exact fun j k v w hj hk => h.single j k v w (hdebts hj).2 (hdebts hk).2
  -- No two errands owe for one request, so what is published now is owed by nobody else.
  · intro j v hj change hmem
    obtain ⟨hji, hj'⟩ := hdebts hj
    rw [hpublished] at hmem
    rcases List.mem_append.1 hmem with hmem | hmem
    · exact h.unpublished j v hj' change hmem
    · obtain rfl := List.mem_singleton.1 hmem
      exact fun heq => hji (h.single j i v u hj' howed heq.symm)
  · rw [hpublished, List.map_append]
    refine List.nodup_append.2 ⟨h.once, by simp, ?_⟩
    rintro x hx y hy rfl
    obtain ⟨change, hmem, rfl⟩ := List.mem_map.1 hx
    exact h.unpublished i u howed change hmem (List.mem_singleton.1 hy)
  · intro change hmem
    rw [hpublished] at hmem
    rcases List.mem_append.1 hmem with hmem | hmem
    · exact h.stored change hmem
    · obtain rfl := List.mem_singleton.1 hmem
      obtain ⟨hu, hstatus⟩ := h.owed i u howed
      exact ⟨u, hu, hstatus, rfl⟩
  · intro x r hr hstatus
    rw [hpublished]
    rcases h.complete x r hr hstatus with ⟨change, hmem, hid⟩ | ⟨j, v, hj, hv⟩
    · exact .inl ⟨change, List.mem_append_left _ hmem, hid⟩
    · by_cases hji : j = i
      · subst hji
        rw [howed] at hj
        obtain rfl := Option.some.inj hj
        exact .inl ⟨.ofUpdated u .pending, List.mem_append_right _ (List.mem_singleton.2 rfl), hv⟩
      · exact .inr ⟨j, v, by rw [account_of_ne hji, hj], hv⟩

/-! ## Every call

Of the statements only `createPending` and `transition` touch requests, so all others are cases of
`frame`. -/

/-- Every proper call keeps the mirror. -/
theorem call {w : World Store} {i : ι} {c : Call} (hfiled : w.storage.Filed)
    (hfresh : Fresh supply w.storage.requests w.idsGiven acc)
    (h : Mirrored w.storage.requests history acc) (hallows : (acc i).allows c) :
    Mirrored (World.answer .memory supply c w).2.storage.requests (history ++ [(i, c)])
      (account acc i c (World.answer .memory supply c w).1) := by
  cases c with
  | freshId => exact h.frame rfl rfl fun _ _ _ => Iff.rfl
  | clock => exact h.frame rfl rfl fun _ _ _ => Iff.rfl
  | measure m => exact h.frame rfl rfl fun _ _ _ => Iff.rfl
  | log entry => exact h.frame rfl rfl fun _ _ _ => Iff.rfl
  | publish change =>
    obtain ⟨u, howed, rfl⟩ := hallows
    exact h.publish howed
  | statement q =>
    by_cases hq : Store.changesRequests q
    · cases q with
      | createPending r => exact h.createPending (hfresh.unused i r.id hallows)
      | transition id status time => exact h.transition hfiled.requests hallows.1 hallows.2
      | _ => exact absurd hq id
    · have hreview : ∀ id status time, Call.statement q ≠ .statement (.transition id status time) := by
        rintro id status time heq
        obtain rfl := Call.statement.inj heq
        exact hq trivial
      refine h.frame rfl (Standing.owed_after (acc i) _ _ rfl hreview) fun id r _ => ?_
      show (w.storage.execute q).2.requests.requests.get? id = some r ↔ _
      rw [Store.requests_execute hq]

end Mirrored

/-! ## Whole runs

When nobody is at work nobody owes, and then the mirror has no gaps: that a request is terminal and
that one change was published for it are the same. What is published stays published, so a change
can be compared with its request as it is stored after any later calls too. -/

theorem history_runAll_mono (supply : Supply) (channel : Channel StatusChange)
    (errands : ι → Errand) (schedule later : List ι) :
    (runAll supply channel errands schedule).history <+:
      (runAll supply channel errands (schedule ++ later)).history := by
  rw [runAll, runAll, Crew.run_append]
  exact Crew.history_run_mono later

/-- After any calls of any errands the mirror is there. -/
theorem exists_mirrored (hids : Function.Injective supply.id) (channel : Channel StatusChange)
    (errands : ι → Errand) (schedule : List ι) :
    let crew := runAll supply channel errands schedule
    ∃ acc : ι → Standing, Mirrored crew.state.storage.requests crew.history acc ∧
      (∀ i, i ∉ schedule → acc i = {}) ∧
      ∀ i outcome, crew.left i = .done outcome → conduct.Settled outcome (acc i) := by
  intro crew
  obtain ⟨acc, ⟨-, -, hmirrored⟩, hunmoved, hsettled⟩ := runAll_holds
    (fun w history acc => w.storage.Filed ∧ Fresh supply w.storage.requests w.idsGiven acc ∧
      Mirrored w.storage.requests history acc)
    (fun h hallows => ⟨World.filed_answer _ _ h.1, h.2.1.call hids hallows,
      h.2.2.call h.1 h.2.1 hallows⟩)
    channel errands schedule ⟨Store.filed_empty, Fresh.start supply, Mirrored.start⟩
  exact ⟨acc, hmirrored, hunmoved, hsettled⟩

/-- If no id is given out twice, then after any calls of any errands, in any order:

* no two changes were published for one request;
* every change that was published leads from pending to a terminal status, and says what is stored
  of its request now and after any further calls;
* when every errand is done or has not begun, a request is terminal if and only if exactly one
  change was published for it;
* an errand that failed has published nothing. -/
theorem announcements_mirror_reviews (hids : Function.Injective supply.id)
    (channel : Channel StatusChange) (errands : ι → Errand) (schedule : List ι) :
    let crew := runAll supply channel errands schedule
    ((published crew.history).map (·.requestId)).Nodup ∧
    (∀ change ∈ published crew.history, change.oldStatus = .pending ∧
      (change.newStatus = .approved ∨ change.newStatus = .rejected) ∧
      ∀ later, ∃ r,
        (runAll supply channel errands (schedule ++ later)).state.storage.requests.requests.get?
          change.requestId = some r ∧
        r.id = change.requestId ∧ r.userId = change.userId ∧ r.eventId = change.eventId ∧
        r.status = change.newStatus ∧ r.updatedAt = change.changedAt) ∧
    ((∀ i, i ∉ schedule ∨ ∃ outcome, crew.left i = .done outcome) →
      ∀ id r, crew.state.storage.requests.requests.get? id = some r →
        (r.status.isTerminal ↔ ((published crew.history).map (·.requestId)).count id = 1)) ∧
    ∀ i error, crew.left i = .done (.error error) →
      ∀ change, (i, .publish change) ∉ crew.history := by
  intro crew
  obtain ⟨acc, hmirrored, hunmoved, hsettled⟩ := exists_mirrored hids channel errands schedule
  refine ⟨hmirrored.once, fun change hmem => ?_, fun hrest id r hr => ?_, fun i error hdone => ?_⟩
  · obtain ⟨r, -, hstatus, rfl⟩ := hmirrored.stored change hmem
    refine ⟨rfl, RequestStatus.isTerminal_iff.1 hstatus, fun later => ?_⟩
    obtain ⟨_, hmirrored', -⟩ := exists_mirrored hids channel errands (schedule ++ later)
    have hfiled := (filed_runAll supply channel errands (schedule ++ later)).requests
    have hmem' := published_mono (history_runAll_mono supply channel errands schedule later) _ hmem
    obtain ⟨r', hr', -, hchange⟩ := hmirrored'.stored _ hmem'
    have hfields := StatusChange.mk.inj hchange
    exact ⟨r', hr', hfiled _ r' hr', hfields.2.1.symm, hfields.2.2.1.symm, hfields.2.2.2.2.1.symm,
      hfields.2.2.2.2.2.symm⟩
  -- Nobody is at work, so nobody owes: every terminal request was published.
  · have hsolvent : ∀ i, (acc i).owed = none := by
      intro i
      rcases hrest i with hidle | ⟨outcome, hdone⟩
      · rw [hunmoved i hidle]
      · exact (hsettled i outcome hdone).1
    constructor
    · intro hstatus
      rcases hmirrored.complete id r hr hstatus with ⟨change, hmem, hid⟩ | ⟨i, u, hi, -⟩
      · have hmem' : id ∈ (published crew.history).map (·.requestId) :=
          List.mem_map.2 ⟨change, hmem, hid⟩
        exact Nat.le_antisymm (List.nodup_iff_count.1 hmirrored.once id) (List.count_pos_iff.2 hmem')
      · rw [hsolvent i] at hi
        exact absurd hi nofun
    · intro hcount
      have hmem : id ∈ (published crew.history).map (·.requestId) := by
        rw [← List.count_pos_iff, hcount]
        exact Nat.one_pos
      obtain ⟨change, hchange, rfl⟩ := List.mem_map.1 hmem
      obtain ⟨r', hr', hstatus, -⟩ := hmirrored.stored change hchange
      rw [hr] at hr'
      rwa [Option.some.inj hr']
  · intro change hmem
    have htold := (hsettled i _ hdone).2 (hmirrored.told i change hmem)
    exact absurd htold nofun

/-- After a round of errands the request is terminal, and one change was published for it. -/
theorem announcements_mirror_reviews_of_round :
    Function.Injective Supply.growing.id ∧
      let schedule : List (Fin 3) := List.replicate 9 0 ++ List.replicate 11 1 ++ List.replicate 9 2
      let crew := runAll .growing (.ofCapacity 1) round schedule
      (∀ i, i ∉ schedule ∨ ∃ outcome, crew.left i = .done outcome) ∧
        ∃ r, crew.state.storage.requests.requests.get? "xx" = some r ∧ r.status.isTerminal ∧
          ((published crew.history).map (·.requestId)).count "xx" = 1 := by
  refine ⟨Supply.growing_injective, ?_⟩
  intro schedule crew
  have hrest : ∀ i, i ∉ schedule ∨ ∃ outcome, crew.left i = .done outcome := fun i =>
    match i with
    | 0 => .inr ⟨_, rfl⟩
    | 1 => .inr ⟨_, rfl⟩
    | 2 => .inr ⟨_, rfl⟩
  have hstored : crew.state.storage.requests.requests.get? "xx" =
      some ⟨"xx", "u", "x", .approved, default, default⟩ := by decide +kernel
  obtain ⟨-, -, hcount, -⟩ :=
    announcements_mirror_reviews Supply.growing_injective (.ofCapacity 1) round schedule
  exact ⟨hrest, _, hstored, rfl, (hcount hrest "xx" _ hstored).1 rfl⟩

end Errand
end RewardDesk
