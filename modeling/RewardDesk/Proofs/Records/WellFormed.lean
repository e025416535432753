import RewardDesk.Proofs.Records.Care
import RewardDesk.Proofs.Records.InOrder

/-!
# Records that are well formed

While errands keep their dockets and take care, what they have found out is true of the records, and
the records are well formed (`Heeded`). If the time never goes back, no record was changed before it
was created (`Punctual`).

`Errand.records_well_formed` says this of all runs.
-/

namespace RewardDesk

variable {ι : Type} {supply : Supply} {w : World Store}

/-! ## What is found out

An errand that looks something up may rely on it later, while others are at work. What a call adds
to its insight is that the record was there at that moment. -/

namespace Insight

variable {g : Insight} {c : Call}

theorem event_after {id : String} {e : Event}
    (h : (g.after c (World.answer .memory supply c w).1).event = some (id, e)) :
    g.event = some (id, e) ∨ w.storage.events.get? id = some e := by
  cases c with
  | statement q =>
    cases q with
    | getEvent key =>
      obtain ⟨e', he', heq⟩ := Option.map_eq_some_iff.1 h
      obtain ⟨rfl, rfl⟩ := Prod.mk.inj heq
      exact .inr he'
    | _ => exact .inl h
  | _ => exact .inl h

theorem reward_after {id : String}
    (h : (g.after c (World.answer .memory supply c w).1).reward = some id) :
    g.reward = some id ∨ ∃ r, w.storage.rewards.get? id = some r := by
  cases c with
  | statement q =>
    cases q with
    | getReward key =>
      obtain ⟨r, hr, rfl⟩ := Option.map_eq_some_iff.1 h
      exact .inr ⟨r, hr⟩
    | _ => exact .inl h
  | _ => exact .inl h

end Insight

open Contract.determined (account account_cases bothAllow bothAfter)

/-! ## Well-formed records

That an insight stays true is the business of `Store.Ages`: no record that was looked at goes away,
and none of them loses what the errand relies on. So a deed that its errand has taken care of is
proper in the store that it meets (`Heeded.proper`), and proper deeds keep the records well
formed. -/

/-- The records are well formed, and what errands have found is there. -/
structure Heeded (s : Store) (acc : ι → Insight) : Prop where
  wellFormed : s.WellFormed
  event : ∀ i id e, (acc i).event = some (id, e) → e.Sound ∧ s.HasEvent id
  reward : ∀ i id, (acc i).reward = some id → s.HasReward id

namespace Heeded

variable {acc : ι → Insight} {i : ι}

theorem start {s : Store} (h : s.WellFormed) : Heeded s fun _ : ι => {} where
  wellFormed := h
  event _ _ _ hi := absurd hi nofun
  reward _ _ hi := absurd hi nofun

/-- What is allowed is a proper deed. -/
theorem proper {s : Store} {q : Statement} {d : Deed} (h : Heeded s acc)
    (hallows : (acc i).allows (.statement q)) (hdoes : q.Does d) : d.Proper s := by
  cases q with
  | createEvent e | createReward r =>
    obtain rfl := hdoes
    exact hallows.1
  | updateEvent e =>
    obtain rfl := hdoes
    obtain ⟨id, old, hold, hsound, -⟩ := hallows
    exact hsound (h.event i id old hold).1
  | addLink l =>
    obtain rfl := hdoes
    obtain ⟨⟨e, he⟩, hr⟩ := hallows
    exact ⟨(h.event i _ e he).2, h.reward i _ hr⟩
  | removeLink eventId rewardId =>
    obtain rfl := hdoes
    trivial
  | createPending r =>
    obtain rfl := hdoes
    obtain ⟨hsound, ⟨e, he⟩, -⟩ := hallows
    exact ⟨hsound, (h.event i _ e he).2⟩
  | transition id status time =>
    obtain ⟨r, rfl⟩ := hdoes
    trivial
  | _ => exact hdoes.elim

variable {dockets : ι → Docket}

theorem wellFormed_call {c : Call} (h : Heeded w.storage acc) (horder : InOrder supply w dockets)
    (hdocket : (dockets i).allows c) (hallows : (acc i).allows c) :
    (World.answer .memory supply c w).2.storage.WellFormed := by
  refine horder.storage_cases hdocket h.wellFormed fun q d hc hdeed hfits => ?_
  subst hc
  exact (h.proper hallows (Statement.does_of_deed hdeed)).wellFormed hfits h.wellFormed

/-- Every allowed call keeps the records well formed. -/
theorem call [DecidableEq ι] {c : Call} (h : Heeded w.storage acc) (horder : InOrder supply w dockets)
    (hdocket : (dockets i).allows c) (hallows : (acc i).allows c) :
    Heeded (World.answer .memory supply c w).2.storage
      (account Insight.after acc i c (World.answer .memory supply c w).1) := by
  have hages := horder.ages hdocket
  refine ⟨h.wellFormed_call horder hdocket hallows, fun j id e hj => ?_, fun j id hj => ?_⟩
  · have hknown : e.Sound ∧ w.storage.HasEvent id := by
      rcases account_cases (P := fun g : Insight => g.event = some (id, e)) hj with
        ⟨rfl, hi⟩ | ⟨-, hj⟩
      · rcases Insight.event_after hi with hbefore | hnow
        · exact h.event j id e hbefore
        · exact ⟨h.wellFormed.events id e hnow, e, hnow, horder.events id e hnow⟩
      · exact h.event j id e hj
    exact hknown.imp_right hages.hasEvent
  · have hknown : w.storage.HasReward id := by
      rcases account_cases (P := fun g : Insight => g.reward = some id) hj with
        ⟨rfl, hi⟩ | ⟨-, hj⟩
      · rcases Insight.reward_after hi with hbefore | ⟨r, hnow⟩
        · exact h.reward j id hbefore
        · exact ⟨r, hnow, horder.filed.rewards id r hnow⟩
      · exact h.reward j id hj
    exact hages.hasReward hknown

end Heeded

/-! ## The times of records

A record is changed at a time that the errand has read after it looked the record up, and was
created at a time that somebody had read before. Since the time never goes back the later one is no
smaller. -/

/-- Has the time been reached when the time has been read so many times? No later reading comes
before it. -/
def Supply.Reached (supply : Supply) (timesRead : Nat) (time : Instant) : Prop :=
  ∀ n, timesRead ≤ n → time ≤ supply.time n

/-- Does the time never go back? -/
def Supply.Forward (supply : Supply) : Prop := ∀ m n, m ≤ n → supply.time m ≤ supply.time n

theorem Supply.Reached.later {m n : Nat} {time : Instant} (h : supply.Reached m time) (hmn : m ≤ n) :
    supply.Reached n time :=
  fun k hk => h k (Nat.le_trans hmn hk)

/-- Ids that are never alike, and a second from each reading of the time to the next. -/
def Supply.ticking : Supply := { growing with time n := ⟨n, 0⟩ }

theorem Supply.forward_ticking : ticking.Forward := by
  intro m n hmn
  rcases Nat.lt_or_eq_of_le hmn with hlt | rfl
  · have hsecond : compare (m : Int) n = .lt := Int.compare_eq_lt.2 (Int.ofNat_lt.2 hlt)
    show ((compare (m : Int) n).then (compare 0 0)).isLE
    rw [hsecond]
    rfl
  · exact Instant.le_refl _

/-- What an errand has looked at was created before the time that it has read since. -/
structure Insight.Timely (supply : Supply) (w : World Store) (g : Insight) : Prop where
  time : ∀ t, g.time = some t → supply.Reached w.timesRead t
  event : ∀ id e, g.event = some (id, e) → supply.Reached w.timesRead e.createdAt ∧
    ∀ t, g.time = some t → e.createdAt ≤ t
  request : ∀ id r, g.request = some (id, r) →
    (∃ r', w.storage.requests.requests.get? id = some r' ∧ r'.createdAt = r.createdAt) ∧
      ∀ t, g.time = some t → r.createdAt ≤ t

/-- All records have their times in order, and errands read the time after they have looked. -/
structure Punctual (supply : Supply) (w : World Store) (acc : ι → Insight) : Prop where
  dated : w.storage.Dated fun created updated =>
    created ≤ updated ∧ supply.Reached w.timesRead created
  timely : ∀ i, (acc i).Timely supply w

theorem World.timesRead_le (supply : Supply) (c : Call) (w : World Store) :
    w.timesRead ≤ (World.answer .memory supply c w).2.timesRead := by
  cases c with
  | clock => exact Nat.le_succ _
  | _ => exact Nat.le_refl _

/-- What was timely stays so. -/
theorem Insight.Timely.later {g : Insight} {w' : World Store} (h : g.Timely supply w)
    (hages : w.storage.Ages w'.storage) (hread : w.timesRead ≤ w'.timesRead) :
    g.Timely supply w' where
  time t ht := (h.time t ht).later hread
  event id e he := (h.event id e he).imp_left fun hreached => hreached.later hread
  request id r hr := by
    obtain ⟨⟨r', hr', hcreated⟩, htime⟩ := h.request id r hr
    obtain ⟨r'', hr'', hbecomes⟩ := hages.requests id r' hr'
    exact ⟨⟨r'', hr'', hbecomes.createdAt_eq.trans hcreated⟩, htime⟩

namespace Punctual

variable {acc : ι → Insight} {i : ι}

theorem start (supply : Supply) (channel : Channel StatusChange) :
    Punctual supply { storage := .empty, channel } fun _ : ι => {} where
  dated := Store.dated_empty
  timely _ := ⟨nofun, nofun, nofun⟩

theorem times_of_stamps {createdAt updatedAt : Instant} (h : Punctual supply w acc)
    (hstamps : (acc i).Stamps createdAt updatedAt) :
    createdAt ≤ updatedAt ∧ supply.Reached w.timesRead createdAt := by
  obtain ⟨htime, rfl⟩ := hstamps
  exact ⟨Instant.le_refl _, (h.timely i).time _ htime⟩

/-- What is done when it is allowed has its times in order. -/
theorem times {q : Statement} {d : Deed} {created updated : Instant} (h : Punctual supply w acc)
    (hallows : (acc i).allows (.statement q)) (hdeed : q.deed (w.storage.execute q).1 = some d)
    (htimes : d.times = some (created, updated)) :
    created ≤ updated ∧ supply.Reached w.timesRead created := by
  have hdoes := Statement.does_of_deed hdeed
  cases q with
  | createEvent e | createReward r =>
    obtain rfl := hdoes
    obtain ⟨rfl, rfl⟩ := Prod.mk.inj (Option.some.inj htimes)
    exact h.times_of_stamps hallows.2
  | updateEvent e =>
    obtain rfl := hdoes
    obtain ⟨rfl, rfl⟩ := Prod.mk.inj (Option.some.inj htimes)
    obtain ⟨id, old, hold, -, hcreated, htime⟩ := hallows
    obtain ⟨hreached, hlater⟩ := (h.timely i).event id old hold
    rw [hcreated]
    exact ⟨hlater _ htime, hreached⟩
  | createPending r =>
    obtain rfl := hdoes
    obtain ⟨rfl, rfl⟩ := Prod.mk.inj (Option.some.inj htimes)
    exact h.times_of_stamps hallows.2.2
  | transition id status time =>
    obtain ⟨⟨seen, hseen⟩, htime⟩ := hallows
    obtain ⟨⟨old, hold, hcreated⟩, hlater⟩ := (h.timely i).request id seen hseen
    rcases w.storage.requests.transition_cases id status time with
      ⟨-, hnone⟩ | ⟨r, hr, -, hmoved⟩
    · rw [Store.execute, hnone] at hdeed
      cases hdeed
    -- The request that is moved is the one that was seen, as far as its creation goes.
    · rw [Store.execute, hmoved] at hdeed
      obtain rfl := Option.some.inj hdeed
      obtain ⟨rfl, rfl⟩ := Prod.mk.inj (Option.some.inj htimes)
      obtain rfl := Option.some.inj (hr.symm.trans hold)
      refine ⟨?_, (h.dated.requests id _ hr).2⟩
      show r.createdAt ≤ time
      rw [hcreated]
      exact hlater time htime
  | addLink l =>
    obtain rfl := hdoes
    cases htimes
  | removeLink eventId rewardId =>
    obtain rfl := hdoes
    cases htimes
  | _ => exact hdoes.elim

/-- What the caller knows after a call is timely. -/
theorem timely_after {c : Call} (h : Punctual supply w acc) (hforward : supply.Forward)
    (hlater : (acc i).Timely supply (World.answer .memory supply c w).2) :
    ((acc i).after c (World.answer .memory supply c w).1).Timely supply
      (World.answer .memory supply c w).2 := by
  have hi := h.timely i
  cases c with
  | clock =>
    refine ⟨fun t ht => ?_, fun id e he => ⟨(hlater.event id e he).1, fun t ht => ?_⟩,
      fun id r hr => ⟨(hlater.request id r hr).1, fun t ht => ?_⟩⟩
    all_goals obtain rfl := Option.some.inj ht
    · exact fun n hn => hforward _ n (Nat.le_of_succ_le hn)
    · exact (hi.event id e he).1 _ (Nat.le_refl _)
    · obtain ⟨⟨r', hr', hcreated⟩, -⟩ := hi.request id r hr
      rw [← hcreated]
      exact (h.dated.requests id r' hr').2 _ (Nat.le_refl _)
  | statement q =>
    cases q with
    | getEvent key =>
      refine ⟨nofun, fun id e he => ⟨?_, nofun⟩, fun id r hr => ⟨(hlater.request id r hr).1, nofun⟩⟩
      obtain ⟨e', he', heq⟩ := Option.map_eq_some_iff.1 he
      obtain ⟨rfl, rfl⟩ := Prod.mk.inj heq
      exact (h.dated.events _ _ he').2
    | getRequest key =>
      refine ⟨nofun, fun id e he => ⟨(hlater.event id e he).1, nofun⟩, fun id r hr => ⟨?_, nofun⟩⟩
      obtain ⟨r', hr', heq⟩ := Option.map_eq_some_iff.1 hr
      obtain ⟨rfl, rfl⟩ := Prod.mk.inj heq
      exact ⟨r', hr', rfl⟩
    | getReward key => exact ⟨hlater.time, hlater.event, hlater.request⟩
    | _ => exact hlater
  | _ => exact hlater

/-- If the time never goes back, every allowed call keeps the times in order. -/
theorem call [DecidableEq ι] {dockets : ι → Docket} {c : Call} (h : Punctual supply w acc)
    (hforward : supply.Forward) (horder : InOrder supply w dockets)
    (hdocket : (dockets i).allows c) (hallows : (acc i).allows c) :
    Punctual supply (World.answer .memory supply c w).2
      (account Insight.after acc i c (World.answer .memory supply c w).1) := by
  have hages := horder.ages hdocket
  have hread := World.timesRead_le supply c w
  refine ⟨?_, fun j => ?_⟩
  · have hdated : (World.answer .memory supply c w).2.storage.Dated fun created updated =>
        created ≤ updated ∧ supply.Reached w.timesRead created := by
      refine horder.storage_cases hdocket h.dated fun q d hc hdeed _ => ?_
      subst hc
      exact Deed.dated (fun _ _ htimes => h.times hallows hdeed htimes) h.dated
    exact hdated.mono fun htimes => htimes.imp_right fun hreached => hreached.later hread
  · by_cases hj : j = i
    · subst hj
      rw [account, Function.update_self]
      exact h.timely_after hforward ((h.timely j).later hages hread)
    · rw [account, Function.update_of_ne hj]
      exact (h.timely j).later hages hread

end Punctual

/-! ## Runs

All of it at once: dockets, insights and times are kept side by side by every call, and so hold
after any calls of any errands. -/

/-- Everything is in order, well formed and, if the time never goes back, punctual. -/
structure Tended (supply : Supply) (w : World Store) (acc : ι → Docket × Insight) : Prop where
  order : InOrder supply w fun i => (acc i).1
  heeded : Heeded w.storage fun i => (acc i).2
  punctual : supply.Forward → Punctual supply w fun i => (acc i).2

namespace Tended

variable {acc : ι → Docket × Insight}

theorem start (supply : Supply) (channel : Channel StatusChange) :
    Tended supply { storage := .empty, channel } fun _ : ι => ({}, {}) :=
  ⟨.start supply channel, .start Store.wellFormed_empty, fun _ => .start supply channel⟩

/-- Whoever has not begun finds everything so. -/
theorem unbegun {κ : Type} (h : Tended supply w acc) : Tended supply w fun _ : κ => ({}, {}) where
  order := h.order.unbegun
  heeded := .start h.heeded.wellFormed
  punctual hforward := ⟨(h.punctual hforward).dated, fun _ => ⟨nofun, nofun, nofun⟩⟩

theorem call [DecidableEq ι] (hids : Function.Injective supply.id) {i : ι} {c : Call}
    (h : Tended supply w acc)
    (hallows : bothAllow Docket.allows Insight.allows (acc i) c) :
    Tended supply (World.answer .memory supply c w).2
      (account (bothAfter Docket.after Insight.after) acc i c
        (World.answer .memory supply c w).1) := by
  obtain ⟨hdocket, hinsight⟩ := hallows
  constructor
  · rw [Contract.determined.account_both_fst]
    exact h.order.call hids hdocket
  · rw [Contract.determined.account_both_snd]
    exact h.heeded.call h.order hdocket hinsight
  · intro hforward
    rw [Contract.determined.account_both_snd]
    exact (h.punctual hforward).call hforward h.order hdocket hinsight

end Tended

namespace Errand

variable [DecidableEq ι]

/-- Every errand keeps its docket and takes care. -/
theorem obeys_both (e : Errand) : e.program.Obeys
    (.determined (bothAllow Docket.allows Insight.allows) (bothAfter Docket.after Insight.after))
    ({}, {}) fun outcome g => Docket.Ends e.Did outcome g.1 ∧ care.Anyhow outcome g.2 :=
  Contract.determined.obeys_both e.obeys_duty e.obeys_care

theorem exists_tended (hids : Function.Injective supply.id) (channel : Channel StatusChange)
    (errands : ι → Errand) (schedule : List ι) :
    ∃ acc : ι → Docket × Insight, Tended supply (runAll supply channel errands schedule).state acc := by
  have hstart : Tended supply (begun channel errands).state fun _ : ι => ({}, {}) :=
    .start supply channel
  obtain ⟨acc, htended, -⟩ := Contract.determined.run_keeps (fun w _ acc => Tended supply w acc)
    (fun h hallows => h.call hids hallows) schedule hstart fun i => (errands i).obeys_both
  exact ⟨acc, htended⟩

/-- If no id is given out twice, then after any calls of any errands, in any order, every record is
well formed:

* an event has a name of one to a hundred characters and does not end before it starts;
* a reward has a name of one to a hundred characters, its amounts are positive and its identifiers
  are not blank;
* a request has a user of one to a hundred characters, and its event is there;
* a link has its event and its reward there;
* if the time never goes back, no record was changed before it was created. -/
theorem records_well_formed (hids : Function.Injective supply.id) (channel : Channel StatusChange)
    (errands : ι → Errand) (schedule : List ι) :
    let s := (runAll supply channel errands schedule).state.storage
    s.WellFormed ∧ (supply.Forward → s.Dated (· ≤ ·)) := by
  intro s
  obtain ⟨acc, htended⟩ := exists_tended hids channel errands schedule
  refine ⟨htended.heeded.wellFormed, fun hforward => ?_⟩
  exact (htended.punctual hforward).dated.mono And.left

/-- To create an event and a reward, to link them, to apply to the event and to change its name. The
records are expected under the ids `x`, `xx` and `xxx`. -/
def fair : Fin 5 → Errand
  | 0 => opening "E"
  | 1 => .command "create_reward" (.object [("name", .string "R"), ("type", .string "BADGE"),
      ("rewardData", .object [("badgeId", .string "b")])])
  | 2 => .command "add_reward_to_event"
      (.object [("eventId", .string "x"), ("rewardId", .string "xx")])
  | 3 => application "u" "x"
  | 4 => .command "update_event" (.object [("id", .string "x"), ("name", .string "F")])

/-- When all that has been done the records are well formed, and the event has been changed later
than it was created. -/
theorem records_well_formed_of_fair :
    Function.Injective Supply.ticking.id ∧ Supply.ticking.Forward ∧
      let s := (runAll .ticking (.ofCapacity 1) fair
        ((List.finRange 5).flatMap fun i => .replicate 12 i)).state.storage
      (s.events.get? "x").map (fun e => (e.name, e.createdAt, e.updatedAt)) =
        some ("F", ⟨0, 0⟩, ⟨4, 0⟩) ∧
      s.links.links.keys = [LinkBook.key "x" "xx"] ∧ s.requests.requests.keys = ["xxx"] ∧
      s.WellFormed ∧ s.Dated (· ≤ ·) := by
  have hids : Function.Injective Supply.ticking.id := Supply.growing_injective
  refine ⟨hids, Supply.forward_ticking, ?_⟩
  intro s
  have hrecords := records_well_formed hids (.ofCapacity 1) fair
    ((List.finRange 5).flatMap fun i => .replicate 12 i)
  exact ⟨by decide +kernel, by decide +kernel, by decide +kernel, hrecords.1,
    hrecords.2 Supply.forward_ticking⟩

end Errand
end RewardDesk
