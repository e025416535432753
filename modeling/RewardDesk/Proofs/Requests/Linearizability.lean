import RewardDesk.Proofs.Requests.Ids
import RewardDesk.Proofs.Requests.Order

/-!
# The request workflow is linearizable

Calls of the workflow that interleave come out as if each had run alone, one after the other, and
leave the same store (`Workflow.linearizable`). Whoever was done before another began comes first in
that order. Of several reviewers of one pending request exactly one succeeds, and the others are
told what was decided.
-/

namespace RewardDesk

namespace Workflow

variable {ι : Type} [DecidableEq ι]

/-! ## Calls and reviews

The same calls can be made in two ways. In `runAll` a schedule says whose step comes next, and in
`runInTurn` every call runs to its end before the next one begins. Both start from any store and
give each caller the supply that it has. -/

/-- Calls at a service in memory, before their first steps. -/
def begun (start : Store) (channel : Channel StatusChange) (calls : ι → Workflow) :
    Crew ι (Commons ι) Outcome where
  state := { world := { storage := start, channel } }
  left i := (calls i).program

/-- Calls whose steps interleave in the order of a schedule. -/
def runAll (supplies : ι → Supply) (start : Store) (channel : Channel StatusChange)
    (calls : ι → Workflow) (schedule : List ι) : Crew ι (Commons ι) Outcome :=
  (begun start channel calls).run (Commons.answer supplies) schedule

/-- Calls that run alone, one after the other. -/
def runInTurn (supplies : ι → Supply) (start : Store) (channel : Channel StatusChange)
    (calls : ι → Workflow) (order : List ι) : List Outcome × Commons ι :=
  Program.runInTurn (Commons.answer supplies) (fun i => (calls i).program) order
    (begun start channel calls).state

/-- The call is a review of a request with the given status. -/
def Reviews (w : Workflow) (id : String) (status : RequestStatus) : Prop :=
  w = .review id status ∨
    ∃ p, w = .reviewByName p ∧ p.requestId = id ∧ RequestStatus.ofName? p.status = some status

theorem reviews_iff_job {w : Workflow} {id : String} {status : RequestStatus} :
    w.Reviews id status ↔ w.job = .review id status := by
  constructor
  · rintro (rfl | ⟨p, rfl, rfl, hname⟩)
    · rfl
    · rw [job, hname]
  · intro hjob
    cases w with
    | createEvent p =>
      rw [job] at hjob
      split at hjob
      · cases hjob
      · cases hjob
    | createRequest p => cases hjob
    | getRequest x => cases hjob
    | review x target =>
      obtain ⟨rfl, rfl⟩ := Job.review.inj hjob
      exact .inl rfl
    | reviewByName p =>
      rw [job] at hjob
      cases hname : RequestStatus.ofName? p.status with
      | none =>
        rw [hname] at hjob
        cases hjob
      | some target =>
        rw [hname] at hjob
        obtain ⟨hid, rfl⟩ := Job.review.inj hjob
        exact .inr ⟨p, rfl, hid, hname⟩

end Workflow

/-! ## Calls that run alone

The order of the account is made of calls served at one moment. To compare the run with calls that
run one after the other as programs, the account is kept for those as well: they take effect in the
order in which they run. -/

namespace Linear

variable {ι : Type} [DecidableEq ι] {calls : ι → Workflow} {supplies : ι → Supply} {start : Store}
  {s s' : Commons ι} {a b : Account ι} {i : ι}

/-- If nobody but `i` has made calls, then nobody but `i` has taken effect. -/
theorem order_of_alone (h : Linear calls supplies start s a) (h' : Linear calls supplies start s' b)
    (hbegins : a.order <+: b.order) (hothers : ∀ j, j ≠ i → b.stand j = a.stand j)
    (hopen : (a.stand i).outcome? = none) (hsettled : (b.stand i).outcome?.isSome) :
    b.order = a.order ++ [i] := by
  obtain ⟨rest, hrest⟩ := hbegins
  obtain ⟨-, hnodup, hdisjoint⟩ := List.nodup_append.1 (hrest ▸ h'.nodup)
  -- All that the order has gained is `i`, and `i` only once.
  have honly : ∀ j ∈ rest, j = i := by
    intro j hj
    by_contra hne
    have hmem : j ∈ a.order := by
      rw [h.ordered, ← hothers j hne, ← h'.ordered, ← hrest]
      exact List.mem_append_right _ hj
    exact hdisjoint j hmem j hj rfl
  have hmem : i ∈ rest := by
    have hi := (h'.ordered i).2 hsettled
    rw [← hrest] at hi
    rcases List.mem_append.1 hi with hi | hi
    · rw [h.ordered, hopen] at hi
      exact absurd hi nofun
    · exact hi
  rw [← hrest]
  congr 1
  cases rest with
  | nil => exact absurd hmem nofun
  | cons x rest =>
    obtain rfl := honly x List.mem_cons_self
    cases rest with
    | nil => rfl
    | cons y rest =>
      obtain rfl := honly y (List.mem_cons_of_mem _ List.mem_cons_self)
      simp at hnodup

/-- Calls that run in turn take effect in the order in which they run. -/
theorem runInTurn (hids : Function.Injective fun p : ι × Nat => (supplies p.1).id p.2)
    (hfresh : ∀ i n, start.requests.requests.get? ((supplies i).id n) = none) {order : List ι}
    (h : Linear calls supplies start s a) (hstart : ∀ i ∈ order, a.stand i = (calls i).job.start)
    (hnodup : order.Nodup) :
    ∃ b, Linear calls supplies start
        (Program.runInTurn (Commons.answer supplies) (fun i => (calls i).program) order s).2 b ∧
      b.order = a.order ++ order ∧ (∀ j, j ∉ order → b.stand j = a.stand j) ∧
      (Program.runInTurn (Commons.answer supplies) (fun i => (calls i).program) order s).1.map some =
        order.map fun i => (b.stand i).outcome? := by
  induction order generalizing s a with
  | nil => exact ⟨a, h, (List.append_nil _).symm, fun _ _ => rfl, rfl⟩
  | cons i order ih =>
    obtain ⟨hi, hnodup'⟩ := List.nodup_cons.1 hnodup
    have hobeys : (calls i).program.Obeys (calls i).job.contract (a.stand i) workflow.Settled := by
      rw [hstart i List.mem_cons_self]
      exact (calls i).obeys_program
    obtain ⟨b, history, hbegins, hothers, hlinear, hsettled⟩ :=
      (ledger calls hids hfresh).run_alone [] h hobeys
    have hsettled : b.stand i = .settled _ := hsettled
    have hone : b.order = a.order ++ [i] := by
      refine h.order_of_alone hlinear hbegins hothers ?_ ?_
      · rw [hstart i List.mem_cons_self]
        rfl
      · rw [hsettled]
        rfl
    -- The others have not moved, so the rest runs from where it would have started.
    have hstart' : ∀ j ∈ order, b.stand j = (calls j).job.start := by
      intro j hj
      rw [← hstart j (List.mem_cons_of_mem _ hj)]
      exact hothers j fun heq => hi (heq ▸ hj)
    obtain ⟨c, hlinear', horder, hunmoved, houtcomes⟩ := ih hlinear hstart' hnodup'
    refine ⟨c, hlinear', ?_, fun j hj => ?_, ?_⟩
    · rw [horder, hone, List.append_assoc]
      rfl
    · rw [hunmoved j fun hmem => hj (List.mem_cons_of_mem _ hmem)]
      exact hothers j fun heq => hj (heq ▸ List.mem_cons_self)
    · rw [List.map_cons, hunmoved i hi, hsettled, ← houtcomes]
      rfl

end Linear

/-! ## Reviews of one request

Served one after the other, the first review of a pending request that names a terminal status
decides it, and all later ones find it decided. Which reviewer that is depends on the order, that it
is one does not. -/

namespace Job

variable {job : Job} {x id : String} {time : Instant} {status : RequestStatus} {s : Store}
  {q : Request}

/-- Only a review of a request with a terminal status, or a new request of the same id, touches
it. -/
theorem serve_keeps (hx : x ≠ id) (hjob : ∀ status, status.isTerminal → job ≠ .review id status) :
    (job.serve x time s).2.requests.requests.get? id = s.requests.requests.get? id := by
  cases job with
  | refuse error => rfl
  | createEvent p => rfl
  | inspect y verdict => rfl
  | apply p =>
    rw [serve]
    cases s.events.get? p.eventId with
    | none => rfl
    | some e =>
      show (s.requests.createPending (.newPending x p.userId p.eventId time)).2.requests.get? id = _
      rcases s.requests.createPending_cases (.newPending x p.userId p.eventId time) with
        ⟨-, hrefused⟩ | ⟨-, hentered⟩
      · rw [hrefused]
      · rw [hentered, Table.get?_set]
        exact if_neg hx.symm
  | review y status =>
    rw [serve]
    cases s.requests.requests.get? y with
    | none => rfl
    | some r =>
      by_cases hmove : r.status.canMoveTo status
      · have hterminal : status.isTerminal := (Bool.and_eq_true_iff.1 hmove).2
        have hy : id ≠ y := by
          rintro rfl
          exact hjob status hterminal rfl
        simp only [if_pos hmove]
        show (s.requests.transition y status time).2.requests.get? id = _
        rcases s.requests.transition_cases y status time with ⟨-, hnone⟩ | ⟨r', -, -, hmoved⟩
        · rw [hnone]
        · rw [hmoved, Table.get?_set, if_neg hy]
      · simp only [if_neg hmove]

/-- The first review of a pending request succeeds. -/
theorem serve_review_of_pending (hq : s.requests.requests.get? id = some q)
    (hpending : q.status = .pending) (hterminal : status.isTerminal) :
    ((Job.review id status).serve x time s).1 = .ok (.inr { q with status, updatedAt := time }) ∧
      ((Job.review id status).serve x time s).2.requests.requests.get? id =
        some { q with status, updatedAt := time } := by
  have hmove : q.status.canMoveTo status := by
    simp [RequestStatus.canMoveTo, hpending, hterminal]
  rw [serve, hq]
  simp only [if_pos hmove]
  refine ⟨trivial, ?_⟩
  show (s.requests.transition id status time).2.requests.get? id = _
  rcases s.requests.transition_cases id status time with ⟨hdecided, -⟩ | ⟨r, hr, -, hmoved⟩
  · exact absurd hpending (hdecided q hq)
  · rw [hq] at hr
    rw [hmoved, Table.get?_set, if_pos rfl, ← Option.some.inj hr]

/-- Every other review is told what was decided, and changes nothing. -/
theorem serve_review_of_decided (hq : s.requests.requests.get? id = some q)
    (hdecided : q.status ≠ .pending) :
    (Job.review id status).serve x time s =
      (.error (.invalidTransition id q.status status.name), s) := by
  have hmove : ¬ q.status.canMoveTo status := by simp [RequestStatus.canMoveTo, hdecided]
  rw [serve, hq]
  simp only [if_neg hmove]

end Job

section
variable {ι : Type} {calls : ι → Workflow} {supplies : ι → Supply} {id : String} {order : List ι}
  {s : Store} {q : Request} {out : ι → Option Outcome}

/-- Once a request is decided, everybody who reviews it is told so. -/
theorem serveAll_of_decided (hothers : ∀ i ∈ order, (supplies i).id 0 ≠ id)
    (hq : s.requests.requests.get? id = some q) (hdecided : q.status ≠ .pending)
    (hout : (serveAll (serveCall calls supplies) order s).1.map some = order.map out) :
    ∀ i ∈ order, ∀ status, (calls i).job = .review id status → ∃ current, current ≠ .pending ∧
      out i = some (.error (.invalidTransition id current status.name)) := by
  induction order generalizing s with
  | nil => exact fun i hi => absurd hi nofun
  | cons k order ih =>
    rw [serveAll_cons, List.map_cons, List.map_cons] at hout
    obtain ⟨hk, hrest⟩ := List.cons.inj hout
    have hkept : (serveCall calls supplies k s).2.requests.requests.get? id = some q := by
      by_cases hreview : ∃ status, (calls k).job = .review id status
      · obtain ⟨status, hjob⟩ := hreview
        rw [serveCall, hjob, Job.serve_review_of_decided hq hdecided, hq]
      · rw [← hq]
        exact Job.serve_keeps (hothers k List.mem_cons_self) fun status _ hjob =>
          hreview ⟨status, hjob⟩
    intro i hi status hjob
    rcases List.mem_cons.1 hi with rfl | hi
    · refine ⟨q.status, hdecided, ?_⟩
      rw [← hk, serveCall, hjob, Job.serve_review_of_decided hq hdecided]
    · exact ih (fun j hj => hothers j (List.mem_cons_of_mem _ hj)) hkept hrest i hi status hjob

/-- Of those who review a pending request the first succeeds and the others are told so. -/
theorem serveAll_of_pending (hothers : ∀ i ∈ order, (supplies i).id 0 ≠ id)
    (hq : s.requests.requests.get? id = some q) (hpending : q.status = .pending)
    (hout : (serveAll (serveCall calls supplies) order s).1.map some = order.map out)
    (hsome : ∃ i ∈ order, ∃ status, status.isTerminal ∧ (calls i).job = .review id status) :
    ∃ i ∈ order, (∃ status u, status.isTerminal ∧ (calls i).job = .review id status ∧
        out i = some (.ok (.inr u)) ∧ u.id = q.id ∧ u.status = status) ∧
      ∀ j ∈ order, j ≠ i → ∀ status, status.isTerminal → (calls j).job = .review id status →
        ∃ current, current ≠ .pending ∧
          out j = some (.error (.invalidTransition id current status.name)) := by
  induction order generalizing s with
  | nil =>
    obtain ⟨i, hi, -⟩ := hsome
    exact absurd hi nofun
  | cons k order ih =>
    rw [serveAll_cons, List.map_cons, List.map_cons] at hout
    obtain ⟨hk, hrest⟩ := List.cons.inj hout
    have hothers' : ∀ i ∈ order, (supplies i).id 0 ≠ id :=
      fun j hj => hothers j (List.mem_cons_of_mem _ hj)
    -- Whoever is the first to review decides; a call before that leaves the request as it is.
    by_cases hreview : ∃ status, status.isTerminal ∧ (calls k).job = .review id status
    · obtain ⟨status, hterminal, hjob⟩ := hreview
      have hserve : serveCall calls supplies k = (Job.review id status).serve _ _ :=
        congrArg (Job.serve _ _) hjob
      rw [hserve] at hk hrest
      obtain ⟨hwon, hdecided⟩ := Job.serve_review_of_pending hq hpending hterminal
      refine ⟨k, List.mem_cons_self, ⟨status, { q with status, updatedAt := (supplies k).time 0 },
        hterminal, hjob, by rw [← hk, hwon], rfl, rfl⟩, ?_⟩
      intro j hj hne status' _ hjob'
      rcases List.mem_cons.1 hj with rfl | hj
      · exact absurd rfl hne
      · have hstatus : status ≠ .pending := by
          rintro rfl
          exact absurd hterminal nofun
        exact serveAll_of_decided hothers' hdecided hstatus hrest j hj status' hjob'
    · have hkept : (serveCall calls supplies k s).2.requests.requests.get? id = some q := by
        rw [← hq]
        exact Job.serve_keeps (hothers k List.mem_cons_self) fun status hterminal hjob =>
          hreview ⟨status, hterminal, hjob⟩
      have hsome' : ∃ i ∈ order, ∃ status, status.isTerminal ∧ (calls i).job = .review id status := by
        obtain ⟨i, hi, hi'⟩ := hsome
        rcases List.mem_cons.1 hi with rfl | hi
        · exact absurd hi' hreview
        · exact ⟨i, hi, hi'⟩
      obtain ⟨i, hi, hwon, hlost⟩ := ih hothers' hkept hrest hsome'
      refine ⟨i, List.mem_cons_of_mem _ hi, hwon, fun j hj hne status hterminal hjob => ?_⟩
      rcases List.mem_cons.1 hj with rfl | hj
      · exact absurd ⟨status, hterminal, hjob⟩ hreview
      · exact hlost j hj hne status hterminal hjob

end

/-! ## Whole runs

For every moment of a run there is an account of it, and the order of that account begins the order
at the end. This is how real time comes in: who was done before somebody else began is in the
shorter order already. -/

theorem serveAll_length {ι : Type} (serve : ι → Store → Outcome × Store) (order : List ι) (s : Store) :
    (serveAll serve order s).1.length = order.length := by
  induction order generalizing s with
  | nil => rfl
  | cons i order ih => rw [serveAll_cons, List.length_cons, ih, List.length_cons]

namespace Workflow

variable {ι : Type} [DecidableEq ι] {supplies : ι → Supply} {start : Store} {calls : ι → Workflow}

/-- What an account says about a moment of a run. -/
structure Moment (supplies : ι → Supply) (start : Store) (channel : Channel StatusChange)
    (calls : ι → Workflow) (l : List ι) (a : Account ι) : Prop where
  linear : Linear calls supplies start (runAll supplies start channel calls l).state a
  begun : ∀ i ∈ a.order, i ∈ l
  done : ∀ i outcome, (runAll supplies start channel calls l).left i = .done outcome →
    a.stand i = .settled outcome

/-- There is an account of the whole run, whose order begins with that of every earlier moment. -/
theorem exists_account (hids : Function.Injective fun p : ι × Nat => (supplies p.1).id p.2)
    (hfresh : ∀ i n, start.requests.requests.get? ((supplies i).id n) = none)
    (channel : Channel StatusChange) (calls : ι → Workflow) (schedule : List ι) :
    ∃ last, Moment supplies start channel calls schedule last ∧
      ∀ l r, schedule = l ++ r → ∃ a, Moment supplies start channel calls l a ∧
        a.order <+: last.order := by
  have hbegun : (Linear.ledger calls hids hfresh).Keeps (fun _ => workflow.Settled)
      (begun start channel calls) { stand := fun i => (calls i).job.start, order := [] } :=
    ⟨Linear.begin supplies calls start channel, fun i => (calls i).obeys_program⟩
  have hmoment : ∀ {l a}, (Linear.ledger calls hids hfresh).KeepsAt (fun _ => workflow.Settled)
      (begun start channel calls) { stand := fun i => (calls i).job.start, order := [] } l a →
      Moment supplies start channel calls l a := by
    rintro l a ⟨hunmoved, hlinear, hobeys⟩
    refine ⟨hlinear, fun i hi => ?_, fun i outcome hdone => ?_⟩
    · by_contra hout
      have hstart : a.stand i = (calls i).job.start := hunmoved i hout
      rw [hlinear.ordered, hstart] at hi
      exact absurd hi nofun
    · have hsettled := hobeys i
      rw [show (Crew.run _ (begun start channel calls) l).left i = .done outcome from hdone]
        at hsettled
      exact hsettled
  obtain ⟨last, -, hlast, hsplits⟩ := (Linear.ledger calls hids hfresh).run_keeps schedule hbegun
  refine ⟨last, hmoment hlast, fun l r hsplit => ?_⟩
  obtain ⟨a, hbegins, hkept⟩ := hsplits l r hsplit
  exact ⟨a, hmoment hkept, hbegins⟩

/-! ## The whole story

Each part of the theorem is a lemma on the last account: who is in the order, how the calls come
out, which comes first, and who wins. -/

section
variable {channel : Channel StatusChange} {schedule l r : List ι} {a last : Account ι}

theorem Moment.mem_order (hlast : Moment supplies start channel calls schedule last)
    (hdone : ∀ i ∈ schedule, ∃ outcome,
      (runAll supplies start channel calls schedule).left i = .done outcome) (i : ι) :
    i ∈ last.order ↔ i ∈ schedule := by
  refine ⟨hlast.begun i, fun hi => ?_⟩
  obtain ⟨outcome, hi⟩ := hdone i hi
  rw [hlast.linear.ordered, hlast.done i outcome hi]
  rfl

theorem Moment.left_eq (hlast : Moment supplies start channel calls schedule last)
    (hdone : ∀ i ∈ schedule, ∃ outcome,
      (runAll supplies start channel calls schedule).left i = .done outcome)
    {i : ι} (hi : i ∈ schedule) {outcome : Outcome}
    (houtcome : (last.stand i).outcome? = some outcome) :
    (runAll supplies start channel calls schedule).left i = .done outcome := by
  obtain ⟨outcome', hi⟩ := hdone i hi
  rw [hlast.done i outcome' hi] at houtcome
  rw [hi, Option.some.inj houtcome]

/-- Whoever was done at a moment comes before those who had not begun. -/
theorem Moment.sublist (ha : Moment supplies start channel calls l a)
    (hbegins : a.order <+: last.order) {i j : ι} {outcome : Outcome}
    (hi : (runAll supplies start channel calls l).left i = .done outcome) (hj : j ∈ last.order)
    (hlate : j ∉ l) : [i, j].Sublist last.order := by
  obtain ⟨more, hmore⟩ := hbegins
  have hfirst : i ∈ a.order := by
    rw [ha.linear.ordered, ha.done i outcome hi]
    rfl
  rw [← hmore] at hj ⊢
  refine (List.singleton_sublist.2 hfirst).append (List.singleton_sublist.2 ?_)
  rcases List.mem_append.1 hj with hearly | hmem
  · exact absurd (ha.begun j hearly) hlate
  · exact hmem

/-- The calls come out as if they had run in turn. -/
theorem Moment.runInTurn (hids : Function.Injective fun p : ι × Nat => (supplies p.1).id p.2)
    (hfresh : ∀ i n, start.requests.requests.get? ((supplies i).id n) = none)
    (hlast : Moment supplies start channel calls schedule last)
    (hdone : ∀ i ∈ schedule, ∃ outcome,
      (runAll supplies start channel calls schedule).left i = .done outcome) :
    (Workflow.runInTurn supplies start channel calls last.order).2.world.storage =
        (runAll supplies start channel calls schedule).state.world.storage ∧
      (Workflow.runInTurn supplies start channel calls last.order).1.map Program.done =
        last.order.map (runAll supplies start channel calls schedule).left := by
  obtain ⟨b, hb, horder, -, houtcomes⟩ := Linear.runInTurn hids hfresh
    (Linear.begin supplies calls start channel) (fun _ _ => rfl) hlast.linear.nodup
  have horder : b.order = last.order := horder
  -- Both accounts have the same order, and the order determines the store and the outcomes.
  have hstore := hb.store
  have hsame := hb.outcomes
  rw [horder, hlast.linear.store] at hstore
  rw [horder, hlast.linear.outcomes] at hsame
  refine ⟨hstore.symm, (List.map_inj_right fun _ _ h => Option.some.inj h).1 ?_⟩
  calc ((Workflow.runInTurn supplies start channel calls last.order).1.map Program.done).map some
      = ((Workflow.runInTurn supplies start channel calls last.order).1.map some).map
          (Option.map Program.done) := by simp
    _ = last.order.map fun i => ((last.stand i).outcome?).map Program.done := by
        rw [show (Workflow.runInTurn supplies start channel calls last.order).1.map some = _ from
          houtcomes, ← hsame, List.map_map]
        rfl
    _ = (last.order.map (runAll supplies start channel calls schedule).left).map some := by
        rw [List.map_map]
        refine List.map_congr_left fun i hi => ?_
        obtain ⟨outcome, hi⟩ := hdone i ((hlast.mem_order hdone i).1 hi)
        rw [hlast.done i outcome hi]
        exact congrArg some hi.symm

/-- Of those who begin to review a pending request one succeeds. -/
theorem Moment.one_succeeds (hids : Function.Injective fun p : ι × Nat => (supplies p.1).id p.2)
    (hfresh : ∀ i n, start.requests.requests.get? ((supplies i).id n) = none)
    (ha : Moment supplies start channel calls l a) (hbegins : a.order <+: last.order)
    (hlast : Moment supplies start channel calls (l ++ r) last)
    (hdone : ∀ i ∈ l ++ r, ∃ outcome,
      (runAll supplies start channel calls (l ++ r)).left i = .done outcome)
    {id : String} {q : Request}
    (hq : (runAll supplies start channel calls l).state.world.storage.requests.requests.get? id =
      some q) (hpending : q.status = .pending)
    (hnone : ∀ i ∈ l, ∀ status, status.isTerminal → ¬ (calls i).Reviews id status)
    (hsome : ∃ i ∈ r, ∃ status, status.isTerminal ∧ (calls i).Reviews id status) :
    ∃ i ∈ r, (∃ status u, status.isTerminal ∧ (calls i).Reviews id status ∧ u.status = status ∧
        (runAll supplies start channel calls (l ++ r)).left i = .done (.ok (.inr u))) ∧
      ∀ j ∈ r, j ≠ i → ∀ status, status.isTerminal → (calls j).Reviews id status →
        ∃ current, current ≠ .pending ∧
          (runAll supplies start channel calls (l ++ r)).left j =
            .done (.error (.invalidTransition id current status.name)) := by
  obtain ⟨more, hmore⟩ := hbegins
  have hmem := hlast.mem_order hdone
  rw [← hmore] at hmem
  have hout : (serveAll (serveCall calls supplies) more
      (runAll supplies start channel calls l).state.world.storage).1.map some =
        more.map fun i => (last.stand i).outcome? := by
    have hall := hlast.linear.outcomes
    rw [← hmore, serveAll_append, ha.linear.store, List.map_append, List.map_append] at hall
    exact (List.append_inj hall (by simp [serveAll_length])).2
  -- The request was stored before, so its id is from the start or of a call that has already taken
  -- effect.
  have hothers : ∀ k ∈ more, (supplies k).id 0 ≠ id := by
    have hnodup := hlast.linear.nodup
    rw [← hmore] at hnodup
    rintro k hk rfl
    rcases ha.linear.stored _ q hq with hstart | ⟨k', hk', hid⟩
    · rw [hfresh] at hstart
      exact absurd hstart nofun
    · have hsame : (k, 0) = (k', 0) := hids hid
      exact (List.nodup_append.1 hnodup).2.2 k' hk' k hk (Prod.mk.inj hsame).1.symm
  -- The reviewers are those whose moments are still to come.
  have hreviewers : ∀ k status, status.isTerminal → (calls k).Reviews id status →
      (k ∈ more ↔ k ∈ r) := by
    intro k status hterminal hreviews
    have hearly : k ∉ l := fun hk => hnone k hk status hterminal hreviews
    have hplace := hmem k
    rw [List.mem_append, List.mem_append] at hplace
    constructor
    · exact fun hk => (hplace.1 (.inr hk)).resolve_left hearly
    · exact fun hk => (hplace.2 (.inr hk)).resolve_left fun hk' => hearly (ha.begun k hk')
  obtain ⟨i, hi, status, hterminal, hreviews⟩ := hsome
  obtain ⟨w, hw, ⟨status', u, hterminal', hjob, hwon, -, hstatus⟩, hlost⟩ :=
    serveAll_of_pending hothers hq hpending hout
      ⟨i, (hreviewers i status hterminal hreviews).2 hi, status, hterminal,
        reviews_iff_job.1 hreviews⟩
  have hwinner : (calls w).Reviews id status' := reviews_iff_job.2 hjob
  have hright : w ∈ r := (hreviewers w status' hterminal' hwinner).1 hw
  refine ⟨w, hright, ⟨status', u, hterminal', hwinner, hstatus,
    hlast.left_eq hdone (List.mem_append_right l hright) hwon⟩, ?_⟩
  intro j hj hne target htarget hjreviews
  obtain ⟨current, hcurrent, hjlost⟩ := hlost j ((hreviewers j target htarget hjreviews).2 hj) hne
    target htarget (reviews_iff_job.1 hjreviews)
  exact ⟨current, hcurrent, hlast.left_eq hdone (List.mem_append_right l hj) hjlost⟩

end

/-- Calls of the workflow whose steps interleave in any way come out as the same calls do that run
alone, one after the other, with the same ids and readings of the clock: there is an order of the
calls such that

* a call that was done before another began comes before it;
* the store is the same in the end, and every call has the same outcome.

Of several calls that begin to review a pending request with terminal statuses exactly one succeeds,
and the others are told a status that is not pending. -/
theorem linearizable (hids : Function.Injective fun p : ι × Nat => (supplies p.1).id p.2)
    (hfresh : ∀ i n, start.requests.requests.get? ((supplies i).id n) = none)
    (channel : Channel StatusChange) (schedule : List ι)
    (hdone : ∀ i ∈ schedule, ∃ outcome,
      (runAll supplies start channel calls schedule).left i = .done outcome) :
    (∃ order : List ι, order.Nodup ∧ (∀ i, i ∈ order ↔ i ∈ schedule) ∧
      (∀ l r, schedule = l ++ r → ∀ i ∈ l, ∀ j ∈ r, j ∉ l →
        (∃ outcome, (runAll supplies start channel calls l).left i = .done outcome) →
          [i, j].Sublist order) ∧
      (runInTurn supplies start channel calls order).2.world.storage =
        (runAll supplies start channel calls schedule).state.world.storage ∧
      (runInTurn supplies start channel calls order).1.map Program.done =
        order.map (runAll supplies start channel calls schedule).left) ∧
    ∀ l r, schedule = l ++ r → ∀ id,
      (∃ q, (runAll supplies start channel calls l).state.world.storage.requests.requests.get? id =
        some q ∧ q.status = .pending) →
      (∀ i ∈ l, ∀ status, status.isTerminal → ¬ (calls i).Reviews id status) →
      (∃ i ∈ r, ∃ status, status.isTerminal ∧ (calls i).Reviews id status) →
      ∃ i ∈ r, (∃ status u, status.isTerminal ∧ (calls i).Reviews id status ∧ u.status = status ∧
          (runAll supplies start channel calls schedule).left i = .done (.ok (.inr u))) ∧
        ∀ j ∈ r, j ≠ i → ∀ status, status.isTerminal → (calls j).Reviews id status →
          ∃ current, current ≠ .pending ∧
            (runAll supplies start channel calls schedule).left j =
              .done (.error (.invalidTransition id current status.name)) := by
  obtain ⟨last, hlast, hsplits⟩ := exists_account hids hfresh channel calls schedule
  have hmem := hlast.mem_order hdone
  refine ⟨⟨last.order, hlast.linear.nodup, hmem, ?_, hlast.runInTurn hids hfresh hdone⟩, ?_⟩
  · rintro l r hsplit i - j hj hlate ⟨outcome, hi⟩
    obtain ⟨a, ha, hbegins⟩ := hsplits l r hsplit
    refine ha.sublist hbegins hi ((hmem j).2 ?_) hlate
    rw [hsplit]
    exact List.mem_append_right l hj
  · rintro l r rfl id ⟨q, hq, hpending⟩ hnone hsome
    obtain ⟨a, ha, hbegins⟩ := hsplits l r rfl
    exact ha.one_succeeds hids hfresh hbegins hlast hdone hq hpending hnone hsome

/-! ## A contest

Two reviewers look at a pending request, and only then does one of them move it. The other one has
found it pending and is refused all the same. -/

/-- An event is created, somebody applies to it, and two reviewers of the request alternate. -/
def contest : Fin 4 → Workflow
  | 0 => .createEvent ⟨"E", none, none, default, default, none⟩
  | 1 => .createRequest ⟨"u", "x"⟩
  | 2 => .review "xx" .approved
  | 3 => .reviewByName ⟨"xx", "REJECTED"⟩

/-- Supplies of which no two have an id in common. -/
def contestSupplies (i : Fin 4) : Supply where
  id n := Supply.growing.id (4 * n + i)
  time _ := default

theorem contestSupplies_injective :
    Function.Injective fun p : Fin 4 × Nat => (contestSupplies p.1).id p.2 := by
  rintro ⟨i, m⟩ ⟨j, n⟩ h
  have hsame : 4 * m + i = 4 * n + j := Supply.growing_injective h
  obtain ⟨rfl, hij⟩ : m = n ∧ i = j := by omega
  rw [hij]

/-- Both reviewers look before one of them moves the request, and still there is an order. -/
theorem linearizable_of_contest :
    let schedule : List (Fin 4) := List.replicate 6 0 ++ List.replicate 8 1 ++
      [2, 3, 2, 3, 2, 3, 3, 2, 2, 3, 2, 3, 2, 3, 3, 3]
    let crew := runAll contestSupplies .empty (.ofCapacity 1) contest schedule
    Function.Injective (fun p : Fin 4 × Nat => (contestSupplies p.1).id p.2) ∧
      (∀ i n, Store.empty.requests.requests.get? ((contestSupplies i).id n) = none) ∧
      (∀ i ∈ schedule, ∃ outcome, crew.left i = .done outcome) ∧
      ∃ order : List (Fin 4), (∀ i, i ∈ order ↔ i ∈ schedule) ∧
        (runInTurn contestSupplies .empty (.ofCapacity 1) contest order).1.map Program.done =
          order.map crew.left := by
  intro schedule crew
  have hdone : ∀ i ∈ schedule, ∃ outcome, crew.left i = .done outcome := fun i _ =>
    match i with
    | 0 => ⟨_, rfl⟩
    | 1 => ⟨_, rfl⟩
    | 2 => ⟨_, rfl⟩
    | 3 => ⟨_, rfl⟩
  obtain ⟨⟨order, -, hmem, -, -, hsame⟩, -⟩ :=
    linearizable contestSupplies_injective (fun _ _ => rfl) (.ofCapacity 1) schedule hdone
  exact ⟨contestSupplies_injective, fun _ _ => rfl, hdone, order, hmem, hsame⟩

end Workflow
end RewardDesk
