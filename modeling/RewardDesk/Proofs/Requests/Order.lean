import RewardDesk.Proofs.Requests.Workflow
import RewardDesk.Proofs.Store.Requests
import RewardDesk.Session.World

/-!
# The order in which calls take effect

Each call of the request workflow takes effect at one moment, and the account of a run keeps the
order of these moments (`Linear`): whoever has settled has a place in it, and to serve the calls in
that order, each at one moment, leads to the same store and gives the outcomes that they will have.

Every call to the storage carries the account on: by `stay` nothing takes effect, by `settle` one
call does and takes the last place in the order. `Linear.ledger` puts this together.
-/

namespace RewardDesk

/-! ## Surroundings

Every caller draws from a supply of its own. So the id and the time that it will use are known
before it begins, and a call can be compared with the same call served at another moment. -/

/-- A service in memory whose callers each draw ids and read the clock from a supply of their
own. -/
structure Commons (ι : Type) where
  world : World Store
  /-- How many ids each caller has drawn, and how often it has read the clock. -/
  had : ι → Nat × Nat := fun _ => (0, 0)

namespace Commons

variable {ι : Type} [DecidableEq ι] {supplies : ι → Supply} {s : Commons ι} {i j : ι}

/-- The answer to a call is that of a world with the caller's own supply. -/
def answer (supplies : ι → Supply) (i : ι) (c : Call) (s : Commons ι) : c.Answer × Commons ι :=
  let (a, world) := World.answer .memory (supplies i) c
    { s.world with idsGiven := (s.had i).1, timesRead := (s.had i).2 }
  (a, { world, had := Function.update s.had i (world.idsGiven, world.timesRead) })

theorem had_answer_of_ne {c : Call} (h : j ≠ i) : (answer supplies i c s).2.had j = s.had j :=
  Function.update_of_ne h ..

theorem had_answer_self {c : Call} :
    (answer supplies i c s).2.had i =
      ((answer supplies i c s).2.world.idsGiven, (answer supplies i c s).2.world.timesRead) :=
  Function.update_self ..

theorem had_answer_statement {q : Statement} :
    (answer supplies i (.statement q) s).2.had i = s.had i :=
  Function.update_self ..

end Commons

/-! ## Serving calls in an order

This is the sequential side: what comes of calls when each is served at once and as a whole. -/

/-- Serve calls at one moment each, one after the other. -/
def serveAll {ι : Type} (serve : ι → Store → Outcome × Store) : List ι → Store → List Outcome × Store
  | [], s => ([], s)
  | i :: order, s =>
    let (outcome, s) := serve i s
    let (rest, s) := serveAll serve order s
    (outcome :: rest, s)

theorem serveAll_cons {ι : Type} (serve : ι → Store → Outcome × Store) (i : ι) (order : List ι)
    (s : Store) :
    serveAll serve (i :: order) s =
      ((serve i s).1 :: (serveAll serve order (serve i s).2).1,
        (serveAll serve order (serve i s).2).2) := rfl

theorem serveAll_append {ι : Type} (serve : ι → Store → Outcome × Store) (l r : List ι) (s : Store) :
    serveAll serve (l ++ r) s =
      ((serveAll serve l s).1 ++ (serveAll serve r (serveAll serve l s).2).1,
        (serveAll serve r (serveAll serve l s).2).2) := by
  induction l generalizing s with
  | nil => rfl
  | cons i l ih => rw [List.cons_append, serveAll_cons, serveAll_cons, ih, List.cons_append]

/-! ## Growing stores

What one call has found in the store has to hold when it acts on it later, whatever the others do in
between. The workflow only ever adds events and requests and decides what is pending, and this is
all that its calls rely on. -/

/-- Nothing is lost from a store, and no request that was reviewed is moved again. -/
structure Store.Grown (s s' : Store) : Prop where
  events : ∀ id, (s.events.get? id).isSome → (s'.events.get? id).isSome
  requests : ∀ id r, s.requests.requests.get? id = some r →
    ∃ r', s'.requests.requests.get? id = some r' ∧ (r.status ≠ .pending → r'.status = r.status)

namespace Store.Grown

variable {s : Store}

theorem refl (s : Store) : s.Grown s where
  events _ h := h
  requests _ r h := ⟨r, h, fun _ => rfl⟩

theorem createEvent (e : Event) : s.Grown (s.execute (.createEvent e)).2 where
  events id h := by
    show ((s.events.set e.id e).get? id).isSome
    rw [Table.get?_set]
    split
    · rfl
    · exact h
  requests _ r h := ⟨r, h, fun _ => rfl⟩

theorem createPending {r : Request} (hfree : s.requests.requests.get? r.id = none) :
    s.Grown (s.execute (.createPending r)).2 where
  events _ h := h
  requests id r' h := by
    refine ⟨r', ?_, fun _ => rfl⟩
    show (s.requests.createPending r).2.requests.get? id = some r'
    rcases s.requests.createPending_cases r with ⟨-, hrefused⟩ | ⟨-, hentered⟩
    · rw [hrefused, h]
    · have hne : id ≠ r.id := by
        rintro rfl
        rw [hfree] at h
        exact absurd h nofun
      rw [hentered, Table.get?_set, if_neg hne, h]

theorem transition (id : String) (status : RequestStatus) (time : Instant) :
    s.Grown (s.execute (.transition id status time)).2 where
  events _ h := h
  requests x r' h := by
    show ∃ r'', (s.requests.transition id status time).2.requests.get? x = some r'' ∧ _
    rcases s.requests.transition_cases id status time with ⟨-, hnone⟩ | ⟨r, hr, hpending, hmoved⟩
    · rw [hnone]
      exact ⟨r', h, fun _ => rfl⟩
    · rw [hmoved, Table.get?_set]
      by_cases hx : x = id
      · rw [hx, hr] at h
        rw [if_pos hx, ← Option.some.inj h]
        exact ⟨_, rfl, fun hne => absurd hpending hne⟩
      · rw [if_neg hx]
        exact ⟨r', h, fun _ => rfl⟩

end Store.Grown

/-! ## What each call knows

A call that has not taken effect may have found its event or its request already (`Job.Seen`), or
have lost a race for it and know of a request that was decided (the stage `lost`). Both survive
whatever the others do, by `Store.Grown`. -/

/-- Has the value been drawn, as the first one there is? -/
def Drawn (value : Nat → α) (had : Nat) : Option α → Prop
  | none => had = 0
  | some a => a = value 0

/-- What a job has found out of the records that it depends on. -/
def Job.Seen (s : Store) : Job → Prop
  | .apply p => (s.events.get? p.eventId).isSome
  | .review id status => status.isTerminal ∧ (s.requests.requests.get? id).isSome
  | _ => True

/-- What stands behind the stage of a call. -/
def Stage.Knows (job : Job) (supply : Supply) (had : Nat × Nat) (s : Store) : Stage → Prop
  | .open job' id time seen => job' = job ∧ Drawn supply.id had.1 id ∧
      Drawn supply.time had.2 time ∧ (seen → job.Seen s)
  | .lost id current _ => (∀ error, job ≠ .refuse error) ∧
      ∃ r, s.requests.requests.get? id = some r ∧ r.status = current ∧ current ≠ .pending
  | .settled outcome => ∀ error, job = .refuse error → outcome = .error error

/-- What was found stays so when the store grows. -/
theorem Stage.Knows.mono {job : Job} {supply : Supply} {had : Nat × Nat} {s s' : Store} {g : Stage}
    (h : g.Knows job supply had s) (hgrown : s.Grown s') : g.Knows job supply had s' := by
  cases g with
  | settled outcome => exact h
  | lost id current status =>
    obtain ⟨hjob, r, hr, hcurrent, hdecided⟩ := h
    obtain ⟨r', hr', hkept⟩ := hgrown.requests id r hr
    exact ⟨hjob, r', hr', (hkept (hcurrent ▸ hdecided)).trans hcurrent, hdecided⟩
  | «open» job' id time seen =>
    obtain ⟨hjob, hid, htime, hseen⟩ := h
    refine ⟨hjob, hid, htime, fun hs => ?_⟩
    have hfound := hseen hs
    cases job with
    | apply p => exact hgrown.events _ hfound
    | review id status =>
      obtain ⟨hterminal, hsome⟩ := hfound
      obtain ⟨r, hr⟩ := Option.isSome_iff_exists.1 hsome
      obtain ⟨r', hr', -⟩ := hgrown.requests id r hr
      exact ⟨hterminal, by rw [hr']; rfl⟩
    | _ => trivial

/-! ## The account of a run

The account is what makes an interleaving sequential. It changes by one call at a time (`Advances`):
either the order stays (`stay`) or the caller takes the last place in it (`settle`), and then
serving the call at the end of the order must give the outcome that the caller will report. -/

/-- How far each call has come, and which have taken effect in which order. -/
structure Account (ι : Type) where
  stand : ι → Stage
  order : List ι

/-- The effect of each call, served with the first id and the first time of its supply. -/
def serveCall {ι : Type} (calls : ι → Workflow) (supplies : ι → Supply) (i : ι) :
    Store → Outcome × Store :=
  (calls i).job.serve ((supplies i).id 0) ((supplies i).time 0)

/-- The calls that have taken effect, served in their order, have led to the store, and come out as
they will. -/
structure Linear {ι : Type} (calls : ι → Workflow) (supplies : ι → Supply) (start : Store)
    (s : Commons ι) (a : Account ι) : Prop where
  nodup : a.order.Nodup
  ordered : ∀ i, i ∈ a.order ↔ (a.stand i).outcome?.isSome
  store : (serveAll (serveCall calls supplies) a.order start).2 = s.world.storage
  outcomes : (serveAll (serveCall calls supplies) a.order start).1.map some =
    a.order.map fun i => (a.stand i).outcome?
  knows : ∀ i, (a.stand i).Knows (calls i).job (supplies i) (s.had i) s.world.storage
  stored : ∀ id r, s.world.storage.requests.requests.get? id = some r →
    (start.requests.requests.get? id).isSome ∨ ∃ i ∈ a.order, id = (supplies i).id 0

namespace Linear

variable {ι : Type} [DecidableEq ι] {calls : ι → Workflow} {supplies : ι → Supply} {start : Store}
  {s : Commons ι} {a : Account ι} {i : ι} {c : Call} {g : Stage}

/-- How the account goes on after a call of `i` that leads to the stage `g`. -/
def Advances (calls : ι → Workflow) (supplies : ι → Supply) (start : Store) (s : Commons ι)
    (a : Account ι) (i : ι) (c : Call) (g : Stage) : Prop :=
  ∃ a' : Account ι, a.order <+: a'.order ∧ (∀ j, j ≠ i → a'.stand j = a.stand j) ∧
    a'.stand i = g ∧ Linear calls supplies start (Commons.answer supplies i c s).2 a'

/-- A call by which nothing takes effect. -/
theorem stay (h : Linear calls supplies start s a)
    (houtcome : g.outcome? = (a.stand i).outcome?)
    (hstore : (Commons.answer supplies i c s).2.world.storage = s.world.storage)
    (hknows : g.Knows (calls i).job (supplies i) ((Commons.answer supplies i c s).2.had i)
      s.world.storage) :
    Advances calls supplies start s a i c g := by
  have houtcomes : ∀ j, (Function.update a.stand i g j).outcome? = (a.stand j).outcome? := by
    intro j
    by_cases hj : j = i
    · rw [hj, Function.update_self, houtcome]
    · rw [Function.update_of_ne hj]
  refine ⟨{ stand := Function.update a.stand i g, order := a.order }, List.prefix_rfl,
    fun j hj => Function.update_of_ne hj .., Function.update_self .., ?_⟩
  constructor
  · exact h.nodup
  · intro j
    rw [h.ordered j, houtcomes]
  · rw [hstore]
    exact h.store
  · simp only [houtcomes]
    exact h.outcomes
  · intro j
    rw [hstore]
    by_cases hj : j = i
    · subst hj
      simpa using hknows
    · rw [Commons.had_answer_of_ne hj]
      simpa [Function.update_of_ne hj] using h.knows j
  · rw [hstore]
    exact h.stored

/-- A call after which everything stands as before. -/
theorem idle (h : Linear calls supplies start s a)
    (hstore : (Commons.answer supplies i c s).2.world.storage = s.world.storage)
    (hhad : (Commons.answer supplies i c s).2.had i = s.had i) :
    Advances calls supplies start s a i c (a.stand i) := by
  refine h.stay rfl hstore ?_
  rw [hhad]
  exact h.knows i

/-- A call by which the whole call takes effect. -/
theorem settle {outcome : Outcome} {store : Store} (h : Linear calls supplies start s a)
    (hopen : (a.stand i).outcome? = none) (houtcome : g.outcome? = some outcome)
    (hserve : serveCall calls supplies i s.world.storage = (outcome, store))
    (hstore : (Commons.answer supplies i c s).2.world.storage = store)
    (hgrown : s.world.storage.Grown store)
    (hknows : g.Knows (calls i).job (supplies i) ((Commons.answer supplies i c s).2.had i) store)
    (hstored : ∀ id r, store.requests.requests.get? id = some r →
      (s.world.storage.requests.requests.get? id).isSome ∨ id = (supplies i).id 0) :
    Advances calls supplies start s a i c g := by
  -- `i` goes to the end of the order: all that took effect before is served as before, and `i` is
  -- served in the store as it is now.
  have hnew : i ∉ a.order := by
    rw [h.ordered, hopen]
    exact nofun
  have hothers : ∀ {j}, j ∈ a.order → j ≠ i := fun hj heq => hnew (heq ▸ hj)
  refine ⟨{ stand := Function.update a.stand i g, order := a.order ++ [i] }, List.prefix_append ..,
    fun j hj => Function.update_of_ne hj .., Function.update_self .., ?_⟩
  constructor
  · exact List.nodup_append.2 ⟨h.nodup, by simp, by
      rintro j hj k hk
      rw [List.mem_singleton.1 hk]
      exact hothers hj⟩
  · intro j
    show j ∈ a.order ++ [i] ↔ (Function.update a.stand i g j).outcome?.isSome
    by_cases hj : j = i
    · simp [hj, houtcome]
    · rw [Function.update_of_ne hj, ← h.ordered j]
      simp [hj]
  · rw [serveAll_append, h.store, serveAll_cons, hserve, hstore]
    rfl
  · rw [serveAll_append, h.store, serveAll_cons, hserve, List.map_append, h.outcomes,
      List.map_append]
    congr 1
    · refine List.map_congr_left fun j hj => ?_
      show _ = (Function.update a.stand i g j).outcome?
      rw [Function.update_of_ne (hothers hj)]
    · show [some outcome] = [(Function.update a.stand i g i).outcome?]
      rw [Function.update_self, houtcome]
  · intro j
    rw [hstore]
    by_cases hj : j = i
    · subst hj
      simpa using hknows
    · rw [Commons.had_answer_of_ne hj]
      simpa [Function.update_of_ne hj] using (h.knows j).mono hgrown
  · rw [hstore]
    intro id r hr
    rcases hstored id r hr with hsome | rfl
    · obtain ⟨r', hr'⟩ := Option.isSome_iff_exists.1 hsome
      rcases h.stored id r' hr' with hstart | ⟨j, hj, hid⟩
      · exact .inl hstart
      · exact .inr ⟨j, List.mem_append_left _ hj, hid⟩
    · exact .inr ⟨i, List.mem_append_right _ (List.mem_singleton.2 rfl), rfl⟩

/-! ## The moments at which calls take effect

One lemma for each kind of statement. An application that finds no event takes effect when it looks
for it, otherwise when it enters its request. A review takes effect when it finds that nothing can
come of it, or when the statement that moves the request is carried out, whoever wins. -/

omit [DecidableEq ι] in
/-- What is known of a call that has not taken effect. -/
theorem knows_open {job : Job} {id : Option String} {time : Option Instant} {seen : Bool}
    (h : Linear calls supplies start s a) (hstand : a.stand i = .open job id time seen) :
    (a.stand i).outcome? = none ∧ (calls i).job = job ∧ Drawn (supplies i).id (s.had i).1 id ∧
      Drawn (supplies i).time (s.had i).2 time ∧ (seen → job.Seen s.world.storage) := by
  have hknows := h.knows i
  rw [hstand] at hknows ⊢
  obtain ⟨rfl, hid, htime, hseen⟩ := hknows
  exact ⟨rfl, rfl, hid, htime, hseen⟩

omit [DecidableEq ι] in
/-- The id of a call that has not taken effect names no request. -/
theorem unused (hids : Function.Injective fun p : ι × Nat => (supplies p.1).id p.2)
    (hfresh : ∀ i n, start.requests.requests.get? ((supplies i).id n) = none)
    (h : Linear calls supplies start s a) (hopen : (a.stand i).outcome? = none) :
    s.world.storage.requests.requests.get? ((supplies i).id 0) = none := by
  cases hr : s.world.storage.requests.requests.get? ((supplies i).id 0) with
  | none => rfl
  | some r =>
    rcases h.stored _ r hr with hstart | ⟨j, hj, hid⟩
    · rw [hfresh] at hstart
      exact absurd hstart nofun
    · have hij : (i, 0) = (j, 0) := hids hid
      rw [h.ordered, ← (Prod.mk.inj hij).1, hopen] at hj
      exact absurd hj nofun

theorem createEvent {p : CreateEvent} {id : String} {time : Instant} {seen : Bool}
    (h : Linear calls supplies start s a)
    (hstand : a.stand i = .open (.createEvent p) (some id) (some time) seen) :
    Advances calls supplies start s a i (.statement (.createEvent (Events.ofPayload p id time)))
      (.settled (.ok (.inl (Events.ofPayload p id time)))) := by
  obtain ⟨hopen, hjob, hid, htime, -⟩ := h.knows_open hstand
  refine h.settle hopen rfl ?_ rfl (Store.Grown.createEvent _) ?_ ?_
  · rw [serveCall, hjob, ← hid, ← htime]
    rfl
  · intro error hrefuse
    rw [hjob] at hrefuse
    exact absurd hrefuse nofun
  · exact fun _ _ hr => .inl (Option.isSome_of_mem hr)

/-- A look at the store by which a call takes effect. -/
theorem settleByLook {outcome : Outcome} {q : Statement} (h : Linear calls supplies start s a)
    (hopen : (a.stand i).outcome? = none) (hjob : ∀ error, (calls i).job ≠ .refuse error)
    (hlook : (s.world.storage.execute q).2 = s.world.storage)
    (hserve : serveCall calls supplies i s.world.storage = (outcome, s.world.storage)) :
    Advances calls supplies start s a i (.statement q) (.settled outcome) := by
  refine h.settle hopen rfl hserve hlook (Store.Grown.refl _) ?_ ?_
  · exact fun error hrefuse => absurd hrefuse (hjob error)
  · exact fun _ _ hr => .inl (Option.isSome_of_mem hr)

theorem lookup {p : CreateRequest} {id : Option String} {time : Option Instant}
    (h : Linear calls supplies start s a) (hstand : a.stand i = .open (.apply p) id time false) :
    Advances calls supplies start s a i (.statement (.getEvent p.eventId))
      (Stage.afterLookup p id time (s.world.storage.events.get? p.eventId)) := by
  obtain ⟨hopen, hjob, hid, htime, -⟩ := h.knows_open hstand
  -- Without its event the application is refused here; otherwise its moment is still to come.
  cases hfound : s.world.storage.events.get? p.eventId with
  | none =>
    refine h.settleByLook hopen (by rw [hjob]; exact fun _ => nofun) rfl ?_
    rw [serveCall, hjob, Job.serve, hfound]
  | some e =>
    refine h.stay hopen.symm rfl ?_
    rw [Commons.had_answer_statement, hjob]
    exact ⟨rfl, hid, htime, fun _ => by rw [Job.Seen, hfound]; rfl⟩

theorem enter {p : CreateRequest} {id : String} {time : Instant}
    (hids : Function.Injective fun p : ι × Nat => (supplies p.1).id p.2)
    (hfresh : ∀ i n, start.requests.requests.get? ((supplies i).id n) = none)
    (h : Linear calls supplies start s a)
    (hstand : a.stand i = .open (.apply p) (some id) (some time) true) :
    Advances calls supplies start s a i
      (.statement (.createPending (.newPending id p.userId p.eventId time)))
      (Stage.afterEntry p (.newPending id p.userId p.eventId time)
        (s.world.storage.requests.createPending (.newPending id p.userId p.eventId time)).1) := by
  obtain ⟨hopen, hjob, hid, htime, hseen⟩ := h.knows_open hstand
  -- The event was there at the lookup, so it is there when the call is served now.
  obtain ⟨e, he⟩ := Option.isSome_iff_exists.1 (hseen rfl)
  have hfree : s.world.storage.requests.requests.get? id = none := by
    rw [show id = (supplies i).id 0 from hid]
    exact h.unused hids hfresh hopen
  have hrefuse : ∀ error, (calls i).job ≠ .refuse error := by
    rw [hjob]
    exact fun _ => nofun
  have hserve : serveCall calls supplies i s.world.storage =
      (if (s.world.storage.requests.createPending (.newPending id p.userId p.eventId time)).1 then
          .ok (.inr (.newPending id p.userId p.eventId time))
        else .error (.duplicateRequest p.userId p.eventId),
        (s.world.storage.execute (.createPending (.newPending id p.userId p.eventId time))).2) := by
    rw [serveCall, hjob, ← hid, ← htime, Job.serve, he]
    rfl
  refine h.settle hopen ?_ hserve rfl (Store.Grown.createPending hfree) ?_ ?_
  · cases (s.world.storage.requests.createPending (.newPending id p.userId p.eventId time)).1 with
    | false => rfl
    | true => rfl
  · cases (s.world.storage.requests.createPending (.newPending id p.userId p.eventId time)).1 with
    | false => exact fun error herror => absurd herror (hrefuse error)
    | true => exact fun error herror => absurd herror (hrefuse error)
  · intro x r hr
    have hr : (s.world.storage.requests.createPending
      (.newPending id p.userId p.eventId time)).2.requests.get? x = some r := hr
    rcases s.world.storage.requests.createPending_cases (.newPending id p.userId p.eventId time) with
      ⟨-, hrefused⟩ | ⟨-, hentered⟩
    · rw [hrefused] at hr
      exact .inl (Option.isSome_of_mem hr)
    · rw [hentered, Table.get?_set] at hr
      by_cases hx : x = id
      · exact .inr (hx.trans hid)
      · rw [if_neg (show x ≠ (Request.newPending id p.userId p.eventId time).id from hx)] at hr
        exact .inl (Option.isSome_of_mem hr)

theorem inspect {id : String} {verdict : Option Request → Outcome} {x : Option String}
    {time : Option Instant} {seen : Bool} (h : Linear calls supplies start s a)
    (hstand : a.stand i = .open (.inspect id verdict) x time seen) :
    Advances calls supplies start s a i (.statement (.getRequest id))
      (.settled (verdict (s.world.storage.requests.requests.get? id))) := by
  obtain ⟨hopen, hjob, -⟩ := h.knows_open hstand
  refine h.settleByLook hopen (by rw [hjob]; exact fun _ => nofun) rfl ?_
  rw [serveCall, hjob, Job.serve]

theorem look {id : String} {status : RequestStatus} {x : Option String} {time : Option Instant}
    (h : Linear calls supplies start s a)
    (hstand : a.stand i = .open (.review id status) x time false) :
    Advances calls supplies start s a i (.statement (.getRequest id))
      (Stage.afterLook id status x time (s.world.storage.requests.requests.get? id)) := by
  obtain ⟨hopen, hjob, hid, htime, -⟩ := h.knows_open hstand
  have hrefuse : ∀ error, (calls i).job ≠ .refuse error := by
    rw [hjob]
    exact fun _ => nofun
  cases hfound : s.world.storage.requests.requests.get? id with
  | none =>
    refine h.settleByLook hopen hrefuse rfl ?_
    rw [serveCall, hjob, Job.serve, hfound]
  | some r =>
    by_cases hmove : r.status.canMoveTo status
    · rw [Stage.afterLook, if_pos hmove]
      refine h.stay hopen.symm rfl ?_
      rw [Commons.had_answer_statement, hjob]
      have hterminal : status.isTerminal := (Bool.and_eq_true_iff.1 hmove).2
      exact ⟨rfl, hid, htime, fun _ => ⟨hterminal, by rw [hfound]; rfl⟩⟩
    · rw [Stage.afterLook, if_neg hmove]
      refine h.settleByLook hopen hrefuse rfl ?_
      rw [serveCall, hjob, Job.serve, hfound]
      simp only [if_neg hmove]

/-- The attempt to move a request is decisive also when it fails: the request is terminal then, and
will be found so. -/
theorem move {id : String} {status : RequestStatus} {x : Option String} {time : Instant}
    (h : Linear calls supplies start s a)
    (hstand : a.stand i = .open (.review id status) x (some time) true) :
    ∃ current, Advances calls supplies start s a i (.statement (.transition id status time))
      (Stage.afterMove id current status (s.world.storage.requests.transition id status time).1) := by
  obtain ⟨hopen, hjob, hid, htime, hseen⟩ := h.knows_open hstand
  obtain ⟨hterminal, hsome⟩ := hseen rfl
  have hrefuse : ∀ error, (calls i).job ≠ .refuse error := by
    rw [hjob]
    exact fun _ => nofun
  rcases s.world.storage.requests.transition_cases id status time with
    ⟨hdecided, hnone⟩ | ⟨r, hr, hpending, hmoved⟩
  -- The race is lost. Served at this moment, the review would be refused with the status that
  -- is stored, which is the one that the second look will find.
  · obtain ⟨r, hr⟩ := Option.isSome_iff_exists.1 hsome
    have hmove : ¬ r.status.canMoveTo status := by
      simp [RequestStatus.canMoveTo, hdecided r hr]
    refine ⟨r.status, ?_⟩
    rw [hnone]
    refine h.settle hopen rfl ?_ ?_ (Store.Grown.refl _) ⟨hrefuse, r, hr, rfl, hdecided r hr⟩ ?_
    · rw [serveCall, hjob, Job.serve, hr]
      simp only [if_neg hmove]
    · show { s.world.storage with
        requests := (s.world.storage.requests.transition id status time).2 } = _
      rw [hnone]
    · exact fun _ _ hr => .inl (Option.isSome_of_mem hr)
  · have hmove : r.status.canMoveTo status := by
      simp [RequestStatus.canMoveTo, hpending, hterminal]
    refine ⟨status, ?_⟩
    rw [hmoved]
    refine h.settle hopen rfl ?_ rfl (Store.Grown.transition id status time) ?_ ?_
    · rw [serveCall, hjob, Job.serve, hr, ← htime]
      simp only [if_pos hmove]
      rfl
    · exact fun error herror => absurd herror (hrefuse error)
    · intro y r' hr'
      have hr' : (s.world.storage.requests.transition id status time).2.requests.get? y = some r' := hr'
      left
      rw [hmoved, Table.get?_set] at hr'
      by_cases hy : y = id
      · rw [hy]
        exact Option.isSome_of_mem hr
      · rw [if_neg hy] at hr'
        exact Option.isSome_of_mem hr'

/-! ## Calls in general

The rules of the workflow say which call comes next at each stage, and the lemmas above cover them
one by one. The two assumptions are about ids only: no two callers draw the same one, and none of
them is in use at the start. -/

/-- A call that the workflow allows is answered as it says, and the account goes on. -/
theorem leads (hids : Function.Injective fun p : ι × Nat => (supplies p.1).id p.2)
    (hfresh : ∀ i n, start.requests.requests.get? ((supplies i).id n) = none)
    (h : Linear calls supplies start s a) {b : c.Answer} {g' : Stage}
    (hrule : (a.stand i).Leads c b g') :
    ∃ g, (a.stand i).Leads c (Commons.answer supplies i c s).1 g ∧
      Advances calls supplies start s a i c g := by
  have hknows := h.knows i
  generalize hstand : a.stand i = g at hrule hknows ⊢
  -- The rule says which call it is; the answer of the storage says where it leads.
  cases hrule with
  | log entry =>
    rw [← hstand]
    exact ⟨_, .log .., h.idle rfl (Function.update_self ..)⟩
  | measure m =>
    rw [← hstand]
    exact ⟨_, .measure .., h.idle rfl (Function.update_self ..)⟩
  | publish outcome change n =>
    refine ⟨_, .publish .., ?_⟩
    rw [← hstand]
    exact h.idle rfl (Function.update_self ..)
  | freshId job time seen id =>
    obtain ⟨hjob, hid, htime, hseen⟩ := hknows
    refine ⟨_, .freshId .., h.stay (by rw [hstand]; rfl) rfl ?_⟩
    rw [Commons.had_answer_self]
    exact ⟨hjob, congrArg (supplies i).id hid, htime, hseen⟩
  | clock job id seen time =>
    obtain ⟨hjob, hid, htime, hseen⟩ := hknows
    refine ⟨_, .clock .., h.stay (by rw [hstand]; rfl) rfl ?_⟩
    rw [Commons.had_answer_self]
    exact ⟨hjob, hid, congrArg (supplies i).time htime, hseen⟩
  | createEvent p id time seen => exact ⟨_, .createEvent .., h.createEvent hstand⟩
  | lookup p id time found => exact ⟨_, .lookup .., h.lookup hstand⟩
  | enter p id time created => exact ⟨_, .enter .., h.enter hids hfresh hstand⟩
  | inspect id verdict x time seen found => exact ⟨_, .inspect .., h.inspect hstand⟩
  | look id status x time found => exact ⟨_, .look .., h.look hstand⟩
  | move id status x time current updated =>
    obtain ⟨current, hadvances⟩ := h.move hstand
    exact ⟨_, .move .., hadvances⟩
  | lookAgain id current status r hcurrent =>
    obtain ⟨hrefuse, r, hr, hstatus, -⟩ := hknows
    have hanswer : (Commons.answer supplies i (.statement (.getRequest id)) s).1 = .ok (some r) :=
      congrArg Except.ok hr
    rw [hanswer]
    refine ⟨_, .lookAgain id current status r hstatus, h.stay (by rw [hstand]; rfl) rfl ?_⟩
    exact fun error herror => absurd herror (hrefuse error)

/-- A call that refuses at once takes effect with its first entry in the log. -/
theorem refuses {error : DeskError} {entry : Log.Entry} (hjob : (calls i).job = .refuse error)
    (h : Linear calls supplies start s a) :
    Advances calls supplies start s a i (.log entry) (.settled (.error error)) := by
  have hknows := h.knows i
  cases hstand : a.stand i with
  | settled outcome =>
    rw [hstand] at hknows
    rw [← hknows error hjob, ← hstand]
    exact h.idle rfl (Function.update_self ..)
  | lost id current status =>
    rw [hstand] at hknows
    exact absurd hjob (hknows.1 error)
  | «open» job id time seen =>
    have hserve : serveCall calls supplies i s.world.storage = (.error error, s.world.storage) := by
      rw [serveCall, hjob, Job.serve]
    refine h.settle (by rw [hstand]; rfl) rfl hserve rfl (Store.Grown.refl _) ?_ ?_
    · intro error' herror
      rw [hjob] at herror
      rw [Job.refuse.inj herror]
    · exact fun _ _ hr => .inl (Option.isSome_of_mem hr)

/-- Every call that a contract allows is answered as it says, and the account goes on. -/
theorem call (hids : Function.Injective fun p : ι × Nat => (supplies p.1).id p.2)
    (hfresh : ∀ i n, start.requests.requests.get? ((supplies i).id n) = none)
    (h : Linear calls supplies start s a)
    (hallows : (calls i).job.contract.allows (a.stand i) c) :
    ∃ g, (calls i).job.contract.leads (a.stand i) c (Commons.answer supplies i c s).1 g ∧
      Advances calls supplies start s a i c g := by
  cases hjob : (calls i).job with
  | refuse error =>
    rw [hjob] at hallows
    obtain ⟨entry, rfl⟩ := hallows
    exact ⟨_, rfl, h.refuses hjob⟩
  | _ =>
    rw [hjob] at hallows
    obtain ⟨b, g', hrule⟩ := hallows
    exact h.leads hids hfresh hrule

omit [DecidableEq ι] in
/-- Before the first call. -/
theorem begin (supplies : ι → Supply) (calls : ι → Workflow) (start : Store)
    (channel : Channel StatusChange) :
    Linear calls supplies start { world := { storage := start, channel } }
      { stand := fun i => (calls i).job.start, order := [] } where
  nodup := List.nodup_nil
  ordered _ := ⟨nofun, nofun⟩
  store := rfl
  outcomes := rfl
  knows _ := ⟨rfl, rfl, rfl, nofun⟩
  stored _ _ hr := .inl (Option.isSome_of_mem hr)

/-- The ledger of the workflow. -/
def ledger (calls : ι → Workflow)
    (hids : Function.Injective fun p : ι × Nat => (supplies p.1).id p.2)
    (hfresh : ∀ i n, start.requests.requests.get? ((supplies i).id n) = none) :
    Ledger (fun i => (calls i).job.contract) (Commons.answer supplies) (Account ι) where
  stand a := a.stand
  grows a a' := a.order <+: a'.order
  holds s _ a := Linear calls supplies start s a
  refl _ := List.prefix_rfl
  trans := List.IsPrefix.trans
  call h hallows := by
    obtain ⟨g, hleads, a', hbegins, hothers, hstand, hlinear⟩ := h.call hids hfresh hallows
    exact ⟨a', hbegins, hothers, by rw [hstand]; exact hleads, hlinear⟩

end Linear
end RewardDesk
