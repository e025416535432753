import Mathlib
import RewardDesk.Proofs.Interleaving.Errand
import RewardDesk.Proofs.Paging.Pages
import RewardDesk.Proofs.Store.Selection

/-!
# Walks among programs at work

Somebody walks through a listing page by page while programs are at work: what they write between
two pages may stand in front of the cursor or behind it, and may change what the filter admits. The
walk never turns back for all that, and what was listed at every page is met exactly once
(`Crew.cursor_walks_steady`).

Each page leaves what is behind its last item to the pages after it. `Onward` says of the visits
from a cursor on what the whole walk needs of them, and is shown from the last page backwards.
-/

namespace RewardDesk

/-! ## Walks

A walk is the list of its pages, each with the store in which it was read, since the records that
are meant may be others at every page. `Steady` speaks of those lists only and knows nothing of
cursors. -/

/-- A page, and the store in which it was read. -/
structure Visit (α : Type) where
  store : Store
  page : CursorPage α

variable {ι α β : Type}

/-- Walk through a listing among programs at work. They make the calls of a stretch of their
schedule, then a page is read, and so on. The first page is read with a cursor that is given, the
others with the cursor of the page before, and there are no more after a page that says so. -/
def Crew.walk [DecidableEq ι] (supply : Supply)
    (read : Option String → Option UInt32 → Desk (CursorPage α)) :
    Option String → Crew ι (World Store) β → List (List ι × Option UInt32) →
      Except DeskError (List (Visit α))
  | _, _, [] => .ok []
  | cursor, crew, (stretch, limit) :: plan =>
    let crew := crew.run (fun _ => World.answer .memory supply) stretch
    match World.run .memory supply (read cursor limit).run crew.state with
    | (.error e, _) => .error e
    | (.ok page, state) =>
      if page.hasMore then
        (walk supply read page.nextCursor { crew with state } plan).map
          (⟨crew.state.storage, page⟩ :: ·)
      else .ok [⟨crew.state.storage, page⟩]

namespace Visit

/-- Has the last page been read? -/
def Finished (visits : List (Visit α)) : Prop :=
  ∃ v ∈ visits.getLast?, v.page.hasMore = false

instance (visits : List (Visit α)) : Decidable (Finished visits) :=
  inferInstanceAs (Decidable (∃ v ∈ visits.getLast?, v.page.hasMore = false))

theorem Finished.of_cons {v : Visit α} {visits : List (Visit α)} (h : Finished (v :: visits))
    (hmore : v.page.hasMore = true) : Finished visits := by
  obtain ⟨w, hw, hlast⟩ := h
  cases visits with
  | nil =>
    have hw : v = w := Option.some.inj hw
    rw [← hw, hmore] at hlast
    cases hlast
  | cons head visits =>
    rw [List.getLast?_cons_cons] at hw
    exact ⟨w, hw, hlast⟩

variable [Recorded α]

/-- The ids that were met, in order. -/
def ids (visits : List (Visit α)) : List String :=
  visits.flatMap fun v => v.page.items.map Recorded.id

/-- What can be relied on in a walk through the records that are meant in a store. -/
structure Steady (meant : Store → α → Prop) (visits : List (Visit α)) : Prop where
  /-- Ids ascend over all pages, so that none is met twice. -/
  ascending : (ids visits).Pairwise (· < ·)
  /-- What is on a page was meant when the page was read. -/
  listed : ∀ v ∈ visits, ∀ a ∈ v.page.items, meant v.store a
  /-- What was meant for every page is met exactly once. -/
  complete : Finished visits → ∀ id, (∀ v ∈ visits, ∃ a, meant v.store a ∧ Recorded.id a = id) →
    (ids visits).count id = 1

@[simp] theorem ids_cons (v : Visit α) (visits : List (Visit α)) :
    ids (v :: visits) = v.page.items.map Recorded.id ++ ids visits := by
  rw [ids, List.flatMap_cons]
  rfl

/-! ## From a cursor on

What is behind an id is well defined in any store, whether or not the record with that id is still
there. So nothing has to be assumed of the record that a cursor was made from. -/

/-- The part of a walk that lies behind an id. -/
structure Onward (meant : Store → α → Prop) (after : Option String) (visits : List (Visit α)) :
    Prop where
  ascending : (ids visits).Pairwise (· < ·)
  behind : ∀ id ∈ ids visits, ∀ a ∈ after, a < id
  listed : ∀ v ∈ visits, ∀ a ∈ v.page.items, meant v.store a
  complete : Finished visits → ∀ id, (∀ a ∈ after, a < id) →
    (∀ v ∈ visits, ∃ a, meant v.store a ∧ Recorded.id a = id) → id ∈ ids visits

variable {meant : Store → α → Prop} {after : Option String} {visits : List (Visit α)}

/-- The part without a cursor is the whole walk. -/
theorem Onward.steady (h : Onward meant none visits) : Steady meant visits where
  ascending := h.ascending
  listed := h.listed
  complete hfinished id hid := by
    have hmem : id ∈ ids visits := h.complete hfinished id (by simp) hid
    have hnodup : (ids visits).Nodup := h.ascending.imp fun hlt heq => by simp [heq] at hlt
    rw [hnodup.count, if_pos hmem]

theorem Onward.nil : Onward meant after [] where
  ascending := List.Pairwise.nil
  behind := by simp [ids]
  listed := by simp
  complete := by simp [Finished]

section
variable {s : Store} {records rest : List α}

/-- The last page shows all that is behind its cursor. -/
theorem Onward.last (hasc : records.Pairwise fun a b => Recorded.id a < Recorded.id b)
    (hmeant : ∀ a, a ∈ records ↔ meant s a)
    (hrest : records.filter (Listing.isBehind after) = rest) :
    Onward meant after [⟨s, ⟨rest, none, false⟩⟩] := by
  have hmem {a : α} : a ∈ rest ↔ meant s a ∧ ∀ id ∈ after, id < Recorded.id a := by
    rw [← hrest, Listing.mem_filter_isBehind, hmeant]
  constructor
  case ascending =>
    rw [ids_cons, ids, List.flatMap_nil, List.append_nil, List.pairwise_map, ← hrest]
    exact hasc.filter _
  case behind =>
    intro id hid
    rw [ids_cons, ids, List.flatMap_nil, List.append_nil] at hid
    obtain ⟨a, ha, rfl⟩ := List.mem_map.1 hid
    exact (hmem.1 ha).2
  case listed =>
    intro v hv a ha
    obtain rfl := List.mem_singleton.1 hv
    exact (hmem.1 ha).1
  case complete =>
    intro _ id hid hall
    obtain ⟨a, ha, rfl⟩ := hall _ List.mem_cons_self
    rw [ids_cons, List.mem_append]
    exact .inl (List.mem_map_of_mem (hmem.2 ⟨ha, hid⟩))

/-- A page that is not the last shows what is behind its cursor, up to the next one. -/
theorem Onward.cons {init more : List α} {last : α} {next : Option String}
    (hasc : records.Pairwise fun a b => Recorded.id a < Recorded.id b)
    (hmeant : ∀ a, a ∈ records ↔ meant s a)
    (hrest : records.filter (Listing.isBehind after) = init ++ last :: more)
    (h : Onward meant (some (Recorded.id last)) visits) :
    Onward meant after (⟨s, ⟨init ++ [last], next, true⟩⟩ :: visits) := by
  have hmem {a : α} : a ∈ init ++ last :: more ↔ meant s a ∧ ∀ id ∈ after, id < Recorded.id a := by
    rw [← hrest, Listing.mem_filter_isBehind, hmeant]
  have hitem {a : α} (ha : a ∈ init ++ [last]) : a ∈ init ++ last :: more := by
    rw [← List.singleton_append, ← List.append_assoc]
    exact List.mem_append_left more ha
  obtain ⟨hinit, htail, hcross⟩ := List.pairwise_append.1 (hrest ▸ hasc.filter _)
  have hlast : ∀ a ∈ init, Recorded.id a < Recorded.id last := fun a ha =>
    hcross a ha last List.mem_cons_self
  -- The pages to come lie behind the last item of this one.
  have hbefore {a : α} (ha : a ∈ init ++ [last]) {id : String} (hid : id ∈ ids visits) :
      Recorded.id a < id := by
    have hlt : Recorded.id last < id := h.behind id hid _ rfl
    rcases List.mem_append.1 ha with ha | ha
    · exact String.lt_trans (hlast a ha) hlt
    · rwa [List.mem_singleton.1 ha]
  constructor
  case ascending =>
    rw [ids_cons, List.pairwise_append, List.pairwise_map]
    refine ⟨List.pairwise_append.2 ⟨hinit, List.pairwise_singleton _ _, ?_⟩, h.ascending, ?_⟩
    · intro a ha b hb
      rw [List.mem_singleton.1 hb]
      exact hlast a ha
    · intro id hid other hother
      obtain ⟨a, ha, rfl⟩ := List.mem_map.1 hid
      exact hbefore ha hother
  case behind =>
    intro id hid other hother
    rw [ids_cons, List.mem_append] at hid
    rcases hid with hid | hid
    · obtain ⟨a, ha, rfl⟩ := List.mem_map.1 hid
      exact (hmem.1 (hitem ha)).2 other hother
    · have hlt : other < Recorded.id last :=
        (hmem.1 (List.mem_append_right init List.mem_cons_self)).2 other hother
      exact String.lt_trans hlt (h.behind id hid _ rfl)
  case listed =>
    intro v hv a ha
    rcases List.mem_cons.1 hv with rfl | hv
    · exact (hmem.1 (hitem ha)).1
    · exact h.listed v hv a ha
  case complete =>
    intro hfinished id hid hall
    obtain ⟨a, ha, rfl⟩ := hall _ List.mem_cons_self
    rw [ids_cons, List.mem_append]
    -- what is not on this page lies behind its last item
    rcases List.mem_append.1 (hmem.2 ⟨ha, hid⟩) with hfront | hback
    · exact .inl (List.mem_map_of_mem (List.mem_append_left [last] hfront))
    · rcases List.mem_cons.1 hback with rfl | hmore
      · exact .inl (List.mem_map_of_mem List.mem_concat_self)
      · have hlt : Recorded.id last < Recorded.id a := (List.pairwise_cons.1 htail).1 a hmore
        refine .inr (h.complete (hfinished.of_cons rfl) _ ?_ fun v hv =>
          hall v (List.mem_cons_of_mem _ hv))
        intro other hother
        obtain rfl := Option.some.inj hother
        exact hlt

end
end Visit

/-! ## Reading a page

A page of rewards or requests is read by one statement, and the page is made from its answer. Both
are cases of `Reads`, which is all that the walk needs to know of them. -/

/-- A page of the rewards that a filter admits. -/
def Rewards.page (f : RewardFilter) (cursor : Option String) (limit : Option UInt32) :
    Desk (CursorPage Reward) :=
  walk { type := f.type, name := f.name, cursor, limit }

/-- A page of the requests that a filter admits. -/
def Requests.page (f : RequestFilter) (cursor : Option String) (limit : Option UInt32) :
    Desk (CursorPage Request) :=
  walk { userId := f.userId, eventId := f.eventId, status := f.status, cursor, limit }

namespace World

/-- Does `read` read the pages of `records`, and change nothing? -/
def Reads [Recorded α] (supply : Supply) (read : Option String → Option UInt32 → Desk (CursorPage α))
    (records : Store → List α) : Prop :=
  ∀ cursor limit w,
    let p := CursorParams.of cursor limit
    run .memory supply (read cursor limit).run w =
      (.ok (.ofFetched Recorded.id (Listing.walk p.query (records w.storage)) p.limit), w)

theorem reads_rewards (supply : Supply) (f : RewardFilter) :
    Reads supply (Rewards.page f) (·.rewardsOf f) :=
  fun _ _ _ => rfl

theorem reads_requests (supply : Supply) (f : RequestFilter) :
    Reads supply (Requests.page f) (·.requestsOf f) :=
  fun _ _ _ => rfl

end World

/-! ## The whole walk

The induction is on the plan of the walk, and each step puts one page in front of a walk that goes
onward already. That the records ascend by id is known of every store that statements have made. -/

namespace Crew

open Visit

variable [DecidableEq ι] [Recorded α] {supply : Supply} {records : Store → List α}
  {meant : Store → α → Prop} {read : Option String → Option UInt32 → Desk (CursorPage α)}

/-- One page, and the walk behind it. -/
theorem walk_cons (hread : World.Reads supply read records) (cursor : Option String)
    (crew : Crew ι (World Store) β) (stretch : List ι) (limit : Option UInt32)
    (plan : List (List ι × Option UInt32)) {page : CursorPage α}
    (hpage : .ofFetched Recorded.id (Listing.walk (CursorParams.of cursor limit).query
      (records (crew.run (fun _ => World.answer .memory supply) stretch).state.storage))
        (CursorParams.of cursor limit).limit = page) :
    crew.walk supply read cursor ((stretch, limit) :: plan) =
      let crew := crew.run (fun _ => World.answer .memory supply) stretch
      if page.hasMore then
        (crew.walk supply read page.nextCursor plan).map (⟨crew.state.storage, page⟩ :: ·)
      else .ok [⟨crew.state.storage, page⟩] := by
  rw [walk]
  simp only [hread cursor limit, hpage]

/-- A walk never fails, and from any cursor it goes onward. -/
theorem walk_onward (hread : World.Reads supply read records)
    (hasc : ∀ s : Store, s.Filed →
      (records s).Pairwise fun a b => Recorded.id a < Recorded.id b)
    (hmeant : ∀ s : Store, s.Filed → ∀ a, a ∈ records s ↔ meant s a)
    (plan : List (List ι × Option UInt32)) (cursor : Option String)
    (crew : Crew ι (World Store) β) (hfiled : crew.state.storage.Filed) :
    ∃ visits, crew.walk supply read cursor plan = .ok visits ∧
      ((∀ v ∈ visits, ∀ a ∈ records v.store, Recorded.id a ≠ "") →
        Onward meant (cursor.bind Cursor.decode) visits) := by
  induction plan generalizing cursor crew with
  | nil => exact ⟨[], rfl, fun _ => .nil⟩
  | cons entry plan ih =>
    obtain ⟨stretch, limit⟩ := entry
    have hfiled : (crew.run (fun _ => World.answer .memory supply) stretch).state.storage.Filed :=
      run_state (fun _ => World.filed_answer) stretch hfiled
    rcases CursorPage.ofFetched_cases (p := .of cursor limit) (hasc _ hfiled) rfl with
      ⟨-, hpage⟩ | ⟨init, last, more, hrest, -, -, hpage⟩
    · rw [walk_cons hread _ _ _ _ _ hpage]
      exact ⟨_, rfl, fun _ => .last (hasc _ hfiled) (hmeant _ hfiled) rfl⟩
    · rw [walk_cons hread _ _ _ _ _ hpage]
      obtain ⟨visits, hwalk, honward⟩ := ih (some (Cursor.encode (Recorded.id last))) _ hfiled
      refine ⟨_, by simp only [hwalk]; rfl, fun hids => ?_⟩
      refine .cons (hasc _ hfiled) (hmeant _ hfiled) hrest ?_
      have hlast : last ∈ init ++ last :: more := List.mem_append_right init List.mem_cons_self
      rw [← hrest] at hlast
      -- The next cursor names the last item, since no id is empty.
      have hne : Recorded.id last ≠ "" :=
        hids _ List.mem_cons_self last (List.mem_filter.1 hlast).1
      rw [Option.bind_some, Cursor.decode_encode_of_ne hne] at honward
      exact honward fun v hv => hids v (List.mem_cons_of_mem _ hv)

/-- Whatever programs do to a store meanwhile, a walk through the rewards or the requests that are
stored and meet the conditions of a filter never fails and is steady, as long as no record has the
empty id. -/
theorem cursor_walks_steady (supply : Supply) (channel : Channel StatusChange)
    (programs : ι → Program β) (plan : List (List ι × Option UInt32)) :
    let crew : Crew ι (World Store) β := ⟨{ storage := .empty, channel }, programs, []⟩
    (∀ f : RewardFilter,
      ∃ visits, crew.walk supply (Rewards.page f) none plan = .ok visits ∧
        ((∀ v ∈ visits, ∀ r ∈ v.store.rewards.values, r.id ≠ "") →
          Steady (·.HoldsReward f) visits)) ∧
    ∀ f : RequestFilter,
      ∃ visits, crew.walk supply (Requests.page f) none plan = .ok visits ∧
        ((∀ v ∈ visits, ∀ r ∈ v.store.requests.requests.values, r.id ≠ "") →
          Steady (·.HoldsRequest f) visits) := by
  intro crew
  constructor
  · intro f
    obtain ⟨visits, hwalk, honward⟩ := walk_onward (World.reads_rewards supply f)
      (fun s hs => hs.rewardsOf f) (fun s hs _ => Store.mem_rewardsOf hs) plan none crew
      Store.filed_empty
    refine ⟨visits, hwalk, fun hids => (honward fun v hv r hr => ?_).steady⟩
    exact hids v hv r (List.mem_filter.1 hr).1
  · intro f
    obtain ⟨visits, hwalk, honward⟩ := walk_onward (World.reads_requests supply f)
      (fun s hs => hs.requestsOf f) (fun s hs _ => Store.mem_requestsOf hs) plan none crew
      Store.filed_empty
    refine ⟨visits, hwalk, fun hids => (honward fun v hv r hr => ?_).steady⟩
    exact hids v hv r (List.mem_filter.1 hr).1

/-- Programs that enter a reward and a request under an id of their own. Only `x` is no badge and is
for another event. -/
def entering (i : Fin 4) : Program Unit := do
  let id := ["a", "b", "c", "x"][i]
  let data : RewardData := if id = "x" then .point 1 else .badge id
  let _ ← Program.ask (.statement (.createReward ⟨id, id, none, data, default, default⟩))
  let _ ← Program.ask (.statement (.createPending
    (.newPending id id (if id = "x" then "f" else "e") default)))
  return

/-- After a page with `a` alone comes one with `c` and with `b`, which was entered meanwhile. The
conditions leave out `x`, which has been there all the time. -/
theorem cursor_walks_steady_of_entering :
    let supply : Supply := ⟨fun _ => "", fun _ => default⟩
    let crew : Crew (Fin 4) (World Store) Unit :=
      ⟨{ storage := .empty, channel := .ofCapacity 1 }, entering, []⟩
    let plan := [([3, 3, 0, 0, 2, 2], some 1), ([1, 1], none)]
    (∃ visits, crew.walk supply (Rewards.page ⟨some .badge, none⟩) none plan = .ok visits ∧
      (∀ v ∈ visits, (v.store.rewards.get? "x").isSome) ∧
      ids visits = ["a", "b", "c"] ∧ (ids visits).count "c" = 1) ∧
    ∃ visits, crew.walk supply (Requests.page ⟨none, some "e", some .pending⟩) none plan =
        .ok visits ∧
      (∀ v ∈ visits, (v.store.requests.requests.get? "x").isSome) ∧
      ids visits = ["a", "b", "c"] ∧ (ids visits).count "c" = 1 := by
  intro supply crew plan
  obtain ⟨hrewards, hrequests⟩ := cursor_walks_steady supply (.ofCapacity 1) entering plan
  constructor
  · obtain ⟨visits, hwalk, hsteady⟩ := hrewards ⟨some .badge, none⟩
    have hseen : (crew.walk supply (Rewards.page ⟨some .badge, none⟩) none plan).toOption.any
        fun visits => decide ((∀ v ∈ visits, (v.store.rewards.get? "x").isSome) ∧
          ids visits = ["a", "b", "c"] ∧ Finished visits ∧
          (∀ v ∈ visits, ∀ r ∈ v.store.rewards.values, r.id ≠ "") ∧
          ∀ v ∈ visits, ∃ r ∈ v.store.rewards.values,
            v.store.HoldsReward ⟨some .badge, none⟩ r ∧ Recorded.id r = "c") := by
      cbv
    rw [hwalk] at hseen
    obtain ⟨hleft, hids, hfinished, hne, hheld⟩ := of_decide_eq_true hseen
    refine ⟨visits, hwalk, hleft, hids, (hsteady hne).complete hfinished "c" fun v hv => ?_⟩
    obtain ⟨r, -, hr⟩ := hheld v hv
    exact ⟨r, hr⟩
  · obtain ⟨visits, hwalk, hsteady⟩ := hrequests ⟨none, some "e", some .pending⟩
    have hseen : (crew.walk supply (Requests.page ⟨none, some "e", some .pending⟩) none
        plan).toOption.any
        fun visits => decide ((∀ v ∈ visits, (v.store.requests.requests.get? "x").isSome) ∧
          ids visits = ["a", "b", "c"] ∧ Finished visits ∧
          (∀ v ∈ visits, ∀ r ∈ v.store.requests.requests.values, r.id ≠ "") ∧
          ∀ v ∈ visits, ∃ r ∈ v.store.requests.requests.values,
            v.store.HoldsRequest ⟨none, some "e", some .pending⟩ r ∧ Recorded.id r = "c") := by
      cbv
    rw [hwalk] at hseen
    obtain ⟨hleft, hids, hfinished, hne, hheld⟩ := of_decide_eq_true hseen
    refine ⟨visits, hwalk, hleft, hids, (hsteady hne).complete hfinished "c" fun v hv => ?_⟩
    obtain ⟨r, -, hr⟩ := hheld v hv
    exact ⟨r, hr⟩

end Crew
end RewardDesk
