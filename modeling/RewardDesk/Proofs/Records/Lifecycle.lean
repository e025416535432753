import RewardDesk.Proofs.Records.InOrder

/-!
# The life of a record

No event, reward or request is ever lost, whatever errands are made and in whatever order their
calls come. From one moment of a run to any later one the records do nothing but age, and whoever
begins afterwards finds every reward that was there (`Since`).

`Errand.records_endure` draws the conclusions.
-/

namespace RewardDesk

variable {ι : Type} {supply : Supply}

/-! ## Since a moment

From a moment on the records do nothing but age, which needs no memory. Who begins later and looks
up a reward is another matter: what it finds has to be compared with what was stored at that moment
(`Since.finds`). -/

/-- What has become of the records since a moment at which some had not begun. -/
structure Since (supply : Supply) (before : Store) (late : ι → Prop) (w : World Store)
    (acc : ι → Docket) : Prop where
  order : InOrder supply w acc
  ages : before.Ages w.storage
  finds : ∀ j, late j → ∀ id found, (acc j).sought = some (id, found) →
    ∀ r, before.rewards.get? id = some r → found = some r

namespace Since

variable {before : Store} {late : ι → Prop} {w : World Store} {acc : ι → Docket} [DecidableEq ι]

/-- Only a look-up of a reward changes what was sought last. -/
theorem sought_after {g : Docket} {c : Call} {id : String} {found : Option Reward}
    (h : (g.after c (World.answer .memory supply c w).1).sought = some (id, found)) :
    g.sought = some (id, found) ∨ w.storage.rewards.get? id = found := by
  cases c with
  | statement q =>
    cases q with
    | getReward id' =>
      obtain ⟨rfl, hfound⟩ := Prod.mk.inj (Option.some.inj h)
      exact .inr hfound
    | _ => exact .inl h
  | _ => exact .inl h

theorem call (hids : Function.Injective supply.id) {i : ι} {c : Call}
    (h : Since supply before late w acc) (hallows : (acc i).allows c) :
    Since supply before late (World.answer .memory supply c w).2
      (Contract.determined.account Docket.after acc i c (World.answer .memory supply c w).1) where
  order := h.order.call hids hallows
  ages := h.ages.trans (h.order.ages hallows)
  finds j hj id found hsought r hr := by
    rcases Contract.determined.account_cases (P := fun g : Docket => g.sought = some (id, found))
      hsought with ⟨rfl, hi⟩ | ⟨-, hbefore⟩
    · rcases sought_after hi with hbefore | hnow
      · exact h.finds j hj id found hbefore r hr
      · rw [← hnow]
        exact h.ages.rewards id r hr
    · exact h.finds j hj id found hbefore r hr

end Since

/-! ## Whoever asks later

A run is cut at the moment, and its second part begins with the dockets that the first part has
left. An errand that asks for a reward keeps the contract of all errands and one about its answer
besides. -/

namespace Errand

variable [DecidableEq ι]

/-- An errand that asks for a reward. -/
def AsksFor (e : Errand) (p : ById) : Prop :=
  ∃ payload, e = .command "get_reward_by_id" payload ∧ ById.payload.read payload = .ok p

theorem AsksFor.unique {e : Errand} {p p' : ById} (h : e.AsksFor p) (h' : e.AsksFor p') : p' = p := by
  obtain ⟨payload, rfl, hread⟩ := h
  obtain ⟨payload', heq, hread'⟩ := h'
  obtain ⟨-, rfl⟩ := Errand.command.inj heq
  exact Except.ok.inj (hread'.symm.trans hread)

theorem AsksFor.obeys {e : Errand} {p : ById} (h : e.AsksFor p) :
    e.program.Obeys duty {} (Docket.Answers p.id) := by
  obtain ⟨payload, rfl, hread⟩ := h
  exact Router.obeys_rewardLookup hread

theorem runAll_append (supply : Supply) (channel : Channel StatusChange) (errands : ι → Errand)
    (schedule later : List ι) : runAll supply channel errands (schedule ++ later) =
      (runAll supply channel errands schedule).run (fun _ => World.answer .memory supply) later :=
  Crew.run_append ..

/-- From any moment of a run to a later one. -/
theorem exists_since (hids : Function.Injective supply.id) (channel : Channel StatusChange)
    (errands : ι → Errand) (schedule later : List ι) :
    let before := (runAll supply channel errands schedule).state.storage
    let crew := runAll supply channel errands (schedule ++ later)
    ∃ acc : ι → Docket, Since supply before (· ∉ schedule) crew.state acc ∧
      ∀ j outcome p, j ∉ schedule → (errands j).AsksFor p → crew.left j = .done outcome →
        Docket.Answers p.id outcome (acc j) := by
  intro before crew
  -- The dockets of the run so far are those with which the rest of it begins.
  obtain ⟨acc, horder, hunmoved, hobeys⟩ := exists_inOrder hids channel errands schedule
  have hstart : Since supply before (· ∉ schedule)
      (runAll supply channel errands schedule).state acc := by
    refine ⟨horder, .refl before, fun j hj id found hsought => ?_⟩
    rw [hunmoved j hj] at hsought
    exact absurd hsought nofun
  have hlooks : ∀ j, ((runAll supply channel errands schedule).left j).Obeys duty (acc j)
      fun outcome g => ∀ p, j ∉ schedule → (errands j).AsksFor p →
        Docket.Answers p.id outcome g := by
    intro j
    by_cases hj : j ∉ schedule ∧ ∃ p, (errands j).AsksFor p
    · obtain ⟨hlate, p, hasks⟩ := hj
      have hleft : (runAll supply channel errands schedule).left j = (errands j).program :=
        Crew.left_run_of_not_mem hlate
      rw [hleft, hunmoved j hlate]
      refine hasks.obeys.mono fun outcome g hanswer => ?_
      intro p' _ hasks'
      rw [hasks.unique hasks']
      exact hanswer
    · refine (hobeys j).mono fun outcome g _ => ?_
      intro p hlate hasks
      exact absurd ⟨hlate, p, hasks⟩ hj
  obtain ⟨acc', hsince, -, hobeys'⟩ := Contract.determined.run_keeps
    (fun w _ acc => Since supply before (· ∉ schedule) w acc) (fun h hallows => h.call hids hallows)
    later hstart hlooks
  rw [← runAll_append] at hsince hobeys'
  refine ⟨acc', hsince, fun j outcome p hj hasks hdone => ?_⟩
  have hj' := hobeys' j
  rw [show (runAll supply channel errands (schedule ++ later)).left j = _ from hdone] at hj'
  exact hj' p hj hasks

/-- The reward that an errand has created is stored. -/
theorem stored_of_created (hids : Function.Injective supply.id) (channel : Channel StatusChange)
    (errands : ι → Errand) (schedule : List ι) {i : ι} {payload answer : Json}
    (hcommand : errands i = .command "create_reward" payload)
    (hdone : (runAll supply channel errands schedule).left i = .done (.ok answer)) :
    ∃ r, answer = Reward.codec.encode r ∧
      (runAll supply channel errands schedule).state.storage.rewards.get? r.id = some r := by
  obtain ⟨acc, horder, -, hobeys⟩ := exists_inOrder hids channel errands schedule
  have hends := hobeys i
  rw [hdone, hcommand] at hends
  obtain ⟨r, hanswer, hdeed⟩ := Command.Did.reward hends rfl
  exact ⟨r, hanswer, horder.made i r hdeed⟩

/-! ## Whole runs -/

/-- If no id is given out twice, then from any moment of a run of errands on, whatever calls come
later:

* every event, reward and request is still there; an event has the id and the creation time it had,
  a reward is the same in every field, and a request is the same too or has gone from pending to
  approved or rejected and got another time of its last change;
* a request whose status has changed never changes again;
* a reward that `create_reward` has answered is stored as it was answered, and whoever begins to ask
  for it by its id is answered the same, and is answered after some turns. -/
theorem records_endure (hids : Function.Injective supply.id) (channel : Channel StatusChange)
    (errands : ι → Errand) (schedule : List ι) :
    let crew := runAll supply channel errands
    let stored := fun schedule => (crew schedule).state.storage
    (∀ later, (stored schedule).Ages (stored (schedule ++ later))) ∧
    (∀ later id r r', (stored schedule).requests.requests.get? id = some r →
      (stored (schedule ++ later)).requests.requests.get? id = some r' → r'.status ≠ r.status →
        ∀ further, (stored (schedule ++ later ++ further)).requests.requests.get? id = some r') ∧
    ∀ i payload answer, errands i = .command "create_reward" payload →
      (crew schedule).left i = .done (.ok answer) →
        ∃ r, answer = Reward.codec.encode r ∧
          (∀ later, (stored (schedule ++ later)).rewards.get? r.id = some r) ∧
          ∀ j, j ∉ schedule → (errands j).AsksFor ⟨r.id⟩ → ∀ later,
            (∀ outcome, (crew (schedule ++ later)).left j = .done outcome → outcome = .ok answer) ∧
            ∃ n, (crew (schedule ++ later ++ .replicate n j)).left j = .done (.ok answer) := by
  intro crew stored
  have hages : ∀ schedule later, (stored schedule).Ages (stored (schedule ++ later)) := by
    intro schedule later
    obtain ⟨_, hsince, -⟩ := exists_since hids channel errands schedule later
    exact hsince.ages
  refine ⟨hages schedule, fun later id r r' hr hr' hchanged further => ?_,
    fun i payload answer hcommand hdone => ?_⟩
  · obtain ⟨r₁, hr₁, hbecomes⟩ := (hages schedule later).requests id r hr
    obtain rfl := Option.some.inj (hr'.symm.trans hr₁)
    obtain ⟨r₂, hr₂, hbecomes'⟩ := (hages (schedule ++ later) further).requests id r' hr'
    rwa [hbecomes.eq_of_changed hchanged hbecomes'] at hr₂
  · obtain ⟨r, hanswer, hr⟩ := stored_of_created hids channel errands schedule hcommand hdone
    refine ⟨r, hanswer, fun later => (hages schedule later).rewards r.id r hr,
      fun j hj hasks later => ?_⟩
    have hanswered : ∀ later outcome, (crew (schedule ++ later)).left j = .done outcome →
        outcome = .ok answer := by
      intro later outcome hdone
      obtain ⟨acc, hsince, hanswers⟩ := exists_since hids channel errands schedule later
      obtain ⟨found, hsought, houtcome⟩ := hanswers j outcome ⟨r.id⟩ hj hasks hdone
      have hfound : found = some r := hsince.finds j hj r.id found hsought r hr
      rw [houtcome, hfound, hanswer]
      rfl
    refine ⟨hanswered later, ?_⟩
    obtain ⟨n, outcome, hdone⟩ := (crew (schedule ++ later)).exists_run_replicate j
    have hdone : (crew (schedule ++ later ++ .replicate n j)).left j = .done outcome := by
      rw [← hdone]
      exact congrArg (·.left j) (runAll_append ..)
    refine ⟨n, ?_⟩
    rw [hdone, hanswered (later ++ .replicate n j) outcome (by rwa [← List.append_assoc])]

/-- To create an event, to apply to it, to review the application, to create a reward and to look
that up. The three records are expected under the ids `x`, `xx` and `xxx`. -/
def season : Fin 5 → Errand
  | 0 => round 0
  | 1 => round 1
  | 2 => round 2
  | 3 => .command "create_reward" (.object [("name", .string "R"), ("type", .string "BADGE"),
      ("rewardData", .object [("badgeId", .string "b")])])
  | 4 => .command "get_reward_by_id" (.object [("id", .string "xxx")])

/-- When a reward was created after an application, the review of that is for ever, and the reward
will be found. -/
theorem records_endure_of_season :
    Function.Injective Supply.growing.id ∧
      let crew := runAll .growing (.ofCapacity 1) season
      let stored := fun schedule => (crew schedule).state.storage
      let begun : List (Fin 5) := .replicate 9 0 ++ .replicate 11 1 ++ .replicate 11 3
      (∃ r r', (stored begun).requests.requests.get? "xx" = some r ∧ r.status = .pending ∧
        (stored (begun ++ .replicate 9 2)).requests.requests.get? "xx" = some r' ∧
        r'.status = .approved ∧
        ∀ further, (stored (begun ++ .replicate 9 2 ++ further)).requests.requests.get? "xx" =
          some r') ∧
      ∃ answer, (crew begun).left 3 = .done (.ok answer) ∧ 4 ∉ begun ∧
        (season 4).AsksFor ⟨"xxx"⟩ ∧
        ∀ later, ∃ n, (crew (begun ++ later ++ .replicate n 4)).left 4 = .done (.ok answer) := by
  refine ⟨Supply.growing_injective, ?_⟩
  intro crew stored begun
  obtain ⟨-, honce, hrewards⟩ :=
    records_endure Supply.growing_injective (.ofCapacity 1) season begun
  have hpending : (stored begun).requests.requests.get? "xx" =
      some ⟨"xx", "u", "x", .pending, default, default⟩ := by decide +kernel
  have happroved : (stored (begun ++ .replicate 9 2)).requests.requests.get? "xx" =
      some ⟨"xx", "u", "x", .approved, default, default⟩ := by decide +kernel
  have hdone : (crew begun).left 3 = .done (.ok (Reward.codec.encode
      ⟨"xxx", "R", none, .badge "b", default, default⟩)) := rfl
  have hlate : 4 ∉ begun := by decide
  have hasks : (season 4).AsksFor ⟨"xxx"⟩ := ⟨_, rfl, rfl⟩
  refine ⟨⟨_, _, hpending, rfl, happroved, rfl, honce _ _ _ _ hpending happroved nofun⟩, _, hdone,
    hlate, hasks, fun later => ?_⟩
  obtain ⟨r, -, hstored, hfound⟩ := hrewards 3 _ _ rfl hdone
  have hr : (stored begun).rewards.get? r.id = some r := by simpa using hstored []
  have hkeys : (stored begun).rewards.keys = ["xxx"] := by decide +kernel
  have hmem : r.id ∈ (stored begun).rewards.keys :=
    List.mem_map_of_mem ((Keyed.mem_iff_get?_eq_some (stored begun).rewards.ascending).2 hr)
  rw [hkeys] at hmem
  have hid : r.id = "xxx" := List.mem_singleton.1 hmem
  exact (hfound 4 hlate (hid ▸ hasks) later).2

end Errand
end RewardDesk
