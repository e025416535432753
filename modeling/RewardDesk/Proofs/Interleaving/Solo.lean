import RewardDesk.Proofs.Interleaving.Errand
import RewardDesk.Store.Basic

/-!
# Programs that are alone

A program that nobody interrupts is answered by the storage in memory what that holds at the moment.
`solo` says so as a contract: how things stand is the store itself, and every call is allowed. What
a program obeys then is what comes of it (`solo.run`).
-/

namespace RewardDesk

/-- What somebody who is alone is answered, and what the store is afterwards. -/
def solo : Contract Store where
  allows _ _ := True
  leads s
    | .statement q, a, s' => a = .ok (s.execute q).1 ∧ s' = (s.execute q).2
    | _, _, s' => s' = s

instance : solo.Quiet where
  allows_log _ _ := trivial
  leads_log _ _ _ := Iff.rfl
  allows_measure _ _ := trivial
  leads_measure _ _ _ := Iff.rfl

namespace solo

variable {α β : Type} {s : Store} {supply : Supply}

theorem leads_answer (c : Call) (w : World Store) :
    solo.leads w.storage c (World.answer .memory supply c w).1
      (World.answer .memory supply c w).2.storage := by
  cases c with
  | statement q => exact ⟨rfl, rfl⟩
  | _ => rfl

/-- What a program obeys is what comes of it. -/
theorem run {p : Program α} {w : World Store} {post : α → Store → Prop}
    (h : p.Obeys solo w.storage post) :
    post (World.run .memory supply p w).1 (World.run .memory supply p w).2.storage := by
  induction p generalizing w with
  | done a => exact h
  | call c next ih => exact ih _ (h.2 _ _ (leads_answer c w))

/-! ## Single calls -/

@[simp] theorem obeys_perform (q : Statement) {post : Except DeskError q.Result → Store → Prop} :
    Program.Obeys (α := no_index (Except DeskError q.Result)) solo
        (ExceptT.run (α := no_index q.Result) (Desk.perform q)) s post ↔
      post (.ok (s.execute q).1) (s.execute q).2 := by
  rw [Desk.obeys_perform]
  constructor
  · intro h
    exact h.2 _ _ ⟨rfl, rfl⟩
  · intro h
    refine ⟨trivial, ?_⟩
    rintro a s' ⟨rfl, rfl⟩
    exact h

@[simp] theorem obeys_freshId {post : Except DeskError String → Store → Prop} :
    Program.Obeys (α := no_index (Except DeskError String)) solo
        (ExceptT.run (α := no_index String) (Desk.ask .freshId)) s post ↔
      ∀ id, post (.ok id) s := by
  rw [Desk.obeys_ask]
  refine ⟨fun h id => h.2 id s rfl, fun h => ⟨trivial, ?_⟩⟩
  rintro id s' rfl
  exact h id

@[simp] theorem obeys_clock {post : Except DeskError Instant → Store → Prop} :
    Program.Obeys (α := no_index (Except DeskError Instant)) solo
        (ExceptT.run (α := no_index Instant) (Desk.ask .clock)) s post ↔
      ∀ time, post (.ok time) s := by
  rw [Desk.obeys_ask]
  refine ⟨fun h time => h.2 time s rfl, fun h => ⟨trivial, ?_⟩⟩
  rintro time s' rfl
  exact h time

/-! ## Looking records up -/

@[simp] theorem obeys_getEvent (id : String) {post : Except DeskError Event → Store → Prop} :
    (Events.get id).run.Obeys solo s post ↔
      post ((s.events.get? id).elim (.error (.eventNotFound id)) .ok) s := by
  simp [Events.get, Store.execute]

@[simp] theorem obeys_getReward (id : String) {post : Except DeskError Reward → Store → Prop} :
    (Rewards.get id).run.Obeys solo s post ↔
      post ((s.rewards.get? id).elim (.error (.rewardNotFound id)) .ok) s := by
  simp [Rewards.get, Store.execute]

/-! ## Commands -/

/-- A command of the router refuses its payload, or does its work and writes the result. -/
theorem obeys_dispatch {name : String} {payload : Payload α} {work : α → Desk β} {write : β → Json}
    {j : Json} {post : Except DeskError Json → Store → Prop}
    (hget : Router.standard.get? name = some (.of name payload work write)) :
    (Router.standard.dispatch name j).Obeys solo s post ↔
      match payload.read j with
      | .error cause => post (.error (.validation cause)) s
      | .ok a => (work a).run.Obeys solo s fun outcome s' => post (outcome.map write) s' :=
  (Router.obeys_dispatch_of_get? hget).trans Handler.obeys_iff

end solo
end RewardDesk
