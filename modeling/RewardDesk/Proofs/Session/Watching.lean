import RewardDesk.Proofs.Interleaving.Errand
import RewardDesk.Proofs.Session.Agreement
import RewardDesk.Store.Basic

/-!
# Programs under watch

All that can be seen of a program that nobody interrupts: how it ends, what the surroundings are
then, and which statements it has made. The contract `watching` leaves only the log out of sight,
and what a program obeys under watch is what comes of it (`watching.run`).
-/

namespace RewardDesk

/-- The statement of a call, if it is one. -/
def Call.statement? : Call → Option Statement
  | .statement q => some q
  | _ => none

/-- What was seen of a program so far: the surroundings, and the statements that were made. -/
structure Watch where
  world : World Store
  made : List Statement := []

/-- After a call. What is said in the log is not heard. -/
def Watch.after (supply : Supply) (g : Watch) : Call → Watch
  | .statement q => ⟨(World.answer .memory supply (.statement q) g.world).2, g.made ++ [q]⟩
  | .log _ => g
  | c => { g with world := (World.answer .memory supply c g.world).2 }

/-- The contract of programs under watch. -/
def watching (supply : Supply) : Contract Watch where
  allows _ _ := True
  leads g c a g' := a = (World.answer .memory supply c g.world).1 ∧ g' = g.after supply c

instance (supply : Supply) : (watching supply).LogsFreely where
  allows_log _ _ := trivial
  leads_log _ _ _ := ⟨And.right, fun h => ⟨rfl, h⟩⟩

namespace watching

variable {α β : Type} {supply : Supply} {g : Watch}

/-- A call is seen as it is answered. -/
theorem seen_call {w : World Store} {made : List Call}
    (h : g.world.Alike w ∧ g.made = made.filterMap Call.statement?) (c : Call) :
    (World.answer .memory supply c w).1 = (World.answer .memory supply c g.world).1 ∧
      (g.after supply c).world.Alike (World.answer .memory supply c w).2 ∧
      (g.after supply c).made = (made ++ [c]).filterMap Call.statement? := by
  obtain ⟨halike, hmade⟩ := h
  obtain ⟨hsame, hafter⟩ := halike.answer .memory supply c
  refine ⟨hsame.symm, ?_, ?_⟩
  · cases c with
    | log entry => exact { halike with }
    | _ => exact hafter
  · rw [List.filterMap_append, ← hmade]
    cases c with
    | statement q => rfl
    | _ => exact (List.append_nil _).symm

/-- What a program obeys is what comes of it. -/
theorem run {p : Program α} {w : World Store} {post : α → Watch → Prop}
    (h : p.Obeys (watching supply) ⟨w, []⟩ post) :
    ∃ g, post (World.run .memory supply p w).1 g ∧
      g.world.Alike (World.run .memory supply p w).2 ∧
      g.made = (p.calls (World.answer .memory supply) w).filterMap Call.statement? := by
  have hcall : ∀ {w : World Store} {made : List Call} {g : Watch} {c : Call},
      g.world.Alike w ∧ g.made = made.filterMap Call.statement? → (watching supply).allows g c →
      ∃ g', (watching supply).leads g c (World.answer .memory supply c w).1 g' ∧
        g'.world.Alike (World.answer .memory supply c w).2 ∧
        g'.made = (made ++ [c]).filterMap Call.statement? := by
    intro w made g c hseen _
    obtain ⟨hsame, hafter⟩ := seen_call hseen c
    exact ⟨g.after supply c, ⟨hsame, rfl⟩, hafter⟩
  have hstart : (⟨w, []⟩ : Watch).world.Alike w ∧ [] = ([] : List Call).filterMap Call.statement? :=
    ⟨.refl w, rfl⟩
  obtain ⟨g, ⟨halike, hmade⟩, hpost⟩ := h.run
    (fun w made g => g.world.Alike w ∧ g.made = made.filterMap Call.statement?) hcall hstart
  exact ⟨g, hpost, halike, hmade⟩

/-! ## Single calls

What follows a call is said of the surroundings that the call leaves. The simplifier follows a
program with these lemmas to its end. -/

theorem obeys_ask (c : Call) {post : c.Answer → Watch → Prop} :
    (Program.ask c).Obeys (watching supply) g post ↔
      post (World.answer .memory supply c g.world).1 (g.after supply c) := by
  rw [Program.obeys_ask]
  refine ⟨fun h => h.2 _ _ ⟨rfl, rfl⟩, fun h => ⟨trivial, ?_⟩⟩
  rintro a g' ⟨rfl, rfl⟩
  exact h

@[simp] theorem obeys_perform (q : Statement) {post : Except DeskError q.Result → Watch → Prop} :
    Program.Obeys (α := no_index (Except DeskError q.Result)) (watching supply)
        (ExceptT.run (α := no_index q.Result) (Desk.perform q)) g post ↔
      post (.ok (g.world.storage.execute q).1) (g.after supply (.statement q)) := by
  rw [Desk.obeys_perform]
  refine ⟨fun h => h.2 _ _ ⟨rfl, rfl⟩, fun h => ⟨trivial, ?_⟩⟩
  rintro a g' ⟨rfl, rfl⟩
  exact h

@[simp] theorem obeys_freshId {post : Except DeskError String → Watch → Prop} :
    Program.Obeys (α := no_index (Except DeskError String)) (watching supply)
        (ExceptT.run (α := no_index String) (Desk.ask .freshId)) g post ↔
      post (.ok (supply.id g.world.idsGiven)) (g.after supply .freshId) :=
  (Desk.obeys_lift _).trans (obeys_ask .freshId)

@[simp] theorem obeys_clock {post : Except DeskError Instant → Watch → Prop} :
    Program.Obeys (α := no_index (Except DeskError Instant)) (watching supply)
        (ExceptT.run (α := no_index Instant) (Desk.ask .clock)) g post ↔
      post (.ok (supply.time g.world.timesRead)) (g.after supply .clock) :=
  (Desk.obeys_lift _).trans (obeys_ask .clock)

@[simp] theorem obeys_measure (m : Measure) {post : Except DeskError Unit → Watch → Prop} :
    Program.Obeys (α := no_index (Except DeskError Unit)) (watching supply)
        (ExceptT.run (α := no_index Unit) (Desk.ask (.measure m))) g post ↔
      post (.ok ()) (g.after supply (.measure m)) :=
  (Desk.obeys_lift _).trans (obeys_ask (.measure m))

@[simp] theorem obeys_getEvent (id : String) {post : Except DeskError Event → Watch → Prop} :
    (Events.get id).run.Obeys (watching supply) g post ↔
      post ((g.world.storage.events.get? id).elim (.error (.eventNotFound id)) .ok)
        (g.after supply (.statement (.getEvent id))) := by
  simp [Events.get, Store.execute]

@[simp] theorem obeys_getRequest (id : String) {post : Except DeskError Request → Watch → Prop} :
    (Requests.get id).run.Obeys (watching supply) g post ↔
      post ((g.world.storage.requests.requests.get? id).elim (.error (.requestNotFound id)) .ok)
        (g.after supply (.statement (.getRequest id))) := by
  simp [Requests.get, Store.execute]

@[simp] theorem obeys_announce (change : StatusChange) {post : Nat → Watch → Prop} :
    (Requests.announce change).Obeys (watching supply) g post ↔
      post (g.world.channel.send change).1 (g.after supply (.publish change)) :=
  (Requests.obeys_announce change).trans (obeys_ask (.publish change))

end watching
end RewardDesk
