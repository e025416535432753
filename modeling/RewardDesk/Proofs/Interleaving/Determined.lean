import RewardDesk.Desk.Events
import RewardDesk.Desk.Requests
import RewardDesk.Desk.Rewards
import RewardDesk.Proofs.Interleaving.Contract
import RewardDesk.Session.World
import RewardDesk.Store.Basic

/-!
# Contracts with a storage in memory

The storage in memory never fails (`World.answer_succeeds`). If only such answers are expected, and
they determine how things stand afterwards (`Contract.determined`), then a property that every
allowed call preserves holds after all runs: those of a crew (`Contract.determined.run_keeps`) and
those of one program that nobody interrupts (`Contract.determined.run_alone`).
-/

namespace RewardDesk

/-- Is it an answer of a storage that does not fail? -/
def Call.Succeeds : (c : Call) → c.Answer → Prop
  | .statement _, a => ∃ result, a = .ok result
  | _, _ => True

/-- The storage in memory never fails. -/
theorem World.answer_succeeds (supply : Supply) (c : Call) (w : World Store) :
    c.Succeeds (World.answer .memory supply c w).1 := by
  cases c with
  | statement q => exact ⟨_, rfl⟩
  | freshId => trivial
  | clock => trivial
  | publish change => trivial
  | measure m => trivial
  | log entry => trivial

variable {G α : Type}

/-- The contract by which every answer that can be expected determines how things stand. -/
def Contract.determined (allows : G → Call → Prop) (after : G → (c : Call) → c.Answer → G) :
    Contract G where
  allows := allows
  leads g c a g' := c.Succeeds a ∧ g' = after g c a

namespace Contract.determined

variable {allows : G → Call → Prop} {after : G → (c : Call) → c.Answer → G} {g : G}

/-! ## Single calls

With answers that never fail, a statement leads on to one standing only, the one that `after`
gives. -/

theorem obeys_ask (c : Call) {post : c.Answer → G → Prop} :
    (Program.ask c).Obeys (determined allows after) g post ↔
      allows g c ∧ ∀ a, c.Succeeds a → post a (after g c a) := by
  rw [Program.obeys_ask]
  refine and_congr_right fun _ => ⟨fun h a ha => h a _ ⟨ha, rfl⟩, ?_⟩
  rintro h a g' ⟨ha, rfl⟩
  exact h a ha

@[simp] theorem obeys_perform (q : Statement) {post : Except DeskError q.Result → G → Prop} :
    Program.Obeys (α := no_index (Except DeskError q.Result)) (determined allows after)
        (ExceptT.run (α := no_index q.Result) (Desk.perform q)) g post ↔
      allows g (.statement q) ∧ ∀ r, post (.ok r) (after g (.statement q) (.ok r)) := by
  rw [Desk.obeys_perform]
  refine and_congr_right fun _ => ⟨fun h r => h (.ok r) _ ⟨⟨r, rfl⟩, rfl⟩, ?_⟩
  rintro h a g' ⟨⟨r, rfl⟩, rfl⟩
  exact h r

@[simp] theorem obeys_freshId {post : Except DeskError String → G → Prop} :
    Program.Obeys (α := no_index (Except DeskError String)) (determined allows after)
        (ExceptT.run (α := no_index String) (Desk.ask .freshId)) g post ↔
      allows g .freshId ∧ ∀ id, post (.ok id) (after g .freshId id) := by
  rw [Desk.obeys_ask]
  refine and_congr_right fun _ => ⟨fun h id => h id _ ⟨trivial, rfl⟩, ?_⟩
  rintro h id g' ⟨-, rfl⟩
  exact h id

@[simp] theorem obeys_clock {post : Except DeskError Instant → G → Prop} :
    Program.Obeys (α := no_index (Except DeskError Instant)) (determined allows after)
        (ExceptT.run (α := no_index Instant) (Desk.ask .clock)) g post ↔
      allows g .clock ∧ ∀ time, post (.ok time) (after g .clock time) := by
  rw [Desk.obeys_ask]
  refine and_congr_right fun _ => ⟨fun h time => h time _ ⟨trivial, rfl⟩, ?_⟩
  rintro h time g' ⟨-, rfl⟩
  exact h time

@[simp] theorem obeys_publish (change : StatusChange) {post : Nat → G → Prop} :
    Program.Obeys (α := no_index Nat) (determined allows after) (Program.ask (.publish change)) g
        post ↔
      allows g (.publish change) ∧ ∀ n, post n (after g (.publish change) n) :=
  (obeys_ask (.publish change)).trans <|
    and_congr_right fun _ => forall_congr' fun _ => ⟨fun h => h trivial, fun h _ => h⟩

/-! ## Looking records up -/

@[simp] theorem obeys_getEvent (id : String) {post : Except DeskError Event → G → Prop} :
    (Events.get id).run.Obeys (determined allows after) g post ↔
      allows g (.statement (.getEvent id)) ∧
        post (.error (.eventNotFound id)) (after g (.statement (.getEvent id)) (.ok none)) ∧
        ∀ e, post (.ok e) (after g (.statement (.getEvent id)) (.ok (some e))) := by
  simp [Events.get, Option.forall]

@[simp] theorem obeys_getReward (id : String) {post : Except DeskError Reward → G → Prop} :
    (Rewards.get id).run.Obeys (determined allows after) g post ↔
      allows g (.statement (.getReward id)) ∧
        post (.error (.rewardNotFound id)) (after g (.statement (.getReward id)) (.ok none)) ∧
        ∀ r, post (.ok r) (after g (.statement (.getReward id)) (.ok (some r))) := by
  simp [Rewards.get, Option.forall]

@[simp] theorem obeys_getRequest (id : String) {post : Except DeskError Request → G → Prop} :
    (Requests.get id).run.Obeys (determined allows after) g post ↔
      allows g (.statement (.getRequest id)) ∧
        post (.error (.requestNotFound id)) (after g (.statement (.getRequest id)) (.ok none)) ∧
        ∀ r, post (.ok r) (after g (.statement (.getRequest id)) (.ok (some r))) := by
  simp [Requests.get, Option.forall]

/-! ## Runs

What holds of the surroundings is tied to the standing of one program, or of each program of a crew,
and only has to survive a single call. The calls so far may be part of it. -/

variable {supply : Supply}

/-- One program that runs to its end while nobody else makes a call. -/
theorem run_alone (holds : World Store → List Call → G → Prop)
    (hcall : ∀ {w calls g c}, holds w calls g → allows g c →
      holds (World.answer .memory supply c w).2 (calls ++ [c])
        (after g c (World.answer .memory supply c w).1))
    {p : Program α} {w : World Store} {calls : List Call} {post : α → G → Prop}
    (hstart : holds w calls g) (hobeys : p.Obeys (determined allows after) g post) :
    ∃ g', holds (World.run .memory supply p w).2
        (calls ++ p.calls (World.answer .memory supply) w) g' ∧
      post (World.run .memory supply p w).1 g' := by
  have hleads : ∀ {w calls g c}, holds w calls g → allows g c →
      ∃ g', (determined allows after).leads g c (World.answer .memory supply c w).1 g' ∧
        holds (World.answer .memory supply c w).2 (calls ++ [c]) g' :=
    fun hholds hallows =>
      ⟨_, ⟨World.answer_succeeds supply _ _, rfl⟩, hcall hholds hallows⟩
  exact hobeys.run holds hleads hstart

/-- The same for a property in which the calls that were made do not matter. -/
theorem keeps_alone (holds : World Store → G → Prop)
    (hcall : ∀ {w g c}, holds w g → allows g c →
      holds (World.answer .memory supply c w).2 (after g c (World.answer .memory supply c w).1))
    {p : Program α} {w : World Store} {post : α → G → Prop}
    (hstart : holds w g) (hobeys : p.Obeys (determined allows after) g post) :
    ∃ g', holds (World.run .memory supply p w).2 g' ∧ post (World.run .memory supply p w).1 g' :=
  @run_alone _ _ _ _ _ _ (fun w _ g => holds w g) (fun h hallows => hcall h hallows) p w [] post
    hstart hobeys

variable {ι : Type} [DecidableEq ι]

/-- What a call does to the account of a run: only the standing of the caller changes. -/
def account (after : G → (c : Call) → c.Answer → G) (acc : ι → G) (i : ι) (c : Call)
    (a : c.Answer) : ι → G :=
  Function.update acc i (after (acc i) c a)

/-- The account of one who is alone. -/
theorem account_alone (g : G) (c : Call) (a : c.Answer) :
    account after (fun _ : Unit => g) () c a = fun _ => after g c a :=
  funext fun _ => Function.update_self ..

/-- What is true of somebody after a call is so by their own call, or was so before. -/
theorem account_cases {P : G → Prop} {acc : ι → G} {i j : ι} {c : Call} {a : c.Answer}
    (h : P (account after acc i c a j)) : (j = i ∧ P (after (acc i) c a)) ∨ (j ≠ i ∧ P (acc j)) := by
  by_cases hj : j = i
  · subst hj
    rw [account, Function.update_self] at h
    exact .inl ⟨rfl, h⟩
  · rw [account, Function.update_of_ne hj] at h
    exact .inr ⟨hj, h⟩

/-- The ledger of a property that every allowed call preserves. -/
def ledger (supply : Supply) (holds : World Store → List (ι × Call) → (ι → G) → Prop)
    (hcall : ∀ {w history acc i c}, holds w history acc → allows (acc i) c →
      holds (World.answer .memory supply c w).2 (history ++ [(i, c)])
        (account after acc i c (World.answer .memory supply c w).1)) :
    Ledger (fun _ : ι => determined allows after) (fun _ => World.answer .memory supply) (ι → G) where
  stand acc i := acc i
  grows _ _ := True
  holds := holds
  refl _ := trivial
  trans _ _ := trivial
  call {w _ acc i c} hholds hallows :=
    ⟨account after acc i c _, trivial, fun _ hj => Function.update_of_ne hj ..,
      ⟨World.answer_succeeds supply c w, Function.update_self ..⟩, hcall hholds hallows⟩

/-- A whole run. Whose turn has not come stands as before. -/
theorem run_keeps (holds : World Store → List (ι × Call) → (ι → G) → Prop)
    (hcall : ∀ {w history acc i c}, holds w history acc → allows (acc i) c →
      holds (World.answer .memory supply c w).2 (history ++ [(i, c)])
        (account after acc i c (World.answer .memory supply c w).1))
    {crew : Crew ι (World Store) α} {acc : ι → G} {post : ι → α → G → Prop} (schedule : List ι)
    (hstart : holds crew.state crew.history acc)
    (hobeys : ∀ i, (crew.left i).Obeys (determined allows after) (acc i) (post i)) :
    ∃ acc' : ι → G,
      let crew' := crew.run (fun _ => World.answer .memory supply) schedule
      holds crew'.state crew'.history acc' ∧ (∀ i, i ∉ schedule → acc' i = acc i) ∧
        ∀ i, (crew'.left i).Obeys (determined allows after) (acc' i) (post i) := by
  have hkeeps : (ledger supply holds hcall).Keeps post crew acc := ⟨hstart, hobeys⟩
  obtain ⟨acc', -, ⟨hunmoved, hholds, hobeys'⟩, -⟩ :=
    (ledger supply holds hcall).run_keeps schedule hkeeps
  exact ⟨acc', hholds, hunmoved, hobeys'⟩

/-! ## Two contracts at once

Some properties need two contracts at the same time, say dockets and insights. Their rules are put
side by side, and a program that obeys each of them obeys both. -/

section
variable {G' : Type} {allows' : G' → Call → Prop} {after' : G' → (c : Call) → c.Answer → G'}

/-- What is allowed by two contracts. -/
def bothAllow (allows : G → Call → Prop) (allows' : G' → Call → Prop) (g : G × G') (c : Call) :
    Prop :=
  allows g.1 c ∧ allows' g.2 c

/-- How things stand by two contracts. -/
def bothAfter (after : G → (c : Call) → c.Answer → G) (after' : G' → (c : Call) → c.Answer → G')
    (g : G × G') (c : Call) (a : c.Answer) : G × G' :=
  (after g.1 c a, after' g.2 c a)

omit [DecidableEq ι] in
/-- Who obeys two contracts obeys both at once. -/
theorem obeys_both {p : Program α} {g' : G'} {post : α → G → Prop} {post' : α → G' → Prop}
    (h : p.Obeys (determined allows after) g post)
    (h' : p.Obeys (determined allows' after') g' post') :
    p.Obeys (determined (bothAllow allows allows') (bothAfter after after')) (g, g')
      fun a s => post a s.1 ∧ post' a s.2 := by
  induction p generalizing g g' with
  | done a => exact ⟨h, h'⟩
  | call c next ih =>
    refine ⟨⟨h.1, h'.1⟩, ?_⟩
    rintro a _ ⟨ha, rfl⟩
    exact ih a (h.2 a _ ⟨ha, rfl⟩) (h'.2 a _ ⟨ha, rfl⟩)

theorem account_both_fst (acc : ι → G × G') (i : ι) (c : Call) (a : c.Answer) :
    (fun j => (account (bothAfter after after') acc i c a j).1) =
      account after (fun j => (acc j).1) i c a :=
  funext fun j => Function.apply_update (fun _ => Prod.fst) acc i _ j

theorem account_both_snd (acc : ι → G × G') (i : ι) (c : Call) (a : c.Answer) :
    (fun j => (account (bothAfter after after') acc i c a j).2) =
      account after' (fun j => (acc j).2) i c a :=
  funext fun j => Function.apply_update (fun _ => Prod.snd) acc i _ j

end
end Contract.determined
end RewardDesk
