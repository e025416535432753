import Mathlib.Logic.Function.Basic
import RewardDesk.Desk.Program

/-!
# Crews

Programs that work at the same time. A `Crew` holds the common surroundings and what is left of
each program; a step lets one program make its next call, and the answer comes before anybody else
makes a call. A schedule says whose turn it is, step after step, and may be any list.
`Program.runInTurn` is the run in which nobody is interrupted.

What every call preserves holds after every schedule (`run_state`).
-/

namespace RewardDesk

/-- Programs run to their ends one after the other: what comes of them, and the state at the end. -/
def Program.runInTurn {ι σ α : Type} (answer : ι → (c : Call) → σ → c.Answer × σ)
    (programs : ι → Program α) : List ι → σ → List α × σ
  | [], state => ([], state)
  | i :: order, state =>
    let (a, state) := (programs i).run (answer i) state
    let (rest, state) := runInTurn answer programs order state
    (a :: rest, state)

/-- Programs at work in common surroundings with states of type `σ`. -/
structure Crew (ι σ α : Type) where
  state : σ
  /-- What each program has still to do. -/
  left : ι → Program α
  /-- The calls so far, and who made them. -/
  history : List (ι × Call) := []

namespace Crew

variable {ι σ α : Type} [DecidableEq ι] {answer : ι → (c : Call) → σ → c.Answer × σ}

/-- One program makes its next call, if it is not done. -/
def step (answer : ι → (c : Call) → σ → c.Answer × σ) (crew : Crew ι σ α) (i : ι) :
    Crew ι σ α :=
  match crew.left i with
  | .done _ => crew
  | .call c next =>
    let (a, state) := answer i c crew.state
    { state, left := Function.update crew.left i (next a), history := crew.history ++ [(i, c)] }

/-- The programs make their calls in the order of a schedule. -/
def run (answer : ι → (c : Call) → σ → c.Answer × σ) (crew : Crew ι σ α) (schedule : List ι) :
    Crew ι σ α :=
  schedule.foldl (step answer) crew

theorem run_append (crew : Crew ι σ α) (l r : List ι) :
    crew.run answer (l ++ r) = (crew.run answer l).run answer r :=
  List.foldl_append

/-! ## Single steps -/

variable {crew : Crew ι σ α} {i : ι}

theorem step_of_done {a : α} (h : crew.left i = .done a) : crew.step answer i = crew := by
  rw [step, h]

theorem step_of_call {c : Call} {next : c.Answer → Program α} (h : crew.left i = .call c next) :
    crew.step answer i =
      { state := (answer i c crew.state).2
        left := Function.update crew.left i (next (answer i c crew.state).1)
        history := crew.history ++ [(i, c)] } := by
  rw [step, h]

theorem history_step_mono : crew.history <+: (crew.step answer i).history := by
  cases hleft : crew.left i with
  | done a => simp only [step_of_done hleft, List.prefix_rfl]
  | call c next =>
    rw [step_of_call hleft]
    exact List.prefix_append _ _

/-! ## Whole runs -/

/-- The history only grows. -/
theorem history_run_mono (schedule : List ι) :
    crew.history <+: (crew.run answer schedule).history := by
  induction schedule generalizing crew with
  | nil => exact List.prefix_rfl
  | cons i schedule ih => exact history_step_mono.trans ih

/-- A program whose turn has not come has still to do what it had. -/
theorem left_run_of_not_mem {schedule : List ι} (h : i ∉ schedule) :
    (crew.run answer schedule).left i = crew.left i := by
  induction schedule generalizing crew with
  | nil => rfl
  | cons j schedule ih =>
    obtain ⟨hne, hrest⟩ := not_or.1 (mt List.mem_cons.2 h)
    rw [show crew.run answer (j :: schedule) = (crew.step answer j).run answer schedule from rfl,
      ih hrest]
    cases hleft : crew.left j with
    | done a => rw [step_of_done hleft]
    | call c next =>
      rw [step_of_call hleft]
      exact Function.update_of_ne hne ..

/-- Whoever has enough turns is done. -/
theorem exists_run_replicate (crew : Crew ι σ α) (i : ι) :
    ∃ n a, (crew.run answer (List.replicate n i)).left i = .done a := by
  induction hleft : crew.left i generalizing crew with
  | done a => exact ⟨0, a, hleft⟩
  | call c next ih =>
    have hnext : (crew.step answer i).left i = next (answer i c crew.state).1 := by
      rw [step_of_call hleft]
      exact Function.update_self ..
    obtain ⟨n, a, hdone⟩ := ih _ _ hnext
    exact ⟨n + 1, a, hdone⟩

/-- What the answer to every call preserves holds after every run. -/
theorem run_state {holds : σ → Prop}
    (h : ∀ i c state, holds state → holds (answer i c state).2) (schedule : List ι)
    (hstart : holds crew.state) : holds (crew.run answer schedule).state := by
  induction schedule generalizing crew with
  | nil => exact hstart
  | cons i schedule ih =>
    apply ih
    cases hleft : crew.left i with
    | done a => rwa [step_of_done hleft]
    | call c next =>
      rw [step_of_call hleft]
      exact h i c crew.state hstart

end Crew
end RewardDesk
