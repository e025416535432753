import RewardDesk.Error.Basic
import RewardDesk.Log.Entry
import RewardDesk.Metrics.Measure
import RewardDesk.Store.Statement

/-!
# Programs

A command is a program: it makes calls, one after the other, and decides by the answers how to go
on. A `Program` is that decision tree itself, so it can be run against any storage, and the calls of
several programs can be interleaved.

    Call          what is asked
    Call.Answer   the type of the answer
    Program α     done with a value, or a call and what to do with its answer
    Desk α        a program that may end in an error
-/

namespace RewardDesk

/-- What a program asks of its surroundings. -/
inductive Call where
  | statement (s : Statement)
  /-- An id that was never given before. -/
  | freshId
  /-- What time it is. -/
  | clock
  /-- Tell all subscribers of a change, and say how many they are. -/
  | publish (change : StatusChange)
  | measure (m : Measure)
  | log (entry : Log.Entry)

/-- The type of the answer to a call. -/
@[reducible] def Call.Answer : Call → Type
  | .statement s => Except StorageFault s.Result
  | .freshId => String
  | .clock => Instant
  | .publish _ => Nat
  | .measure _ | .log _ => Unit

/-- Calls, each chosen by the answers so far. -/
inductive Program (α : Type) where
  | done (value : α)
  | call (c : Call) (next : c.Answer → Program α)

namespace Program

/-- First one program, then another that depends on its value. -/
def bind : Program α → (α → Program β) → Program β
  | .done a, f => f a
  | .call c next, f => .call c fun answer => bind (next answer) f

instance : Monad Program where
  pure := .done
  bind := bind

@[simp] theorem pure_eq (a : α) : (pure a : Program α) = .done a := rfl

@[simp] theorem done_bind (a : α) (f : α → Program β) : Program.done a >>= f = f a := rfl

@[simp] theorem call_bind (c : Call) (next : c.Answer → Program α) (f : α → Program β) :
    Program.call c next >>= f = .call c fun answer => next answer >>= f := rfl

theorem bind_done (p : Program α) : p >>= Program.done = p := by
  induction p with
  | done a => rfl
  | call c next ih => simpa using funext ih

theorem bind_assoc (p : Program α) (f : α → Program β) (g : β → Program γ) :
    p >>= f >>= g = p >>= fun a => f a >>= g := by
  induction p with
  | done a => rfl
  | call c next ih => simpa using funext ih

instance : LawfulMonad Program :=
  LawfulMonad.mk' Program bind_done (fun _ _ => rfl) bind_assoc

/-- The program of a single call. -/
def ask (c : Call) : Program c.Answer := .call c .done

/-- Run a program to its end in surroundings with states of type `σ`. -/
def run (answer : (c : Call) → σ → c.Answer × σ) : Program α → σ → α × σ
  | .done a, s => (a, s)
  | .call c next, s =>
    let (a, s) := answer c s
    run answer (next a) s

/-- Say something in the log. -/
def note (n : Log.Note) : Program Unit := ask (.log (.note n))

/-- Work inside a span. -/
def within (span : Log.Span) (work : Program α) : Program α := do
  ask (.log (.enter span))
  let a ← work
  ask (.log .leave)
  return a

end Program

/-- A program that may end in an error. -/
abbrev Desk : Type → Type := ExceptT DeskError Program

namespace Desk

/-- A single call. -/
def ask (c : Call) : Desk c.Answer := ExceptT.lift (Program.ask c)

/-- Have a statement carried out. -/
def perform (s : Statement) : Desk s.Result := do
  match ← ask (.statement s) with
  | .ok result => return result
  | .error fault => throw (.database fault)

def note (n : Log.Note) : Desk Unit := ExceptT.lift (Program.note n)

/-- Work inside a span, which is left also when the work fails. -/
def within (span : Log.Span) (work : Desk α) : Desk α :=
  ExceptT.mk (Program.within span work.run)

/-- What is there, or an error. -/
def orElse (error : DeskError) : Option α → Desk α
  | some a => return a
  | none => throw error

end Desk
end RewardDesk
