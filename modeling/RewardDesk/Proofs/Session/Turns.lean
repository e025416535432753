import RewardDesk.Proofs.Records.Effects
import RewardDesk.Proofs.Records.WellFormed

/-!
# Turns

What happens at the service when nobody is interrupted: one turn after the other, and each is taken
to its end. It is an errand, or somebody joins, leaves or reads the channel of notices. `Turn.play`
notes what came of every turn.

Between two turns nothing is under way, so the records are as well kept as those of any run
(`Rested`).
-/

namespace RewardDesk

/-- What can happen at the service. -/
inductive Turn where
  | errand (e : Errand)
  | subscribe (who : String)
  | unsubscribe (who : String)
  /-- Somebody takes all notices that wait. -/
  | drain (who : String)

/-- What came of a turn. -/
inductive Turn.Note where
  /-- The result of an errand, and the records before and after it. -/
  | served (e : Errand) (outcome : Except DeskError Json) (before after : Store)
  | subscribed (who : String)
  | unsubscribed (who : String)
  | drained (who : String) (deliveries : List (Delivery StatusChange))

namespace Turn

variable {supply : Supply}

/-- Take a turn to its end. -/
def take (supply : Supply) (w : World Store) : Turn → Note × World Store
  | .errand e =>
    let (outcome, w') := World.run .memory supply e.program w
    (.served e outcome w.storage w'.storage, w')
  | .subscribe who => (.subscribed who, { w with channel := w.channel.subscribe who })
  | .unsubscribe who => (.unsubscribed who, { w with channel := w.channel.unsubscribe who })
  | .drain who =>
    let (deliveries, channel) := w.channel.drain who
    (.drained who deliveries, { w with channel })

/-- Take one turn after the other. -/
def play (supply : Supply) : List Turn → World Store → List Note × World Store
  | [], w => ([], w)
  | t :: turns, w =>
    let (note, w) := t.take supply w
    let (notes, w) := play supply turns w
    (note :: notes, w)

theorem play_cons (t : Turn) (turns : List Turn) (w : World Store) :
    play supply (t :: turns) w =
      ((t.take supply w).1 :: (play supply turns (t.take supply w).2).1,
        (play supply turns (t.take supply w).2).2) := rfl

theorem play_append (earlier later : List Turn) (w : World Store) :
    play supply (earlier ++ later) w =
      ((play supply earlier w).1 ++ (play supply later (play supply earlier w).2).1,
        (play supply later (play supply earlier w).2).2) := by
  induction earlier generalizing w with
  | nil => rfl
  | cons t earlier ih => rw [List.cons_append, play_cons, ih, play_cons, List.cons_append]

/-- What every turn keeps is so after all turns. -/
theorem play_holds (holds : List Note → World Store → Prop)
    (h : ∀ notes w t, holds notes w → holds (notes ++ [(take supply w t).1]) (take supply w t).2)
    (turns : List Turn) {notes : List Note} {w : World Store} (hstart : holds notes w) :
    holds (notes ++ (play supply turns w).1) (play supply turns w).2 := by
  induction turns generalizing notes w with
  | nil => rwa [play, List.append_nil]
  | cons t turns ih =>
    have hrest := ih (h notes w t hstart)
    rwa [List.append_assoc] at hrest

end Turn

/-! ## Between two turns -/

open Contract.determined (bothAllow bothAfter)

/-- Nothing is under way, and everything is in order. -/
def Rested (supply : Supply) (w : World Store) : Prop :=
  Tended supply w fun _ : Unit => ({}, {})

namespace Rested

variable {supply : Supply} {w : World Store}

theorem inOrder (h : Rested supply w) : InOrder supply w fun _ : Unit => {} := h.order

theorem wellFormed (h : Rested supply w) : w.storage.WellFormed := h.heeded.wellFormed

/-- It does not matter who takes part. -/
theorem channel (h : Rested supply w) (channel : Channel StatusChange) :
    Rested supply { w with channel } where
  order := { h.order with }
  heeded := h.heeded
  punctual hforward := { h.punctual hforward with
    timely := fun i => ((h.punctual hforward).timely i).later (.refl w.storage) (Nat.le_refl _) }

/-- An errand that has ended leaves everything in order. -/
theorem errand (hids : Function.Injective supply.id) (h : Rested supply w) (e : Errand) :
    Rested supply (World.run .memory supply e.program w).2 := by
  have hcall : ∀ {w : World Store} {g : Docket × Insight} {c : Call},
      (Tended supply w fun _ : Unit => g) → bothAllow Docket.allows Insight.allows g c →
      Tended supply (World.answer .memory supply c w).2 fun _ : Unit =>
        bothAfter Docket.after Insight.after g c (World.answer .memory supply c w).1 := by
    intro w g c hg hallows
    have hnext := hg.call hids (i := ()) hallows
    rwa [Contract.determined.account_alone] at hnext
  obtain ⟨g, hg, -⟩ := Contract.determined.keeps_alone
    (fun w g => Tended supply w fun _ : Unit => g) hcall h e.obeys_both
  exact hg.unbegun

end Rested
end RewardDesk
