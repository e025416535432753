import RewardDesk.Notice.Channel
import RewardDesk.Proofs.Store.Table

/-!
# What waits for a receiver

A channel remembers the end of all that was sent (`Channel.Remembers`), and so what somebody gets
who reads it is the end of what was sent since they read it last, after a word on how much is lost
(`Channel.window`).

`Channel.Awaits` says which messages wait for somebody: those of `Channel.send` are added, those of
`Channel.drain` are gone, and what others do changes nothing.
-/

namespace RewardDesk

namespace Channel

variable {α : Type} {c : Channel α} {all pending messages : List α} {who other : String}

/-- What somebody gets for whom these messages wait, if only so many are remembered. -/
def window (capacity : Nat) (pending : List α) : List (Delivery α) :=
  let missed := pending.length - capacity
  let waiting := (pending.drop missed).map .message
  if missed = 0 then waiting else .lagged missed :: waiting

/-- Nothing is lost of what can be remembered. -/
theorem window_of_le {capacity : Nat} (h : pending.length ≤ capacity) :
    window capacity pending = pending.map .message := by
  have hmissed : pending.length - capacity = 0 := Nat.sub_eq_zero_of_le h
  simp [window, hmissed]

/-- Of what cannot be remembered something is lost, and that is said. -/
theorem lagged_mem_window {capacity : Nat} (h : capacity < pending.length) :
    .lagged (pending.length - capacity) ∈ window capacity pending := by
  have hmissed : pending.length - capacity ≠ 0 := Nat.sub_ne_zero_of_lt h
  simp [window, hmissed]

/-- Reading by reading, everything arrives just if there is never too much to be remembered. -/
theorem flatten_windows {capacity : Nat} {batches : List (List α)} :
    (batches.map (window capacity)).flatten = batches.flatten.map .message ↔
      ∀ batch ∈ batches, batch.length ≤ capacity := by
  constructor
  · intro h batch hbatch
    refine Nat.le_of_not_lt fun hlong => ?_
    have hlagged : .lagged (batch.length - capacity) ∈ (batches.map (window capacity)).flatten :=
      List.mem_flatten.2 ⟨_, List.mem_map_of_mem hbatch, lagged_mem_window hlong⟩
    rw [h] at hlagged
    obtain ⟨_, -, hmessage⟩ := List.mem_map.1 hlagged
    exact absurd hmessage nofun
  · intro h
    rw [List.map_flatten]
    exact congrArg List.flatten (List.map_congr_left fun batch hbatch => window_of_le (h batch hbatch))

theorem capacity_send (c : Channel α) (m : α) : (c.send m).2.capacity = c.capacity := by
  unfold send
  split <;> rfl

theorem capacity_drain (c : Channel α) (who : String) :
    (c.drain who).2.capacity = c.capacity := by
  unfold drain
  split <;> rfl

/-! ## All that was sent -/

/-- The channel has counted all these messages and remembers the last ones. -/
structure Remembers (c : Channel α) (all : List α) : Prop where
  sent : c.sent = all.length
  recent : c.recent = all.drop (all.length - c.capacity)

theorem remembers_ofCapacity (n : Nat) : (ofCapacity n : Channel α).Remembers [] :=
  ⟨rfl, List.drop_nil.symm⟩

/-- A message is remembered if anybody hears it. -/
theorem Remembers.send (h : c.Remembers all) (hheard : c.receiverCount ≠ 0) (m : α) :
    (c.send m).2.Remembers (all ++ [m]) := by
  rw [Channel.send, if_neg hheard]
  constructor
  · show c.sent + 1 = _
    rw [h.sent, List.length_append, List.length_singleton]
  · show (c.recent ++ [m]).drop ((c.recent ++ [m]).length - c.capacity) =
      (all ++ [m]).drop ((all ++ [m]).length - c.capacity)
    rw [h.recent, ← List.drop_append_of_le_length (Nat.sub_le _ _), List.drop_drop]
    congr 1
    simp only [List.length_drop, List.length_append, List.length_singleton]
    omega

theorem Remembers.send_of_unheard (h : c.Remembers all) (hunheard : c.receiverCount = 0) (m : α) :
    (c.send m).2.Remembers all := by
  rwa [Channel.send, if_pos hunheard]

/-- Who reads takes nothing away from the others. -/
theorem Remembers.drain (h : c.Remembers all) (who : String) : (c.drain who).2.Remembers all := by
  unfold Channel.drain
  split
  · exact h
  · exact ⟨h.sent, h.recent⟩

/-! ## What waits -/

/-- These messages wait for somebody who takes part: they were sent after all that they have behind
them. -/
def Awaits (c : Channel α) (who : String) (pending : List α) : Prop :=
  ∃ behind, c.Remembers (behind ++ pending) ∧ c.receivers.get? who = some behind.length

theorem receiverCount_ne_zero {taken : Nat} (h : c.receivers.get? who = some taken) :
    c.receiverCount ≠ 0 := by
  have hmem := (Keyed.mem_iff_get?_eq_some c.receivers.ascending).2 h
  exact Nat.pos_iff_ne_zero.1 (List.length_pos_of_mem hmem)

theorem Remembers.subscribe (h : c.Remembers all) (who : String) :
    (c.subscribe who).Awaits who [] := by
  refine ⟨all, ?_, ?_⟩
  · rw [List.append_nil]
    exact ⟨h.sent, h.recent⟩
  · simp [Channel.subscribe, h.sent]

namespace Awaits

theorem send (h : c.Awaits who pending) (m : α) :
    (c.send m).2.Awaits who (pending ++ [m]) := by
  obtain ⟨behind, hremembers, hwho⟩ := h
  have hheard := receiverCount_ne_zero hwho
  refine ⟨behind, ?_, ?_⟩
  · rw [← List.append_assoc]
    exact hremembers.send hheard m
  · rwa [Channel.send, if_neg hheard]

/-- Others may join, leave and read. -/
theorem frame {receivers : Table String Nat} (h : c.Awaits who pending)
    (hsame : receivers.get? who = c.receivers.get? who) :
    Awaits { c with receivers } who pending := by
  obtain ⟨behind, hremembers, hwho⟩ := h
  exact ⟨behind, ⟨hremembers.sent, hremembers.recent⟩, hsame.trans hwho⟩

theorem subscribe (h : c.Awaits who pending) (hne : who ≠ other) :
    (c.subscribe other).Awaits who pending :=
  h.frame (by rw [Table.get?_set, if_neg hne])

theorem unsubscribe (h : c.Awaits who pending) (hne : who ≠ other) :
    (c.unsubscribe other).Awaits who pending :=
  h.frame (by rw [Table.get?_erase, if_neg hne])

theorem drain_other (h : c.Awaits who pending) (hne : who ≠ other) :
    (c.drain other).2.Awaits who pending := by
  unfold Channel.drain
  split
  · exact h
  · exact h.frame (by rw [Table.get?_set, if_neg hne])

/-- Who reads gets what waits, as far as it is remembered. -/
theorem drain (h : c.Awaits who pending) :
    (c.drain who).1 = window c.capacity pending ∧ (c.drain who).2.Awaits who [] := by
  obtain ⟨behind, ⟨hsent, hrecent⟩, hwho⟩ := h
  rw [Channel.drain, hwho]
  have hmissed : c.sent - c.recent.length - behind.length = pending.length - c.capacity := by
    rw [hsent, hrecent, List.length_drop, List.length_append]
    omega
  have hwaiting : c.recent.drop (behind.length - (c.sent - c.recent.length)) =
      pending.drop (pending.length - c.capacity) := by
    have hbehind : pending.drop (pending.length - c.capacity) =
        (behind ++ pending).drop (behind.length + (pending.length - c.capacity)) := by
      rw [List.drop_length_add_append]
    rw [hbehind, hsent, hrecent, List.drop_drop, List.length_drop, List.length_append]
    congr 1
    omega
  refine ⟨?_, behind ++ pending, ?_, ?_⟩
  · show (if c.sent - c.recent.length - behind.length = 0 then _ else _) = _
    rw [hmissed, hwaiting, window]
  · rw [List.append_nil]
    exact ⟨hsent, hrecent⟩
  · simp [hsent]

end Awaits
end Channel
end RewardDesk
