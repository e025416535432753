import RewardDesk.Store.Table

/-!
# Channels

A channel delivers every message to all who have subscribed. It remembers only as many messages as
its capacity: who falls behind further loses the oldest ones and is told how many. A message
that is sent while nobody has subscribed is forgotten at once.
-/

namespace RewardDesk

/-- What a receiver gets. -/
inductive Delivery (α : Type) where
  | message (m : α)
  /-- So many messages were overwritten. -/
  | lagged (missed : Nat)
  deriving DecidableEq, Repr

/-- The least power of two that is not below `n`. -/
def ceilPowerOfTwo (n : Nat) : Nat := if n ≤ 1 then 1 else Nat.pow 2 (Nat.log2 (n - 1) + 1)

/-- A channel. -/
structure Channel (α : Type) where
  /-- How many messages are remembered. -/
  capacity : Nat
  /-- How many messages have been sent. -/
  sent : Nat := 0
  /-- The messages that are remembered, oldest first. -/
  recent : List α := []
  /-- For each receiver the number of messages that it has behind it. -/
  receivers : Table String Nat := .empty

namespace Channel

/-- A channel for at least so many messages. -/
def ofCapacity (n : Nat) : Channel α := { capacity := ceilPowerOfTwo n }

/-- The capacity that channels of notices have. -/
def standardCapacity : Nat := 256

def receiverCount (c : Channel α) : Nat := c.receivers.entries.length

/-- Take part from now on. -/
def subscribe (c : Channel α) (who : String) : Channel α :=
  { c with receivers := c.receivers.set who c.sent }

/-- Take part no longer. -/
def unsubscribe (c : Channel α) (who : String) : Channel α :=
  { c with receivers := c.receivers.erase who }

/-- Send a message, and say to how many receivers it goes. -/
def send (c : Channel α) (m : α) : Nat × Channel α :=
  if c.receiverCount = 0 then (0, c)
  else
    let recent := c.recent ++ [m]
    (c.receiverCount,
      { c with sent := c.sent + 1, recent := recent.drop (recent.length - c.capacity) })

/-- Take all that waits for a receiver. -/
def drain (c : Channel α) (who : String) : List (Delivery α) × Channel α :=
  match c.receivers.get? who with
  | none => ([], c)
  | some taken =>
    let oldest := c.sent - c.recent.length
    let missed := oldest - taken
    let waiting := (c.recent.drop (taken - oldest)).map .message
    (if missed = 0 then waiting else .lagged missed :: waiting,
      { c with receivers := c.receivers.set who c.sent })

end Channel
end RewardDesk
