import RewardDesk.Model.Event
import RewardDesk.Model.Request
import RewardDesk.Model.Reward
import RewardDesk.Paging.Cursor

/-!
# Listings

Records are listed in two orders. By window the newest come first, and of two created at the same
time the one with the greater id. By cursor they come in ascending order of their ids, those behind
the cursor only.
-/

namespace RewardDesk

/-- What listings need to know of a record. -/
class Recorded (α : Type) where
  id : α → String
  createdAt : α → Instant

instance : Recorded Event := ⟨Event.id, Event.createdAt⟩
instance : Recorded Reward := ⟨Reward.id, Reward.createdAt⟩
instance : Recorded Request := ⟨Request.id, Request.createdAt⟩

namespace Listing

variable [Recorded α]

/-- Does `a` come before `b`, or at the same place, when the newest come first? -/
def newerFirst (a b : α) : Bool :=
  ((compare (Recorded.createdAt b) (Recorded.createdAt a)).then
    (compare (Recorded.id b) (Recorded.id a))).isLE

/-- Is the id of `a` at most that of `b`? -/
def idAscending (a b : α) : Bool := (compare (Recorded.id a) (Recorded.id b)).isLE

def window (w : Window) (records : List α) : List α := w.cut (records.mergeSort newerFirst)

/-- Is the record behind the id, if there is one? -/
def isBehind (afterId : Option String) (a : α) : Bool :=
  afterId.all fun id => compare id (Recorded.id a) = .lt

/-- The first records behind a cursor. -/
def walk (q : CursorQuery) (records : List α) : List α :=
  ((records.filter (isBehind q.afterId)).mergeSort idAscending).take q.fetchLimit.toInt.toNat

end Listing
end RewardDesk
