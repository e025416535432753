import RewardDesk.Model.Event
import RewardDesk.Store.Table

/-!
# The book of links

Which rewards are linked to which events. A link is found under its event and its reward joined
by a zero character.
-/

namespace RewardDesk

/-- The links. -/
structure LinkBook where
  links : Table String Link

namespace LinkBook

def empty : LinkBook := ⟨.empty⟩

/-- Where the link of an event and a reward is found. -/
def key (eventId rewardId : String) : String := eventId ++ "\x00" ++ rewardId

/-- Enter a link unless it is there, and say whether that was done. -/
def add (b : LinkBook) (link : Link) : Bool × LinkBook :=
  let (added, links) := b.links.setIfAbsent (key link.eventId link.rewardId) link
  (added, ⟨links⟩)

/-- Take a link out, and say whether it was there. -/
def remove (b : LinkBook) (eventId rewardId : String) : Bool × LinkBook :=
  let (taken, links) := b.links.take (key eventId rewardId)
  (taken.isSome, ⟨links⟩)

/-- Was `a` linked before `b`, or at the same time and is its reward's id not the greater? -/
def earlierFirst (a b : Link) : Bool :=
  ((compare a.createdAt b.createdAt).then (compare a.rewardId b.rewardId)).isLE

/-- The rewards linked to an event, in the order in which they were linked. -/
def rewardIds (b : LinkBook) (eventId : String) : List String :=
  ((b.links.values.filter (·.eventId = eventId)).mergeSort earlierFirst).map (·.rewardId)

end LinkBook
end RewardDesk
