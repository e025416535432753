import RewardDesk.Store.LinkBook
import RewardDesk.Store.RequestBook
import RewardDesk.Store.Statement

/-!
# The store

All records of the service, kept in memory. `Store.execute` says what each statement answers and
does.
-/

namespace RewardDesk

/-- All records of the service. -/
structure Store where
  events : Table String Event
  rewards : Table String Reward
  links : LinkBook
  requests : RequestBook

namespace Store

def empty : Store := ⟨.empty, .empty, .empty, .empty⟩

instance : Inhabited Store := ⟨empty⟩

/-- The events of a status, or all. -/
def eventsOf (s : Store) (status : Option EventStatus) : List Event :=
  s.events.values.filter fun e => status.all (· = e.status)

/-- The rewards that a filter admits. -/
def rewardsOf (s : Store) (f : RewardFilter) : List Reward := s.rewards.values.filter f.admits

/-- The requests that a filter admits. -/
def requestsOf (s : Store) (f : RequestFilter) : List Request :=
  s.requests.requests.values.filter f.admits

/-- The rewards with the given ids, by id and each once. -/
def rewardsById (s : Store) (ids : List String) : List Reward :=
  ((ids.filterMap s.rewards.get?).mergeSort Listing.idAscending).eraseRepsBy (·.id = ·.id)

/-- Carry out a statement. -/
def execute (s : Store) : (q : Statement) → q.Result × Store
  | .createEvent e => ((), { s with events := s.events.set e.id e })
  | .getEvent id => (s.events.get? id, s)
  | .updateEvent e =>
    let (found, events) := s.events.replace e.id e
    (found, { s with events })
  | .listEvents status w => (Listing.window w (s.eventsOf status), s)
  | .countEvents status => (.ofNat (s.eventsOf status).length, s)
  | .createReward r => ((), { s with rewards := s.rewards.set r.id r })
  | .getReward id => (s.rewards.get? id, s)
  | .getRewards ids => (s.rewardsById ids, s)
  | .listRewards f w => (Listing.window w (s.rewardsOf f), s)
  | .countRewards f => (.ofNat (s.rewardsOf f).length, s)
  | .walkRewards f q => (Listing.walk q (s.rewardsOf f), s)
  | .addLink l =>
    let (added, links) := s.links.add l
    (added, { s with links })
  | .removeLink eventId rewardId =>
    let (removed, links) := s.links.remove eventId rewardId
    (removed, { s with links })
  | .linkedRewards eventId => (s.links.rewardIds eventId, s)
  | .createPending r =>
    let (created, requests) := s.requests.createPending r
    (created, { s with requests })
  | .getRequest id => (s.requests.requests.get? id, s)
  | .listRequests f w => (Listing.window w (s.requestsOf f), s)
  | .countRequests f => (.ofNat (s.requestsOf f).length, s)
  | .walkRequests f q => (Listing.walk q (s.requestsOf f), s)
  | .transition id status time =>
    let (updated, requests) := s.requests.transition id status time
    (updated, { s with requests })

end Store

/-- A storage in memory, where every statement succeeds. -/
def Storage.memory : Storage Store := fun q s =>
  let (answer, s) := s.execute q
  (.ok answer, s)

end RewardDesk
