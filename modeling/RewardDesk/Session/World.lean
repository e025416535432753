import RewardDesk.Desk.Program
import RewardDesk.Notice.Channel

/-!
# Worlds

What surrounds the programs of one service: its storage, its channel of notices, its counters, its
log, and where fresh ids and the time come from. `World.run` runs a program to its end before the
next one begins.
-/

namespace RewardDesk

/-- Where fresh ids and the time come from: the ones that are given out next, and so on. -/
structure Supply where
  id : Nat → String
  time : Nat → Instant

/-- The surroundings of a service whose storage has states of type `σ`. -/
structure World (σ : Type) where
  storage : σ
  channel : Channel StatusChange
  /-- What has been counted, in order. -/
  tally : Tally := []
  /-- What has been said, in order. -/
  log : List Log.Entry := []
  /-- How many ids have been given out. -/
  idsGiven : Nat := 0
  /-- How often the time has been read. -/
  timesRead : Nat := 0

namespace World

/-- The answer to a call. -/
def answer (storage : Storage σ) (supply : Supply) : (c : Call) → World σ → c.Answer × World σ
  | .statement s, w =>
    let (a, state) := storage s w.storage
    (a, { w with storage := state })
  | .freshId, w => (supply.id w.idsGiven, { w with idsGiven := w.idsGiven + 1 })
  | .clock, w => (supply.time w.timesRead, { w with timesRead := w.timesRead + 1 })
  | .publish change, w =>
    let (receivers, channel) := w.channel.send change
    (receivers, { w with channel })
  | .measure m, w => ((), { w with tally := w.tally ++ [m] })
  | .log e, w => ((), { w with log := w.log ++ [e] })

/-- Run a program to its end. -/
def run (storage : Storage σ) (supply : Supply) (p : Program α) (w : World σ) : α × World σ :=
  p.run (answer storage supply) w

end World
end RewardDesk
