import RewardDesk.Proofs.Notice.Channel
import RewardDesk.Proofs.Requests.Changes
import RewardDesk.Proofs.Session.Turns

/-!
# What subscribers receive

Somebody who takes part in the channel of notices reads it from time to time, and cuts the changes
of status since they have joined into batches: those before the first reading, those between the
first and the second, and so on (`Turn.batches`). Each reading gets its batch, in order, as far as
the channel remembers it (`Channel.window`).

`Turn.subscribers_receive` says this of all runs. Who never lets more changes wait than the channel
remembers receives every change once; who does is told how many they have lost
(`Turn.subscribers_miss`).
-/

namespace RewardDesk

/-! ## Sending many messages

A turn may publish several changes at once, or none. What holds of one message holds of all, one
after the other. -/

namespace Channel

variable {α : Type} {c : Channel α} {all pending : List α} {who : String}

theorem capacity_sendAll (c : Channel α) (messages : List α) :
    (c.sendAll messages).capacity = c.capacity := by
  induction messages generalizing c with
  | nil => rfl
  | cons m messages ih => exact (ih _).trans (capacity_send c m)

theorem Remembers.sendAll (h : c.Remembers all) (messages : List α) :
    ∃ all', (c.sendAll messages).Remembers all' := by
  induction messages generalizing c all with
  | nil => exact ⟨all, h⟩
  | cons m messages ih =>
    by_cases hheard : c.receiverCount = 0
    · exact ih (h.send_of_unheard hheard m)
    · exact ih (h.send hheard m)

theorem Awaits.sendAll (h : c.Awaits who pending) (messages : List α) :
    (c.sendAll messages).Awaits who (pending ++ messages) := by
  induction messages generalizing c pending with
  | nil => rwa [List.append_nil]
  | cons m messages ih =>
    rw [List.append_cons]
    exact ih (h.send m)

end Channel

namespace Turn

variable {supply : Supply} {w : World Store} {who : String} {pending : List StatusChange}

/-! ## What is changed, and what is read

The changes are read off the stores before and after each turn, and the readings off the notes of
the play. Nothing is said of the channel here. -/

/-- The changes of status in a turn. -/
def Note.changes : Note → List StatusChange
  | .served _ _ before after => before.changes after
  | _ => []

/-- What somebody gets in a turn, if they read the channel then. -/
def Note.readBy (who : String) : Note → Option (List (Delivery StatusChange))
  | .drained reader deliveries => if reader = who then some deliveries else none
  | _ => none

/-- What somebody gets, reading by reading. -/
def readings (who : String) (notes : List Note) : List (List (Delivery StatusChange)) :=
  notes.filterMap (Note.readBy who)

/-- The changes that somebody finds at each reading if nothing is lost. The first ones are there
already. -/
def batches (who : String) : List StatusChange → List Note → List (List StatusChange)
  | _, [] => []
  | pending, note :: notes =>
    match note.readBy who with
    | some _ => pending :: batches who [] notes
    | none => batches who (pending ++ note.changes) notes

/-- Up to a last reading, the batches are all changes in their order. -/
theorem flatten_batches (who : String) (deliveries : List (Delivery StatusChange))
    (pending : List StatusChange) (notes : List Note) :
    (batches who pending (notes ++ [.drained who deliveries])).flatten =
      pending ++ (notes ++ [Note.drained who deliveries]).flatMap Note.changes := by
  induction notes generalizing pending with
  | nil => simp [batches, Note.readBy, Note.changes]
  | cons note notes ih =>
    rw [List.cons_append, batches, List.flatMap_cons]
    cases hread : note.readBy who with
    | none => rw [ih, List.append_assoc]
    | some got =>
      have hnone : note.changes = [] := by
        cases note with
        | served _ _ _ _ => exact absurd hread nofun
        | _ => rfl
      rw [List.flatten_cons, ih, hnone, List.nil_append]

/-! ## What a turn does to the channel

A turn publishes what it has changed (`Errand.sends_changes`). So what waits in the channel for a
subscriber can be told from the notes since their last reading, as far as the channel remembers
it. -/

/-- Whoever takes part, the channel remembers the end of all that was sent. -/
structure Kept (capacity : Nat) (w : World Store) : Prop where
  capacity : w.channel.capacity = capacity
  filed : w.storage.Filed
  remembers : ∃ all, w.channel.Remembers all

/-- What waits for somebody after a turn. -/
def Note.leaves (who : String) (pending : List StatusChange) (note : Note) : List StatusChange :=
  if (note.readBy who).isSome then [] else pending ++ note.changes

theorem Note.leaves_of_unread {note : Note} (hread : note.readBy who = none)
    (hchanges : note.changes = []) : note.leaves who pending = pending := by
  rw [leaves, hread, hchanges, List.append_nil]
  rfl

namespace Kept

variable {capacity : Nat}

theorem start (capacity : Nat) :
    Kept (ceilPowerOfTwo capacity) { storage := .empty, channel := .ofCapacity capacity } :=
  ⟨rfl, Store.filed_empty, [], Channel.remembers_ofCapacity capacity⟩

theorem take (supply : Supply) (h : Kept capacity w) (t : Turn) :
    Kept capacity (t.take supply w).2 := by
  obtain ⟨hcapacity, hfiled, all, hall⟩ := h
  cases t with
  | errand e =>
    obtain ⟨hchannel, hfiled'⟩ := e.sends_changes supply hfiled
    refine ⟨?_, hfiled', ?_⟩
    · exact (congrArg Channel.capacity hchannel).trans
        ((Channel.capacity_sendAll ..).trans hcapacity)
    · show ∃ all, (World.run .memory supply e.program w).2.channel.Remembers all
      rw [hchannel]
      exact hall.sendAll _
  | subscribe who => exact ⟨hcapacity, hfiled, all, hall.sent, hall.recent⟩
  | unsubscribe who => exact ⟨hcapacity, hfiled, all, hall.sent, hall.recent⟩
  | drain who => exact ⟨(Channel.capacity_drain ..).trans hcapacity, hfiled, all, hall.drain who⟩

theorem play (supply : Supply) (h : Kept capacity w) (turns : List Turn) :
    Kept capacity (Turn.play supply turns w).2 :=
  @play_holds supply (fun _ w => Kept capacity w) (fun _ _ t h => h.take supply t) turns [] w h

/-- Who reads gets what waits, and whatever else happens adds its changes. -/
theorem awaits_take (supply : Supply) (h : Kept capacity w)
    (hawaits : w.channel.Awaits who pending) (t : Turn)
    (hstays : t ≠ .subscribe who ∧ t ≠ .unsubscribe who) :
    (t.take supply w).2.channel.Awaits who ((t.take supply w).1.leaves who pending) ∧
      ∀ got, (t.take supply w).1.readBy who = some got → got = Channel.window capacity pending := by
  cases t with
  | errand e =>
    refine ⟨?_, fun _ hread => absurd hread nofun⟩
    show (World.run .memory supply e.program w).2.channel.Awaits who (pending ++ _)
    rw [(e.sends_changes supply h.filed).1]
    exact hawaits.sendAll _
  | subscribe other =>
    refine ⟨?_, fun _ hread => absurd hread nofun⟩
    rw [Note.leaves_of_unread rfl rfl]
    exact hawaits.subscribe fun heq => hstays.1 (congrArg Turn.subscribe heq.symm)
  | unsubscribe other =>
    refine ⟨?_, fun _ hread => absurd hread nofun⟩
    rw [Note.leaves_of_unread rfl rfl]
    exact hawaits.unsubscribe fun heq => hstays.2 (congrArg Turn.unsubscribe heq.symm)
  | drain reader =>
    by_cases hreader : reader = who
    · subst hreader
      obtain ⟨hgot, hnothing⟩ := hawaits.drain
      have hread : ((Turn.drain reader).take supply w).1.readBy reader =
        some (w.channel.drain reader).1 := if_pos rfl
      rw [Note.leaves, hread]
      refine ⟨hnothing, fun got heq => ?_⟩
      rw [← Option.some.inj heq, hgot, h.capacity]
    · have hread : ((Turn.drain reader).take supply w).1.readBy who = none := if_neg hreader
      rw [Note.leaves_of_unread hread rfl, hread]
      exact ⟨hawaits.drain_other (Ne.symm hreader), fun _ heq => absurd heq nofun⟩

/-- Who stays gets of each batch what the channel remembers. -/
theorem readings_play (h : Kept capacity w) (hawaits : w.channel.Awaits who pending)
    {turns : List Turn} (hstays : ∀ t ∈ turns, t ≠ .subscribe who ∧ t ≠ .unsubscribe who) :
    readings who (Turn.play supply turns w).1 =
      (batches who pending (Turn.play supply turns w).1).map (Channel.window capacity) := by
  induction turns generalizing w pending with
  | nil => rfl
  | cons t turns ih =>
    obtain ⟨hnext, hgot⟩ := h.awaits_take supply hawaits t (hstays t List.mem_cons_self)
    have hrest := ih (h.take supply t) hnext fun t' ht' => hstays t' (List.mem_cons_of_mem t ht')
    rw [play_cons, readings, List.filterMap_cons, batches]
    cases hread : (t.take supply w).1.readBy who with
    | none =>
      rw [Note.leaves, hread] at hrest
      exact hrest
    | some got =>
      rw [Note.leaves, hread] at hrest
      rw [hgot got hread]
      exact congrArg _ hrest

end Kept

/-- After any turns of a service that starts without records somebody joins, and after any further
turns, in which they neither leave nor join again, they read the channel. Then they have received,
at that reading and all their earlier ones:

* of the batches into which they have cut the changes since they joined, each one in order, or the
  last ones of its changes if the channel does not remember more, after a word on how many are lost;
* every change since they joined, in order and each once, and nothing else, just if no batch was
  ever longer than what the channel remembers, which is the capacity that was asked for, or the next
  power of two. -/
theorem subscribers_receive (supply : Supply) (capacity : Nat) (earlier later : List Turn)
    (who : String) (hstays : ∀ t ∈ later, t ≠ .subscribe who ∧ t ≠ .unsubscribe who) :
    let w := (play supply (earlier ++ [.subscribe who])
      { storage := .empty, channel := .ofCapacity capacity }).2
    let notes := (play supply (later ++ [.drain who]) w).1
    let due := batches who [] notes
    due.flatten = notes.flatMap Note.changes ∧
      readings who notes = due.map (Channel.window (ceilPowerOfTwo capacity)) ∧
      ((readings who notes).flatten = (notes.flatMap Note.changes).map .message ↔
        ∀ batch ∈ due, batch.length ≤ ceilPowerOfTwo capacity) := by
  intro w notes due
  have hearlier := (Kept.start capacity).play supply earlier
  have hkept : Kept (ceilPowerOfTwo capacity) w := (Kept.start capacity).play supply _
  have hawaits : w.channel.Awaits who [] := by
    obtain ⟨all, hall⟩ := hearlier.remembers
    show (play supply (earlier ++ [.subscribe who]) _).2.channel.Awaits who []
    rw [play_append]
    exact hall.subscribe who
  have hdue : due.flatten = notes.flatMap Note.changes := by
    show (batches who [] (play supply (later ++ [.drain who]) w).1).flatten =
      (play supply (later ++ [.drain who]) w).1.flatMap Note.changes
    rw [play_append]
    exact flatten_batches who _ [] _
  have hreadings : readings who notes = due.map (Channel.window (ceilPowerOfTwo capacity)) := by
    refine hkept.readings_play hawaits fun t ht => ?_
    rcases List.mem_append.1 ht with ht | ht
    · exact hstays t ht
    · rw [List.mem_singleton.1 ht]
      exact ⟨nofun, nofun⟩
  refine ⟨hdue, hreadings, ?_⟩
  rw [hreadings, ← hdue]
  exact Channel.flatten_windows

/-- Two users apply to an event. -/
def applications : List Turn := [.errand (.opening "E"), .errand (.application "u" "x"),
  .errand (.application "v" "x")]

/-- What is said of the reviews of the two. -/
def reviews : List StatusChange := [⟨"xx", "u", "x", .pending, .approved, default⟩,
  ⟨"xxx", "v", "x", .pending, .rejected, default⟩]

/-- A channel that remembers one change is enough for somebody who reads it after each review. -/
theorem subscribers_receive_of_applications :
    let later := [.errand (.review "xx" .approved), .drain "s", .errand (.review "xxx" .rejected)]
    (∀ t ∈ later, t ≠ .subscribe "s" ∧ t ≠ .unsubscribe "s") ∧
      let w := (play .growing (applications ++ [.subscribe "s"])
        { storage := .empty, channel := .ofCapacity 1 }).2
      let notes := (play .growing (later ++ [.drain "s"]) w).1
      (∀ batch ∈ batches "s" [] notes, batch.length ≤ 1) ∧ notes.flatMap Note.changes = reviews ∧
        (readings "s" notes).flatten = reviews.map .message := by
  intro later
  have hstays : ∀ t ∈ later, t ≠ .subscribe "s" ∧ t ≠ .unsubscribe "s" := by
    simp [later]
  refine ⟨hstays, ?_⟩
  intro w notes
  have hshort : ∀ batch ∈ batches "s" [] notes, batch.length ≤ 1 := by decide +kernel
  have hchanges : notes.flatMap Note.changes = reviews := by decide +kernel
  obtain ⟨-, -, hall⟩ := subscribers_receive .growing 1 applications later "s" hstays
  refine ⟨hshort, hchanges, ?_⟩
  rw [← hchanges]
  exact hall.2 hshort

/-- It is not enough for somebody who reads it after both: they are told that one change is lost. -/
theorem subscribers_miss :
    let w := (play .growing (applications ++ [.subscribe "s"])
      { storage := .empty, channel := .ofCapacity 1 }).2
    let notes := (play .growing
      [.errand (.review "xx" .approved), .errand (.review "xxx" .rejected), .drain "s"] w).1
    notes.flatMap Note.changes = reviews ∧
      (readings "s" notes).flatten = .lagged 1 :: reviews.tail.map .message ∧
      (readings "s" notes).flatten ≠ (notes.flatMap Note.changes).map .message := by
  decide +kernel

end Turn
end RewardDesk
