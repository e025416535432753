import RewardDesk.Proofs.History
import RewardDesk.Proofs.Interleaving.Determined
import RewardDesk.Proofs.Interleaving.Errand
import RewardDesk.Proofs.Records.Deeds

/-!
# Two changes of one event

A change reads the event, puts the fields in that it was given, and writes the whole event back.
When two of them are at work on one event at the same time, one may write back what the other has
changed in the meantime (`Events.status_lost`).

`Events.concurrent_updates` says what is kept in every interleaving. If one of the two has written
before the other one reads, all fields have what was given for them. Otherwise one of the two is
lost.
-/

namespace RewardDesk

/-! ## Fields

The fields that a change can set, in one type, so that what holds of all of them can be said
once. -/

/-- The fields of an event that can be changed. -/
inductive EventField where
  | name | description | condition | startDate | endDate | status

namespace EventField

/-- The type of a field. -/
def Value : EventField → Type
  | .name => String
  | .description => Option String
  | .condition => Option Json
  | .startDate | .endDate => Instant
  | .status => EventStatus

/-- What an event has in a field. -/
def value : (f : EventField) → Event → f.Value
  | .name, e => e.name
  | .description, e => e.description
  | .condition, e => e.condition
  | .startDate, e => e.startDate
  | .endDate, e => e.endDate
  | .status, e => e.status

/-- What is given for a field. -/
def given : (f : EventField) → UpdateEvent → Option f.Value
  | .name, p => p.name
  | .description, p => p.description.map some
  | .condition, p => p.condition.map some
  | .startDate, p => p.startDate
  | .endDate, p => p.endDate
  | .status, p => p.status

end EventField

namespace Events

variable {p : UpdateEvent} {e : Event}

/-- The event that a change writes back when it has read `e`. -/
def changed (p : UpdateEvent) (e : Event) (time : Instant) : Event :=
  { merge p e with updatedAt := time }

/-- Each field has what is given for it, or what it had. -/
theorem value_changed (f : EventField) (p : UpdateEvent) (e : Event) (time : Instant) :
    f.value (changed p e time) = (f.given p).getD (f.value e) := by
  cases f with
  | description =>
    show p.description.or e.description = (p.description.map some).getD e.description
    cases p.description <;> rfl
  | condition =>
    show p.condition.or e.condition = (p.condition.map some).getD e.condition
    cases p.condition <;> rfl
  | _ => rfl

theorem get?_update : Router.standard.get? "update_event" =
    some (.of "update_event" UpdateEvent.payload Events.update Event.codec.encode) := by rfl

end Events

/-! ## One change

A change is a look-up and then at most one write, of what was looked up with the given fields put
in. Nothing of this depends on what the other change does in between. -/

/-- How things stand for a change. -/
structure Revision where
  plan : UpdateEvent
  /-- The event that was read. -/
  seen : Option Event := none
  /-- Has the event been written back? -/
  written : Bool := false

namespace Revision

/-- One look-up comes first, and then what was made of its answer is written back once. -/
def allows (g : Revision) : Call → Prop
  | .statement (.getEvent id) => g.written = false ∧ g.seen = none ∧ id = g.plan.id
  | .statement (.updateEvent e) => g.written = false ∧
      ∃ old, g.seen = some old ∧ e = Events.changed g.plan old e.updatedAt
  | .statement _ => False
  | _ => True

def after (g : Revision) : (c : Call) → c.Answer → Revision
  | .statement (.getEvent _), .ok found => { g with seen := found }
  | .statement (.updateEvent _), _ => { g with written := true }
  | _, _ => g

/-- Who succeeds has written. -/
def Ends (outcome : Except DeskError α) (g : Revision) : Prop := outcome.isOk → g.written = true

end Revision

/-- The contract of changes. -/
abbrev revising : Contract Revision := .determined Revision.allows Revision.after

instance : revising.Quiet where
  allows_log _ _ := trivial
  leads_log _ _ _ := ⟨And.right, fun h => ⟨trivial, h⟩⟩
  allows_measure _ _ := trivial
  leads_measure _ _ _ := ⟨And.right, fun h => ⟨trivial, h⟩⟩

namespace revising

open Revision (Ends)

theorem ends_error (error : DeskError) (g : Revision) :
    Ends (.error error : Except DeskError α) g := nofun

theorem obeys_update (p : UpdateEvent) :
    (Events.update p).run.Obeys revising { plan := p } Ends := by
  simp only [Events.update, Events.get, Desk.obeys_within, Desk.obeys_bind,
    Contract.determined.obeys_perform, Desk.obeys_orElse, Desk.obeys_liftM]
  refine ⟨⟨rfl, rfl, rfl⟩, fun found => ?_⟩
  cases found with
  | none => exact ends_error _ _
  | some e =>
    simp only [Option.elim]
    cases Events.checkPeriod (Events.merge p e).startDate (Events.merge p e).endDate with
    | error error => exact ends_error _ _
    | ok _ =>
      simp only [Contract.determined.obeys_clock]
      refine ⟨trivial, fun now => ⟨⟨rfl, e, rfl, rfl⟩, fun found => ?_⟩⟩
      cases found with
      | false => exact ends_error _ _
      | true => simp [Ends, Revision.after]

theorem obeys_dispatch {payload : Json} {p : UpdateEvent}
    (hread : UpdateEvent.payload.read payload = .ok p) :
    (Router.standard.dispatch "update_event" payload).Obeys revising { plan := p } Ends := by
  rw [Router.obeys_dispatch_of_get? Events.get?_update]
  refine Handler.obeys_of (fun _ => ends_error _ _) fun a ha => ?_
  obtain rfl := Except.ok.inj (hread.symm.trans ha)
  refine (obeys_update p).mono fun outcome g hends => ?_
  cases outcome with
  | ok e => exact fun _ => hends rfl
  | error error => exact ends_error _ _

end revising

/-! ## Two changes

Two changes leave few cases (`Revised`): which of them have written, and whether the second one has
read before or after the first one wrote. `read` and `write` say which case follows which. -/

/-- Has one written before the other one reads? -/
def Serial (history : List (Bool × Call)) (first : Bool) : Prop :=
  ∃ earlier later e id, history = earlier ++ (first, .statement (.updateEvent e)) :: later ∧
    (!first, .statement (.getEvent id)) ∈ later

theorem not_serial_nil (first : Bool) : ¬ Serial [] first := by
  rintro ⟨earlier, later, e, id, hnil, -⟩
  simp at hnil

theorem serial_snoc {history : List (Bool × Call)} {i first : Bool} {c : Call} :
    Serial (history ++ [(i, c)]) first ↔ Serial history first ∨
      (i = !first ∧ (∃ id, c = .statement (.getEvent id)) ∧
        ∃ e, (first, .statement (.updateEvent e)) ∈ history) := by
  constructor
  · rintro ⟨earlier, later, e, id, hhistory, hread⟩
    rcases History.concat_eq_append_cons_iff.1 hhistory with ⟨-, -, rfl⟩ | ⟨rest, rfl, rfl⟩
    · exact absurd hread List.not_mem_nil
    · rw [List.mem_append, List.mem_singleton] at hread
      rcases hread with hread | hread
      · exact .inl ⟨earlier, rest, e, id, rfl, hread⟩
      · obtain ⟨rfl, rfl⟩ := Prod.mk.inj hread
        exact .inr ⟨rfl, ⟨id, rfl⟩, e, by simp⟩
  · rintro (⟨earlier, later, e, id, rfl, hread⟩ | ⟨rfl, ⟨id, rfl⟩, e, hwrote⟩)
    · exact ⟨earlier, later ++ [(i, c)], e, id, by simp, List.mem_append_left _ hread⟩
    · obtain ⟨earlier, later, rfl⟩ := List.append_of_mem hwrote
      exact ⟨earlier, later ++ [(!first, .statement (.getEvent id))], e, id, by simp, by simp⟩

/-- How far two changes of an event are, and what the event is then. -/
inductive Revised (p : Bool → UpdateEvent) (start : Event) (acc : Bool → Revision)
    (serial : Bool → Prop) : Event → Prop
  | unchanged : (∀ i, (acc i).written = false) → (∀ i e, (acc i).seen = some e → e = start) →
      (∀ i, ¬ serial i) → Revised p start acc serial start
  /-- One has written, and the other has read before that or not at all. -/
  | once (i : Bool) (time : Instant) : (acc i).written = true → (acc !i).written = false →
      (∀ e, (acc !i).seen = some e → e = start) → (∀ j, ¬ serial j) →
      Revised p start acc serial (Events.changed (p i) start time)
  /-- One has written and the other has read what that was. -/
  | onceRead (i : Bool) (time : Instant) : (acc i).written = true → (acc !i).written = false →
      (acc !i).seen = some (Events.changed (p i) start time) → serial i →
      Revised p start acc serial (Events.changed (p i) start time)
  /-- Both have written, and both have read the event at the start. -/
  | overlapping (last : Bool) (time : Instant) : (∀ i, (acc i).written = true) →
      (∀ i, ¬ serial i) → Revised p start acc serial (Events.changed (p last) start time)
  /-- Both have written, one after the other. -/
  | serial (first : Bool) (time time' : Instant) : (∀ i, (acc i).written = true) → serial first →
      Revised p start acc serial
        (Events.changed (p !first) (Events.changed (p first) start time) time')

namespace Revised

variable {p : Bool → UpdateEvent} {start e : Event} {acc : Bool → Revision} {serial : Bool → Prop}

theorem id_eq (h : Revised p start acc serial e) : e.id = start.id := by
  cases h <;> rfl

/-- Only what was read, what was written and which came first matter. -/
theorem congr {acc' : Bool → Revision} {serial' : Bool → Prop} (h : Revised p start acc serial e)
    (hacc : acc' = acc) (hserial : ∀ i, serial' i ↔ serial i) : Revised p start acc' serial' e := by
  obtain rfl : serial' = serial := funext fun i => propext (hserial i)
  rwa [hacc]

/-- If one has written and somebody has not, that is the other one. -/
theorem eq_not_of_written {a i : Bool} (ha : (acc a).written = true)
    (hidle : (acc i).written = false) : i = !a :=
  Bool.eq_not.2 fun heq => by simp [heq, ha] at hidle

/-- One of the two reads the event. -/
theorem read {i : Bool} {serial' : Bool → Prop} (h : Revised p start acc serial e)
    (hidle : (acc i).written = false) (hnew : (acc i).seen = none)
    (hserial : ∀ j, serial' j ↔ serial j ∨ (i = !j ∧ (acc j).written = true)) :
    Revised p start (Function.update acc i { acc i with seen := some e }) serial' e := by
  have hwritten : ∀ j, (Function.update acc i { acc i with seen := some e } j).written =
      (acc j).written := by
    intro j
    by_cases hj : j = i
    · subst hj
      rw [Function.update_self]
    · rw [Function.update_of_ne hj]
  cases h with
  | unchanged hnone hseen hnot =>
    refine .unchanged (fun j => by rw [hwritten, hnone]) (fun j e' hj => ?_) fun j => ?_
    · by_cases hji : j = i
      · subst hji
        rw [Function.update_self] at hj
        exact (Option.some.inj hj).symm
      · rw [Function.update_of_ne hji] at hj
        exact hseen j e' hj
    · rw [hserial, hnone]
      simpa using hnot j
  -- What is read now is what the other one has written.
  | once a time ha hother hseen hnot =>
    obtain rfl := eq_not_of_written ha hidle
    refine .onceRead a time (by rw [hwritten, ha]) (by rw [hwritten, hother]) ?_ ?_
    · rw [Function.update_self]
    · exact (hserial a).2 (.inr ⟨rfl, ha⟩)
  | onceRead a time ha hother hseen hfirst =>
    obtain rfl := eq_not_of_written ha hidle
    rw [hseen] at hnew
    exact absurd hnew nofun
  | overlapping last time hall hnot =>
    rw [hall i] at hidle
    exact absurd hidle nofun
  | serial first time time' hall hfirst =>
    rw [hall i] at hidle
    exact absurd hidle nofun

/-- One of the two writes what it has made of what it has read. -/
theorem write {i : Bool} {old : Event} (h : Revised p start acc serial e)
    (hidle : (acc i).written = false) (hold : (acc i).seen = some old) (time : Instant) :
    Revised p start (Function.update acc i { acc i with written := true }) serial
      (Events.changed (p i) old time) := by
  have hself : (Function.update acc i { acc i with written := true } i).written = true := by
    rw [Function.update_self]
  have hother : Function.update acc i { acc i with written := true } (!i) = acc (!i) :=
    Function.update_of_ne (by simp) ..
  have hboth : (acc !i).written = true →
      ∀ j, (Function.update acc i { acc i with written := true } j).written = true := by
    intro hwritten j
    by_cases hj : j = i
    · rw [hj, hself]
    · rw [Bool.eq_not.2 hj, hother, hwritten]
  cases h with
  | unchanged hnone hseen hnot =>
    obtain rfl := hseen i old hold
    refine .once i time hself ?_ (fun e he => ?_) hnot
    · rw [hother, hnone]
    · rw [hother] at he
      exact hseen _ e he
  | once a time' ha _ hseen hnot =>
    obtain rfl := eq_not_of_written ha hidle
    obtain rfl := hseen old hold
    exact .overlapping (!a) time (hboth (by rwa [Bool.not_not])) hnot
  | onceRead a time' ha _ hseen hfirst =>
    obtain rfl := eq_not_of_written ha hidle
    obtain rfl := Option.some.inj (hseen.symm.trans hold)
    exact .serial a time' time (hboth (by rwa [Bool.not_not])) hfirst
  | overlapping last time' hall hnot =>
    rw [hall i] at hidle
    exact absurd hidle nofun
  | serial first time' time'' hall hfirst =>
    rw [hall i] at hidle
    exact absurd hidle nofun

end Revised

/-- How far two changes of an event are in a world. -/
structure Edited (p : Bool → UpdateEvent) (start : Event) (w : World Store)
    (history : List (Bool × Call)) (acc : Bool → Revision) : Prop where
  plan : ∀ i, (acc i).plan = p i
  wrote : ∀ i, (acc i).written = true ↔ ∃ e, (i, .statement (.updateEvent e)) ∈ history
  stored : ∃ e, w.storage.events.get? start.id = some e ∧ Revised p start acc (Serial history) e

namespace Edited

open Contract.determined (account)

variable {p : Bool → UpdateEvent} {start : Event} {supply : Supply} {w : World Store}
  {history : List (Bool × Call)} {acc : Bool → Revision} {i : Bool}

/-- A call that is no statement changes nothing here. -/
theorem frame {w' : World Store} {c : Call} {a : c.Answer} (h : Edited p start w history acc)
    (hstorage : w'.storage = w.storage) (hc : ∀ q, c ≠ .statement q)
    (hsame : (acc i).after c a = acc i) :
    Edited p start w' (history ++ [(i, c)]) (account Revision.after acc i c a) := by
  rw [account, hsame, Function.update_eq_self]
  refine ⟨h.plan, fun j => ?_, ?_⟩
  · rw [h.wrote]
    simp [(hc _).symm]
  · obtain ⟨e, he, hrevised⟩ := h.stored
    refine ⟨e, hstorage ▸ he, hrevised.congr rfl fun j => ?_⟩
    simp [serial_snoc, hc]

theorem read (h : Edited p start w history acc) (hidle : (acc i).written = false)
    (hnew : (acc i).seen = none) :
    Edited p start w (history ++ [(i, .statement (.getEvent start.id))])
      (account Revision.after acc i (.statement (.getEvent start.id))
        (.ok (w.storage.events.get? start.id))) := by
  obtain ⟨e, he, hrevised⟩ := h.stored
  rw [he]
  refine ⟨fun j => ?_, fun j => ?_, e, he, hrevised.read hidle hnew fun j => ?_⟩
  · by_cases hj : j = i
    · subst hj
      rw [account, Function.update_self]
      exact h.plan j
    · rw [account, Function.update_of_ne hj]
      exact h.plan j
  · have hwritten : (account Revision.after acc i (.statement (.getEvent start.id))
        (.ok (some e)) j).written = (acc j).written := by
      by_cases hj : j = i
      · subst hj
        rw [account, Function.update_self]
        rfl
      · rw [account, Function.update_of_ne hj]
    rw [hwritten, h.wrote]
    simp
  · rw [serial_snoc, h.wrote]
    simp

theorem write {e : Event} (h : Edited p start w history acc)
    (hallows : (acc i).allows (.statement (.updateEvent e))) :
    Edited p start { w with storage := (w.storage.execute (.updateEvent e)).2 }
      (history ++ [(i, .statement (.updateEvent e))])
      (account Revision.after acc i (.statement (.updateEvent e))
        (.ok (w.storage.execute (.updateEvent e)).1)) := by
  obtain ⟨hidle, old, hold, hmade⟩ := hallows
  obtain ⟨now, hnow, hrevised⟩ := h.stored
  have hnext := hrevised.write hidle hold e.updatedAt
  rw [← h.plan i, ← hmade] at hnext
  have hid : e.id = start.id := hnext.id_eq
  have hstorage : (w.storage.execute (.updateEvent e)).2.events.get? start.id = some e := by
    rcases w.storage.updateEvent_cases e with ⟨hnone, -⟩ | ⟨_, -, hdone⟩
    · rw [hid, hnow] at hnone
      exact absurd hnone nofun
    · rw [hdone, Deed.apply, Table.get?_set, if_pos hid.symm]
  refine ⟨fun j => ?_, fun j => ?_, e, hstorage, hnext.congr rfl fun j => ?_⟩
  · by_cases hj : j = i
    · subst hj
      rw [account, Function.update_self]
      exact h.plan j
    · rw [account, Function.update_of_ne hj]
      exact h.plan j
  · by_cases hj : j = i
    · subst hj
      rw [account, Function.update_self]
      simp [Revision.after]
    · rw [account, Function.update_of_ne hj, h.wrote]
      simp [hj]
  · simp [serial_snoc]

/-- Every allowed call of two changes. -/
theorem call {c : Call} (hid : ∀ i, (p i).id = start.id) (h : Edited p start w history acc)
    (hallows : (acc i).allows c) :
    Edited p start (World.answer .memory supply c w).2 (history ++ [(i, c)])
      (account Revision.after acc i c (World.answer .memory supply c w).1) := by
  cases c with
  | statement q =>
    cases q with
    | getEvent id =>
      obtain ⟨hidle, hnew, rfl⟩ := hallows
      rw [h.plan i, hid i]
      exact h.read hidle hnew
    | updateEvent e => exact h.write hallows
    | _ => exact hallows.elim
  | _ => exact h.frame rfl (fun _ heq => nomatch heq) rfl

end Edited

/-! ## What is kept

Two changes of different fields ought not to disturb each other. Whether they do depends on the
order of their calls alone: it is settled by who has read before the other one wrote. -/

namespace Events

/-- Has every field that is given by one of the two only the value that was given? -/
def Kept (p : Bool → UpdateEvent) (e : Event) : Prop :=
  ∀ i (f : EventField) v, f.given (p i) = some v → f.given (p !i) = none → f.value e = v

variable {p : Bool → UpdateEvent} {start e : Event}

/-- Of two changes one after the other nothing is lost. -/
theorem kept_of_serial (p : Bool → UpdateEvent) (start : Event) (first : Bool)
    (time time' : Instant) :
    Kept p (changed (p !first) (changed (p first) start time) time') := by
  intro i f v hgiven hnot
  rw [value_changed, value_changed]
  by_cases hi : i = first
  · subst hi
    rw [hgiven, hnot]
    rfl
  · obtain rfl := Bool.eq_not.2 hi
    rw [hgiven]
    rfl

/-- Of two changes at the same time the one that does not come last is lost, except for what was
there already. -/
theorem kept_iff_of_overlapping (p : Bool → UpdateEvent) (start : Event) (last : Bool)
    (time : Instant) :
    Kept p (changed (p last) start time) ↔
      ∀ (f : EventField) v, f.given (p !last) = some v → f.given (p last) = none →
        f.value start = v := by
  constructor
  · intro hkept f v hgiven hnot
    have hvalue := hkept (!last) f v hgiven (by rwa [Bool.not_not])
    rwa [value_changed, hnot] at hvalue
  · intro hsame i f v hgiven hnot
    rw [value_changed]
    by_cases hi : i = last
    · subst hi
      rw [hgiven]
      rfl
    · obtain rfl := Bool.eq_not.2 hi
      rw [Bool.not_not] at hnot
      rw [hnot]
      exact hsame f v hgiven hnot

/-- Two changes of a stored event, whose calls are interleaved in any order and which both succeed.
If one of them has written before the other one reads, every field that only one of them was given
has the value that was given. Otherwise the event has what one of the two was given, and in all
other fields what it had at the start: what only the other one was given is lost, unless it was
there already. -/
theorem concurrent_updates {supply : Supply} {w : World Store} {payload : Bool → Json}
    (hread : ∀ i, UpdateEvent.payload.read (payload i) = .ok (p i))
    (hid : ∀ i, (p i).id = start.id) (hstored : w.storage.events.get? start.id = some start)
    (schedule : List Bool) :
    let crew : Crew Bool (World Store) (Except DeskError Json) :=
      { state := w, left := fun i => Router.standard.dispatch "update_event" (payload i) }
    let crew := crew.run (fun _ => World.answer .memory supply) schedule
    (∀ i, ∃ answer, crew.left i = .done (.ok answer)) →
      ∃ e, crew.state.storage.events.get? start.id = some e ∧
        ((∃ first, Serial crew.history first) → Kept p e) ∧
        ((∀ first, ¬ Serial crew.history first) → ∃ last,
          (∀ f : EventField, f.value e = (f.given (p last)).getD (f.value start)) ∧
          (Kept p e ↔ ∀ (f : EventField) v, f.given (p !last) = some v →
            f.given (p last) = none → f.value start = v)) := by
  intro crew₀ crew hdone
  have hstart : Edited p start crew₀.state crew₀.history fun i => { plan := p i } :=
    ⟨fun _ => rfl, fun i => by simp [crew₀],
      start, hstored, .unchanged (fun _ => rfl) (fun _ _ => nofun) not_serial_nil⟩
  obtain ⟨acc, hedited, -, hobeys⟩ := Contract.determined.run_keeps (Edited p start)
    (fun h hallows => h.call hid hallows) schedule hstart
    fun i => revising.obeys_dispatch (hread i)
  have hwritten : ∀ i, (acc i).written = true := by
    intro i
    obtain ⟨answer, hanswer⟩ := hdone i
    have hends := hobeys i
    rw [show (crew₀.run _ schedule).left i = _ from hanswer] at hends
    exact hends rfl
  obtain ⟨e, he, hrevised⟩ := hedited.stored
  refine ⟨e, he, ?_⟩
  cases hrevised with
  | unchanged hnone _ _ => exact absurd ((hwritten true).symm.trans (hnone true)) nofun
  | once i time _ hother _ _ => exact absurd ((hwritten !i).symm.trans hother) nofun
  | onceRead i time _ hother _ _ => exact absurd ((hwritten !i).symm.trans hother) nofun
  | overlapping last time _ hnot =>
    refine ⟨fun ⟨first, hfirst⟩ => absurd hfirst (hnot first), fun _ => ⟨last, ?_, ?_⟩⟩
    · exact fun f => value_changed f _ _ _
    · exact kept_iff_of_overlapping p start last time
  | serial first time time' _ hfirst =>
    refine ⟨fun _ => kept_of_serial p start first time time', fun hnot => ?_⟩
    exact absurd hfirst (hnot first)

/-! ## Two wishes

The name and the status of one event are changed at the same time. In turn both changes are kept; if
both have read first, the one that writes last restores what the other one has changed. -/

/-- To change the name of an event, and to change its status. -/
def wishes : Bool → Json
  | false => .object [("id", .string "x"), ("name", .string "F")]
  | true => .object [("id", .string "x"), ("status", .string "INACTIVE")]

/-- What the two are given. -/
def wished : Bool → UpdateEvent
  | false => ⟨"x", some "F", none, none, none, none, none⟩
  | true => ⟨"x", none, none, none, none, none, some .inactive⟩

theorem read_wishes (i : Bool) : UpdateEvent.payload.read (wishes i) = .ok (wished i) := by
  cases i with
  | false => rfl
  | true => rfl

/-- A service with an event under the id `x`. -/
def opened : World Store :=
  (World.run .memory .growing (Errand.opening "E").program
    { storage := .empty, channel := .ofCapacity 1 }).2

/-- The two at work on that event, in the order of a schedule. -/
def atWork (schedule : List Bool) : Crew Bool (World Store) (Except DeskError Json) :=
  Crew.run (fun _ => World.answer .memory .growing)
    { state := opened, left := fun i => Router.standard.dispatch "update_event" (wishes i) } schedule

/-- One after the other both succeed, and nothing is lost. -/
theorem concurrent_updates_of_wishes :
    let crew := atWork (.replicate 9 false ++ .replicate 9 true)
    (∀ i, UpdateEvent.payload.read (wishes i) = .ok (wished i)) ∧
      (∃ start, opened.storage.events.get? start.id = some start ∧ ∀ i, (wished i).id = start.id) ∧
      (∀ i, ∃ answer, crew.left i = .done (.ok answer)) ∧ Serial crew.history false ∧
      ∃ e, crew.state.storage.events.get? "x" = some e ∧ Kept wished e := by
  intro crew
  obtain ⟨start, hstored, hid⟩ : ∃ start, opened.storage.events.get? "x" = some start ∧
      start.id = "x" := ⟨_, rfl, rfl⟩
  rw [← hid] at hstored
  have hwished : ∀ i, (wished i).id = start.id := by
    intro i
    rw [hid]
    cases i with
    | false => rfl
    | true => rfl
  have hdone : ∀ i, ∃ answer, crew.left i = .done (.ok answer) := by
    intro i
    cases i with
    | false => exact ⟨_, rfl⟩
    | true => exact ⟨_, rfl⟩
  have hserial : Serial crew.history false :=
    ⟨crew.history.take 4, crew.history.drop 5, _, "x", rfl,
      List.mem_iff_getElem.2 ⟨6, by decide, rfl⟩⟩
  obtain ⟨e, he, hkept, -⟩ := concurrent_updates read_wishes hwished hstored
    (List.replicate 9 false ++ List.replicate 9 true) hdone
  rw [hid] at he
  exact ⟨read_wishes, ⟨start, hstored, hwished⟩, hdone, hserial, e, he, hkept ⟨false, hserial⟩⟩

/-- The first one reads, then the second one reads and writes, and then the first one writes. Both
succeed, and the status that only the second one was given is lost. -/
theorem status_lost :
    let crew := atWork (.replicate 3 false ++ .replicate 9 true ++ .replicate 6 false)
    (∀ i, UpdateEvent.payload.read (wishes i) = .ok (wished i)) ∧
      (∀ i, ∃ answer, crew.left i = .done (.ok answer)) ∧
      EventField.status.given (wished true) = some .inactive ∧
      EventField.status.given (wished false) = none ∧
      ∃ e, crew.state.storage.events.get? "x" = some e ∧
        EventField.status.value e = EventStatus.active ∧ ¬ Kept wished e := by
  refine ⟨read_wishes, fun i => ?_, rfl, rfl, _, rfl, rfl, fun hkept => ?_⟩
  · cases i with
    | false => exact ⟨_, rfl⟩
    | true => exact ⟨_, rfl⟩
  · exact absurd (hkept true .status .inactive rfl rfl) nofun

end Events
end RewardDesk
