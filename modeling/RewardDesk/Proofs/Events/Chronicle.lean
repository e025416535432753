import RewardDesk.Proofs.Events.Revisions
import RewardDesk.Proofs.Links.Pairs
import RewardDesk.Proofs.Outcome
import RewardDesk.Proofs.Session.Watching

/-!
# The chronicle of an event

What an event is can be told from what has been said about it. The moments of a play are its turns
with the worlds that they find (`Turn.moments`). At some of them the event is created or changed
with success, and each of these gives values to some of its fields (`Moment.Gives`). Every field of
a stored event has the value that it was given last, whatever else was tried in between
(`Events.changes_compose`).
-/

namespace RewardDesk

/-! ## Moments

What is said of an event is told from outside the store, by the name, the payload and the answer of
each command. `Creates` and `Changes` say of a moment that its command succeeded in making or
editing the event, `Gives` which value it gave to a field. A moment has one turn, so it writes one
event at most (`Creates.eq_of_writes`, `Changes.eq_of_writes`). -/

/-- A turn, and the world that it finds. -/
structure Moment where
  world : World Store
  turn : Turn

namespace Turn

variable {supply : Supply}

/-- The moments of a play. -/
def moments (supply : Supply) : List Turn → World Store → List Moment
  | [], _ => []
  | t :: turns, w => ⟨w, t⟩ :: moments supply turns (t.take supply w).2

/-- What every turn keeps of the moments so far is so after all turns. -/
theorem moments_hold (holds : List Moment → World Store → Prop)
    (h : ∀ before w t, holds before w → holds (before ++ [⟨w, t⟩]) (take supply w t).2)
    (turns : List Turn) {before : List Moment} {w : World Store} (hstart : holds before w) :
    holds (before ++ moments supply turns w) (play supply turns w).2 := by
  induction turns generalizing before w with
  | nil => rwa [moments, List.append_nil]
  | cons t turns ih =>
    have hrest := ih (h before w t hstart)
    rwa [List.append_assoc] at hrest

end Turn

/-- What an event has in a field when it is created. -/
def EventField.initial : (f : EventField) → CreateEvent → f.Value
  | .name, p => p.name
  | .description, p => p.description
  | .condition, p => p.condition
  | .startDate, p => p.startDate
  | .endDate, p => p.endDate
  | .status, p => p.status.getD .active

namespace Moment

variable (supply : Supply) (m : Moment) (id : String)

/-- The time at the moment. -/
def time : Instant := supply.time m.world.timesRead

/-- Does a command of this name succeed at the moment, with this for its payload? -/
def Succeeds {α : Type} (name : String) (payload : Payload α) (a : α) : Prop :=
  ∃ j answer, m.turn = .errand (.command name j) ∧ payload.read j = .ok a ∧
    (m.world.served supply name j).1 = .ok answer

/-- Is an event of this payload created under the id? -/
def Creates (p : CreateEvent) : Prop :=
  m.Succeeds supply "create_event" CreateEvent.payload p ∧ supply.id m.world.idsGiven = id

/-- Is the event under the id changed by this payload? -/
def Changes (p : UpdateEvent) : Prop :=
  m.Succeeds supply "update_event" UpdateEvent.payload p ∧ p.id = id

/-- Is the event under the id created or changed? -/
def Writes : Prop := (∃ p, m.Creates supply id p) ∨ ∃ p, m.Changes supply id p

/-- Is the field of the event under the id given the value? -/
def Gives (f : EventField) (v : f.Value) : Prop :=
  (∃ p, m.Creates supply id p ∧ f.initial p = v) ∨ ∃ p, m.Changes supply id p ∧ f.given p = some v

end Moment

namespace Moment

variable {supply : Supply} {m : Moment} {name : String} {α β : Type}

theorem Succeeds.unique {payload : Payload α} {a b : α} (h : m.Succeeds supply name payload a)
    (h' : m.Succeeds supply name payload b) : a = b := by
  obtain ⟨j, -, hturn, hread, -⟩ := h
  obtain ⟨j', -, hturn', hread', -⟩ := h'
  rw [hturn] at hturn'
  obtain rfl : j = j' := by simpa using hturn'
  exact Except.ok.inj (hread.symm.trans hread')

/-- There is one command at a moment. -/
theorem Succeeds.name_eq {payload : Payload α} {a : α} {name' : String} {payload' : Payload β} {b : β}
    (h : m.Succeeds supply name payload a) (h' : m.Succeeds supply name' payload' b) :
    name = name' := by
  obtain ⟨_, -, hturn, -, -⟩ := h
  obtain ⟨_, -, hturn', -, -⟩ := h'
  rw [hturn] at hturn'
  exact (by simpa using hturn' : name = name' ∧ _).1

variable {id id' : String} {p : CreateEvent} {q : UpdateEvent}

/-- Nothing is created and changed at the same moment. -/
theorem Creates.not_changes (h : m.Creates supply id p) : ¬ m.Changes supply id' q :=
  fun h' => absurd (h.1.name_eq h'.1) (by decide)

/-- One event is written at a moment. -/
theorem Creates.eq_of_writes (h : m.Creates supply id p) (h' : m.Writes supply id') : id' = id := by
  rcases h' with ⟨_, -, hid'⟩ | ⟨_, hchanges⟩
  · exact hid'.symm.trans h.2
  · exact absurd hchanges h.not_changes

theorem Changes.eq_of_writes (h : m.Changes supply id q) (h' : m.Writes supply id') : id' = id := by
  rcases h' with ⟨_, hcreates⟩ | ⟨q', hchanges, hid'⟩
  · exact absurd h hcreates.not_changes
  · rw [← hid', hchanges.unique h.1, h.2]

theorem Gives.writes {f : EventField} {v : f.Value} (h : m.Gives supply id f v) :
    m.Writes supply id :=
  h.imp (fun ⟨p, hp, _⟩ => ⟨p, hp⟩) fun ⟨p, hp, _⟩ => ⟨p, hp⟩

end Moment

/-! ## Single commands

What `create_event` and `update_event` do on their own, followed call by call through their
programs: the contract `watching` has the whole world for its state. `Updated` lists the three
things that can come of a change, with the store that each of them leaves. -/

namespace Events

/-- What can come of a change, and what is stored then. -/
inductive Updated (s : Store) (p : UpdateEvent) (time : Instant) :
    Except DeskError Event → Store → Prop
  | missing : s.events.get? p.id = none → Updated s p time (.error (.eventNotFound p.id)) s
  | refused (e : Event) : s.events.get? p.id = some e →
      (merge p e).endDate < (merge p e).startDate →
      Updated s p time
        (.error (.validation (.period (merge p e).startDate (merge p e).endDate))) s
  | changed (e : Event) : s.events.get? p.id = some e →
      (merge p e).startDate ≤ (merge p e).endDate →
      Updated s p time (.ok (changed p e time))
        { s with events := s.events.set p.id (changed p e time) }

end Events

namespace watching

variable {supply : Supply} {w : World Store}

theorem obeys_createEvent (p : CreateEvent) :
    (Events.create p).run.Obeys (watching supply) ⟨w, []⟩ fun outcome g => ∀ e, outcome = .ok e →
      g.world.storage.events = w.storage.events.set (supply.id w.idsGiven)
        (Events.ofPayload p (supply.id w.idsGiven) (supply.time w.timesRead)) := by
  simp only [Events.create, Desk.obeys_within, Desk.obeys_bind, Desk.obeys_liftM]
  cases Events.checkPeriod p.startDate p.endDate with
  | error error => rintro _ ⟨⟩
  | ok _ =>
    simp only [obeys_clock, obeys_freshId, obeys_perform, Desk.obeys_note]
    exact fun _ _ => rfl

theorem obeys_updateEvent (hfiled : w.storage.events.Filed) (p : UpdateEvent) :
    (Events.update p).run.Obeys (watching supply) ⟨w, []⟩ fun outcome g =>
      Events.Updated w.storage p (supply.time w.timesRead) outcome g.world.storage := by
  simp only [Events.update, Desk.obeys_within, Desk.obeys_bind, Desk.obeys_liftM, obeys_getEvent]
  cases hfound : w.storage.events.get? p.id with
  | none => exact .missing hfound
  | some e =>
    by_cases hperiod : (Events.merge p e).endDate < (Events.merge p e).startDate
    · simp only [Option.elim, Events.checkPeriod, hperiod, if_true]
      exact .refused e hfound hperiod
    · have hid : e.id = p.id := hfiled p.id e hfound
      have hreplace : w.storage.events.replace (Events.merge p e).id
          { Events.merge p e with updatedAt := supply.time w.timesRead } =
          (true, w.storage.events.set p.id (Events.changed p e (supply.time w.timesRead))) := by
        have hkey : (Events.merge p e).id = p.id := hid
        rw [Table.replace, Table.contains, hkey, hfound]
        rfl
      simp only at hreplace
      simp only [Option.elim, Events.checkPeriod, hperiod, if_false, obeys_clock, obeys_perform,
        Watch.after, World.answer, Storage.memory, Store.execute, hreplace, Bool.not_true,
        Bool.false_eq_true]
      simp only [Desk.obeys_bind, Desk.obeys_note]
      exact .changed e hfound (Instant.not_lt.1 hperiod)

end watching

/-- What is seen of the work of a handler comes of its command. -/
theorem World.served_of_watched {α β : Type} {name : String} {payload : Payload α}
    {work : α → Desk β} {write : β → Json} (supply : Supply) (w : World Store) (j : Json)
    (post : Except DeskError Json → Store → Prop)
    (hget : Router.standard.get? name = some (.of name payload work write))
    (hrefused : ∀ cause, payload.read j = .error cause →
      post (.error (.validation cause)) w.storage)
    (hwork : ∀ a, payload.read j = .ok a → (work a).run.Obeys (watching supply) ⟨w, []⟩
      fun outcome g => post (outcome.map write) g.world.storage) :
    post (w.served supply name j).1 (w.served supply name j).2.storage := by
  have hobeys : (Router.standard.dispatch name j).Obeys (watching supply) ⟨w, []⟩
      fun outcome g => post outcome g.world.storage := by
    rw [Router.obeys_dispatch_known hget, Handler.obeys_iff]
    -- To count how a command ended leaves the records alone.
    cases hread : payload.read j with
    | error cause => exact (watching.obeys_ask _).2 (hrefused cause hread)
    | ok a => exact (hwork a hread).mono fun _ _ hpost => (watching.obeys_ask _).2 hpost
  obtain ⟨g, hpost, halike, -⟩ := watching.run hobeys
  rw [served]
  rwa [halike.storage] at hpost

/-- A command that succeeds has accepted its payload. -/
theorem World.read_of_served {α β : Type} {supply : Supply} {w : World Store} {name : String}
    {payload : Payload α} {work : α → Desk β} {write : β → Json} {j answer : Json}
    (hget : Router.standard.get? name = some (.of name payload work write))
    (h : (w.served supply name j).1 = .ok answer) : ∃ a, payload.read j = .ok a := by
  cases hread : payload.read j with
  | ok a => exact ⟨a, rfl⟩
  | error cause =>
    have hrefused : (w.served supply name j).1 = .error (.validation cause) := by
      refine served_of_watched supply w j (fun outcome _ => outcome = .error (.validation cause))
        hget (fun cause' hread' => ?_) fun a hread' => ?_
      · rw [Except.error.inj (hread.symm.trans hread')]
      · exact absurd (hread.symm.trans hread') nofun
    exact absurd (hrefused.symm.trans h) nofun

namespace Events

variable {supply : Supply} {w : World Store} {j : Json}

theorem get?_create : Router.standard.get? "create_event" =
    some (.of "create_event" CreateEvent.payload Events.create Event.codec.encode) := by rfl

theorem served_create {answer : Json} (h : (w.served supply "create_event" j).1 = .ok answer) :
    ∃ p, CreateEvent.payload.read j = .ok p ∧
      (w.served supply "create_event" j).2.storage.events =
        w.storage.events.set (supply.id w.idsGiven)
          (ofPayload p (supply.id w.idsGiven) (supply.time w.timesRead)) := by
  refine World.served_of_watched supply w j (fun outcome s => outcome = .ok answer →
      ∃ p, CreateEvent.payload.read j = .ok p ∧ s.events = w.storage.events.set
        (supply.id w.idsGiven) (ofPayload p (supply.id w.idsGiven) (supply.time w.timesRead)))
    get?_create (fun _ _ => nofun) (fun p hread => ?_) h
  refine (watching.obeys_createEvent p).mono fun outcome g hcreated houtcome => ?_
  obtain ⟨e, rfl, -⟩ := map_eq_ok.1 houtcome
  exact ⟨p, hread, hcreated e rfl⟩

theorem served_update (supply : Supply) (hfiled : w.storage.events.Filed) {p : UpdateEvent}
    (hread : UpdateEvent.payload.read j = .ok p) :
    ∃ outcome, (w.served supply "update_event" j).1 = outcome.map Event.codec.encode ∧
      Updated w.storage p (supply.time w.timesRead) outcome
        (w.served supply "update_event" j).2.storage := by
  refine World.served_of_watched supply w j (fun outcome s => ∃ outcome', outcome =
    outcome'.map Event.codec.encode ∧ Updated w.storage p (supply.time w.timesRead) outcome' s)
    get?_update (fun _ hrefused => ?_) fun p' hread' => ?_
  · exact absurd (hread.symm.trans hrefused) nofun
  · obtain rfl := Except.ok.inj (hread.symm.trans hread')
    exact (watching.obeys_updateEvent hfiled p).mono fun outcome g hupdated =>
      ⟨outcome, rfl, hupdated⟩

end Events

/-! ## What turns do to the events

Most errands have nothing to do with events. That they leave all of them alone need not be shown
command by command: whoever touches an event has created or replaced one, and that is a deed on the
errand's docket (`KeepsEvents`). So a turn leaves the events as its moment says
(`Moment.Leaves`). -/

/-- While an errand has neither created nor replaced an event, the events are as they were. -/
def KeepsEvents (before : Table String Event) (w : World Store) (g : Docket) : Prop :=
  (∀ e, g.deed ≠ some (.eventCreated e)) → (∀ e, g.deed ≠ some (.eventReplaced e)) →
    w.storage.events = before

namespace KeepsEvents

variable {supply : Supply} {before : Table String Event} {w : World Store} {g : Docket}

/-- A statement that does nothing to an event leaves the events alone. -/
theorem events_execute {s : Store} {q : Statement}
    (hcreated : ∀ e, q.deed (s.execute q).1 ≠ some (.eventCreated e))
    (hreplaced : ∀ e, q.deed (s.execute q).1 ≠ some (.eventReplaced e)) :
    (s.execute q).2.events = s.events := by
  cases q with
  | createEvent e => exact absurd rfl (hcreated e)
  | updateEvent e =>
    rcases s.updateEvent_cases e with ⟨-, hnone⟩ | ⟨_, -, hdone⟩
    · rw [hnone]
    · rw [hdone] at hreplaced
      exact absurd rfl (hreplaced e)
  | _ => rfl

theorem statement {q : Statement} (h : KeepsEvents before w g) (hallows : g.allows (.statement q)) :
    KeepsEvents before { w with storage := (w.storage.execute q).2 }
      (g.after (.statement q) (.ok (w.storage.execute q).1)) := by
  intro hcreated hreplaced
  rw [Docket.deed_after_statement] at hcreated hreplaced
  cases hdeed : q.deed (w.storage.execute q).1 with
  | none =>
    rw [hdeed, Option.none_or] at hcreated hreplaced
    rw [Store.execute_of_deed_eq_none hdeed]
    exact h hcreated hreplaced
  -- It is the first deed, so the events are still those from before.
  | some d =>
    rw [hdeed, Option.some_or] at hcreated hreplaced
    have hnone := Effected.deed_eq_none_of_allows hallows hdeed
    have hbefore : w.storage.events = before :=
      h (fun _ => hnone ▸ nofun) fun _ => hnone ▸ nofun
    exact (events_execute (hdeed ▸ hcreated) (hdeed ▸ hreplaced)).trans hbefore

theorem call {c : Call} (h : KeepsEvents before w g) (hallows : g.allows c) :
    KeepsEvents before (World.answer .memory supply c w).2
      (g.after c (World.answer .memory supply c w).1) := by
  cases c with
  | statement q => exact h.statement hallows
  | _ => exact h

theorem errand (supply : Supply) (w : World Store) (e : Errand) :
    ∃ g, KeepsEvents w.storage.events (World.run .memory supply e.program w).2 g ∧
      Docket.Ends e.Did (World.run .memory supply e.program w).1 g :=
  Contract.determined.keeps_alone (KeepsEvents w.storage.events) (fun h hallows => h.call hallows)
    (fun _ _ => rfl) e.obeys_duty

end KeepsEvents

/-- What a moment leaves of the events. -/
inductive Moment.Leaves (supply : Supply) (m : Moment) : Table String Event → Prop
  | created (id : String) (p : CreateEvent) : m.Creates supply id p →
      Leaves supply m (m.world.storage.events.set id (Events.ofPayload p id (m.time supply)))
  | changed (p : UpdateEvent) (e : Event) : m.Changes supply p.id p →
      m.world.storage.events.get? p.id = some e →
      Leaves supply m (m.world.storage.events.set p.id (Events.changed p e (m.time supply)))
  | untouched : (∀ id, ¬ m.Writes supply id) → Leaves supply m m.world.storage.events

namespace Turn

variable {supply : Supply} {w : World Store}

/-- Whose turn neither creates nor replaces an event writes none. -/
theorem not_writes {t : Turn} {id : String}
    (h : ∀ name j answer, t = .errand (.command name j) →
      (w.served supply name j).1 = .ok answer → name ≠ "create_event" ∧ name ≠ "update_event") :
    ¬ (⟨w, t⟩ : Moment).Writes supply id := by
  rintro (⟨_, ⟨j, answer, hturn, -, hok⟩, -⟩ | ⟨_, ⟨j, answer, hturn, -, hok⟩, -⟩)
  · exact (h _ j answer hturn hok).1 rfl
  · exact (h _ j answer hturn hok).2 rfl

/-- A command that ended well leaves what its name says. -/
theorem leaves_command (hfiled : w.storage.events.Filed) {name : String} {j answer : Json}
    {g : Docket} (hserved : (w.served supply name j).1 = .ok answer)
    (hkeeps : KeepsEvents w.storage.events (w.served supply name j).2 g)
    (hdid : Command.Did j name answer g.deed g.told) :
    Moment.Leaves supply ⟨w, .errand (.command name j)⟩
      (w.served supply name j).2.storage.events := by
  have huntouched : name ≠ "create_event" → name ≠ "update_event" →
      (w.served supply name j).2.storage.events = w.storage.events →
      Moment.Leaves supply ⟨w, .errand (.command name j)⟩
        (w.served supply name j).2.storage.events := by
    intro hcreate hupdate hkept
    rw [hkept]
    refine .untouched fun id => not_writes ?_
    rintro _ _ _ ⟨⟩ -
    exact ⟨hcreate, hupdate⟩
  rw [KeepsEvents] at hkeeps
  generalize g.deed = deed, g.told = told at hdid hkeeps
  cases hdid with
  | createEvent e =>
    obtain ⟨p, hread, hevents⟩ := Events.served_create hserved
    rw [hevents]
    exact .created _ p ⟨⟨j, _, rfl, hread, hserved⟩, rfl⟩
  | updateEvent _ =>
    obtain ⟨p, hread⟩ := World.read_of_served Events.get?_update hserved
    obtain ⟨outcome, hanswer, hupdated⟩ := Events.served_update supply hfiled hread
    have hchanges : (⟨w, .errand (.command "update_event" j)⟩ : Moment).Changes supply p.id p :=
      ⟨⟨j, _, rfl, hread, hserved⟩, rfl⟩
    rw [hserved] at hanswer
    generalize (w.served supply "update_event" j).2.storage = s at hupdated
    cases hupdated with
    | missing _ => exact absurd hanswer nofun
    | refused _ _ _ => exact absurd hanswer nofun
    | changed e he _ => exact .changed p e hchanges he
  | read _ hreads =>
    refine huntouched ?_ ?_ (hkeeps (fun _ => nofun) fun _ => nofun)
    · rintro rfl
      exact absurd hreads (by decide)
    · rintro rfl
      exact absurd hreads (by decide)
  | _ => exact huntouched (by decide) (by decide) (hkeeps (fun _ => nofun) fun _ => nofun)

theorem leaves_errand (hfiled : w.storage.events.Filed) (e : Errand) :
    Moment.Leaves supply ⟨w, .errand e⟩ (World.run .memory supply e.program w).2.storage.events := by
  obtain ⟨g, hkeeps, hends⟩ := KeepsEvents.errand supply w e
  cases houtcome : (World.run .memory supply e.program w).1 with
  | error error =>
    rw [houtcome] at hends
    have hnone : g.deed = none := hends.1
    rw [hkeeps (fun e => hnone ▸ nofun) fun e => hnone ▸ nofun]
    refine .untouched fun id => not_writes ?_
    rintro name j answer ⟨⟩ hok
    exact absurd (houtcome.symm.trans hok) nofun
  | ok answer =>
    rw [houtcome] at hends
    cases e with
    | review id status =>
      obtain ⟨r, -, hdeed, -⟩ : (Errand.review id status).Did answer g.deed g.told := hends
      rw [hkeeps (fun e => hdeed ▸ nofun) fun e => hdeed ▸ nofun]
      exact .untouched fun id => not_writes fun _ _ _ hturn => absurd hturn nofun
    | command name j =>
      rw [show World.run .memory supply (Errand.command name j).program w =
        w.served supply name j from rfl] at hkeeps houtcome ⊢
      exact leaves_command hfiled houtcome hkeeps hends

theorem leaves (supply : Supply) (hfiled : w.storage.events.Filed) (t : Turn) :
    Moment.Leaves supply ⟨w, t⟩ (t.take supply w).2.storage.events := by
  cases t with
  | errand e => exact leaves_errand hfiled e
  | _ => exact .untouched fun _ => not_writes fun _ _ _ hturn => absurd hturn nofun

end Turn

/-! ## All that was said

`Told` says of an event that each of its fields was given its value since the last moment that gave
that field a value at all, and likewise of its times. Such statements about the last moment go
through a play by themselves (`History.since_concat`): either the new moment gives a value, or it
does not and the old one still counts. -/

/-- Is this what was said of the event under the id? -/
structure Told (supply : Supply) (moments : List Moment) (id : String) (e : Event) : Prop where
  id_eq : e.id = id
  created : History.Since (fun _ m => (∃ p, m.Creates supply id p) ∧ e.createdAt = m.time supply)
    (fun m => ∃ p, m.Creates supply id p) moments
  updated : History.Since (fun _ m => m.Writes supply id ∧ e.updatedAt = m.time supply)
    (fun m => m.Writes supply id) moments
  fields : ∀ f : EventField, History.Since (fun _ m => m.Gives supply id f (f.value e))
    (fun m => ∃ v, m.Gives supply id f v) moments

/-- The events are what was said of them. -/
structure Chronicled (supply : Supply) (moments : List Moment) (events : Table String Event) :
    Prop where
  created : ∀ id, (∃ e, events.get? id = some e) ↔
    History.Happened (fun _ m => ∃ p, m.Creates supply id p) moments
  told : ∀ id e, events.get? id = some e → Told supply moments id e

namespace Told

variable {supply : Supply} {moments : List Moment} {m : Moment} {id : String} {e : Event}

/-- What is not written stays what it is. -/
theorem untouched (h : Told supply moments id e) (hnot : ¬ m.Writes supply id) :
    Told supply (moments ++ [m]) id e where
  id_eq := h.id_eq
  created := History.since_concat.2 (.inr ⟨h.created, fun hcreates => hnot (.inl hcreates)⟩)
  updated := History.since_concat.2 (.inr ⟨h.updated, hnot⟩)
  fields f := History.since_concat.2 (.inr ⟨h.fields f, fun ⟨_, hgives⟩ => hnot hgives.writes⟩)

theorem ofPayload {p : CreateEvent} (h : m.Creates supply id p) :
    Told supply (moments ++ [m]) id (Events.ofPayload p id (m.time supply)) where
  id_eq := rfl
  created := History.since_concat.2 (.inl ⟨⟨p, h⟩, rfl⟩)
  updated := History.since_concat.2 (.inl ⟨.inl ⟨p, h⟩, rfl⟩)
  fields f := by
    refine History.since_concat.2 (.inl (.inl ⟨p, h, ?_⟩))
    cases f <;> rfl

theorem changed {p : UpdateEvent} (h : Told supply moments id e) (hchanges : m.Changes supply id p) :
    Told supply (moments ++ [m]) id (Events.changed p e (m.time supply)) where
  id_eq := h.id_eq
  created := History.since_concat.2
    (.inr ⟨h.created, fun ⟨_, hcreates⟩ => hcreates.not_changes hchanges⟩)
  updated := History.since_concat.2 (.inl ⟨.inr ⟨p, hchanges⟩, rfl⟩)
  fields f := by
    rw [History.since_concat, Events.value_changed]
    cases hgiven : f.given p with
    | some v => exact .inl (.inr ⟨p, hchanges, hgiven⟩)
    | none =>
      refine .inr ⟨h.fields f, ?_⟩
      rintro ⟨v, ⟨_, hcreates, -⟩ | ⟨q, hchanges', hv⟩⟩
      · exact hcreates.not_changes hchanges
      · obtain rfl := hchanges.1.unique hchanges'.1
        exact absurd (hgiven.symm.trans hv) nofun

end Told

namespace Chronicled

variable {supply : Supply} {moments : List Moment} {m : Moment} {events : Table String Event}

theorem empty (supply : Supply) : Chronicled supply [] .empty where
  created _ := iff_of_false (fun ⟨_, he⟩ => absurd he nofun) History.not_happened_nil
  told _ _ he := absurd he nofun

theorem filed (h : Chronicled supply moments events) : events.Filed :=
  fun id e he => (h.told id e he).id_eq

/-- One event is written, and the others stay what they are. -/
theorem told_set {id : String} {e : Event} (h : Chronicled supply moments events)
    (htold : Told supply (moments ++ [m]) id e) (hother : ∀ id', m.Writes supply id' → id' = id) :
    ∀ id' e', (events.set id e).get? id' = some e' → Told supply (moments ++ [m]) id' e' := by
  intro id' e' he'
  rw [Table.get?_set] at he'
  by_cases hid : id' = id
  · rw [if_pos hid] at he'
    rwa [hid, ← Option.some.inj he']
  · rw [if_neg hid] at he'
    exact (h.told id' e' he').untouched fun hwrites => hid (hother id' hwrites)

/-- Every moment keeps the chronicle. -/
theorem leaves (h : Chronicled supply moments m.world.storage.events)
    (hleaves : m.Leaves supply events) : Chronicled supply (moments ++ [m]) events := by
  cases hleaves with
  | created id p hcreates =>
    refine ⟨fun id' => ?_, h.told_set (.ofPayload hcreates) fun _ => hcreates.eq_of_writes⟩
    rw [History.happened_concat, ← h.created, Table.get?_set]
    by_cases hid : id' = id
    · rw [if_pos hid, hid]
      exact iff_of_true ⟨_, rfl⟩ (.inr ⟨p, hcreates⟩)
    · rw [if_neg hid]
      exact (or_iff_left fun ⟨q, hq⟩ => hid (hcreates.eq_of_writes (.inl ⟨q, hq⟩))).symm
  | changed p e hchanges he =>
    refine ⟨fun id => ?_, h.told_set ((h.told p.id e he).changed hchanges)
      fun _ => hchanges.eq_of_writes⟩
    have hnot : ¬ ∃ q, m.Creates supply id q := fun ⟨_, hcreates⟩ => hcreates.not_changes hchanges
    rw [History.happened_concat, or_iff_left hnot, ← h.created, Table.get?_set]
    by_cases hid : id = p.id
    · rw [if_pos hid, hid]
      exact iff_of_true ⟨_, rfl⟩ ⟨e, he⟩
    · rw [if_neg hid]
  | untouched hnot =>
    refine ⟨fun id => ?_, fun id e he => (h.told id e he).untouched (hnot id)⟩
    rw [History.happened_concat, h.created]
    exact (or_iff_left fun hcreates => hnot id (.inl hcreates)).symm

/-- The events after a play at a service without records. -/
theorem play (supply : Supply) (channel : Channel StatusChange) (turns : List Turn) :
    Chronicled supply (Turn.moments supply turns { storage := .empty, channel })
      (Turn.play supply turns { storage := .empty, channel }).2.storage.events := by
  have hstart : Chronicled supply [] ({ storage := .empty, channel } : World Store).storage.events :=
    empty supply
  exact Turn.moments_hold (fun before w => Chronicled supply before w.storage.events)
    (fun _ _ t h => h.leaves (Turn.leaves supply h.filed t)) turns hstart

end Chronicled

namespace Events

/-- Whatever turns are taken at a service without records, one after the other, the events are what
was said of them, and of a change that comes next this is true: it succeeds if and only if the event
is there and does not end before it starts with the dates that the change gives, and those that the
event has otherwise; and if it fails, all records stay as they are.

An event is there if and only if it was created. Its id and the time of its creation are those of
the command that created it, the time of its last change is that of the last command that wrote it,
and each of its fields has the value that was given last: by the change that gave one, or by the
command that created the event. -/
theorem changes_compose (supply : Supply) (channel : Channel StatusChange) (turns : List Turn) :
    let start : World Store := { storage := .empty, channel }
    let moments := Turn.moments supply turns start
    let w := (Turn.play supply turns start).2
    (∀ id, (∃ e, w.storage.events.get? id = some e) ↔
      History.Happened (fun _ m => ∃ p, m.Creates supply id p) moments) ∧
    (∀ id e, w.storage.events.get? id = some e → e.id = id ∧
      History.Since (fun _ m => (∃ p, m.Creates supply id p) ∧ e.createdAt = m.time supply)
        (fun m => ∃ p, m.Creates supply id p) moments ∧
      History.Since (fun _ m => m.Writes supply id ∧ e.updatedAt = m.time supply)
        (fun m => m.Writes supply id) moments ∧
      ∀ f : EventField, History.Since (fun _ m => m.Gives supply id f (f.value e))
        (fun m => ∃ v, m.Gives supply id f v) moments) ∧
    ∀ j p, UpdateEvent.payload.read j = .ok p →
      let served := w.served supply "update_event" j
      ((∃ answer, served.1 = .ok answer) ↔ ∃ e, w.storage.events.get? p.id = some e ∧
        p.startDate.getD e.startDate ≤ p.endDate.getD e.endDate) ∧
      ∀ error, served.1 = .error error → served.2.storage = w.storage := by
  intro start moments w
  have hchronicled : Chronicled supply moments w.storage.events := .play supply channel turns
  refine ⟨hchronicled.created, fun id e he => ?_, fun j p hread => ?_⟩
  · have htold := hchronicled.told id e he
    exact ⟨htold.id_eq, htold.created, htold.updated, htold.fields⟩
  · intro served
    obtain ⟨outcome, hanswer, hupdated⟩ :=
      served_update supply hchronicled.filed hread
    rw [show (w.served supply "update_event" j).1 = served.1 from rfl] at hanswer
    rw [hanswer]
    generalize served.2.storage = s at hupdated ⊢
    cases hupdated with
    | missing hmissing =>
      refine ⟨iff_of_false nofun ?_, fun _ _ => rfl⟩
      rintro ⟨e, he, -⟩
      exact absurd (hmissing.symm.trans he) nofun
    | refused e he hperiod =>
      refine ⟨iff_of_false nofun ?_, fun _ _ => rfl⟩
      rintro ⟨e', he', hperiod'⟩
      obtain rfl := Option.some.inj (he.symm.trans he')
      exact Instant.not_lt.2 hperiod' hperiod
    | changed e he hperiod =>
      exact ⟨iff_of_true ⟨_, rfl⟩ ⟨e, he, hperiod⟩, fun _ herror => absurd herror nofun⟩

/-- To change the name of an event, and to let it end before it starts. -/
def spoiled : Json := .object [("id", .string "x"), ("name", .string "F"),
  ("endDate", .string "2023-01-01T00:00:00Z")]

/-- A change that would spoil the dates fails with all that it gives, and one of the status succeeds
after that. -/
theorem changes_compose_of_spoiled :
    let turns : List Turn :=
      [.errand (Errand.opening "E"), .errand (.command "update_event" spoiled)]
    let w := (Turn.play .growing turns { storage := .empty, channel := .ofCapacity 1 }).2
    (∃ e, w.storage.events.get? "x" = some e ∧ EventField.name.value e = "E") ∧
      (∃ p, UpdateEvent.payload.read spoiled = .ok p ∧ EventField.name.given p = some "F" ∧
        ¬ ∃ answer, (w.served .growing "update_event" spoiled).1 = .ok answer) ∧
      UpdateEvent.payload.read (wishes true) = .ok (wished true) ∧
      ∃ answer, (w.served .growing "update_event" (wishes true)).1 = .ok answer := by
  intro turns w
  obtain ⟨e, he, hname, hperiod⟩ : ∃ e, w.storage.events.get? "x" = some e ∧
      EventField.name.value e = "E" ∧ e.startDate ≤ e.endDate := ⟨_, rfl, rfl, by decide⟩
  obtain ⟨p, hread, hid, hgiven, hends⟩ : ∃ p, UpdateEvent.payload.read spoiled = .ok p ∧
      p.id = "x" ∧ EventField.name.given p = some "F" ∧
      ∀ e, w.storage.events.get? "x" = some e → ¬ p.startDate.getD e.startDate ≤
        p.endDate.getD e.endDate := by
    refine ⟨_, rfl, rfl, rfl, ?_⟩
    rintro _ ⟨⟩
    decide
  obtain ⟨-, -, hchange⟩ := changes_compose .growing (.ofCapacity 1) turns
  refine ⟨⟨e, he, hname⟩, ⟨p, hread, hgiven, ?_⟩, read_wishes true, ?_⟩
  · rw [(hchange spoiled p hread).1, hid]
    rintro ⟨e', he', hperiod'⟩
    exact hends e' he' hperiod'
  · exact (hchange (wishes true) (wished true) (read_wishes true)).1.2 ⟨e, he, hperiod⟩

end Events
end RewardDesk
