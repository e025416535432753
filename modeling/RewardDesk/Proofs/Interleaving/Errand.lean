import RewardDesk.Command.Standard
import RewardDesk.Proofs.Interleaving.Contract
import RewardDesk.Proofs.Store.Filed
import RewardDesk.Session.World

/-!
# Errands

What people come to the service for: a command of the router by name, or a review given by its
status. `Errand.runAll` starts with a service in memory that holds no records and lets any number of
errands make their calls in the order of a schedule.

A command obeys a contract if every handler does (`Router.obeys_dispatch`), and a handler does if
its work does (`Handler.obeys_of`).
-/

namespace RewardDesk

/-! ## Errands -/

/-- Every call leaves records under their ids. -/
theorem World.filed_answer {supply : Supply} (c : Call) (w : World Store) (h : w.storage.Filed) :
    (World.answer .memory supply c w).2.storage.Filed := by
  cases c with
  | statement q => exact h.execute q
  | _ => exact h

/-- What somebody asks of the service. -/
inductive Errand where
  | command (name : String) (payload : Json)
  | review (id : String) (status : RequestStatus)

namespace Errand

/-- The calls of an errand, and what comes of them. -/
def program : Errand → Program (Except DeskError Json)
  | .command name payload => Router.standard.dispatch name payload
  | .review id status => (Request.codec.encode <$> Requests.review id status).run

variable {ι : Type} [DecidableEq ι]

/-- Errands at a service without records, before their first calls. -/
def begun (channel : Channel StatusChange) (errands : ι → Errand) :
    Crew ι (World Store) (Except DeskError Json) where
  state := { storage := .empty, channel }
  left i := (errands i).program

/-- Errands that make their calls in the order of a schedule. -/
def runAll (supply : Supply) (channel : Channel StatusChange) (errands : ι → Errand)
    (schedule : List ι) : Crew ι (World Store) (Except DeskError Json) :=
  (begun channel errands).run (fun _ => World.answer .memory supply) schedule

theorem filed_runAll (supply : Supply) (channel : Channel StatusChange) (errands : ι → Errand)
    (schedule : List ι) : (runAll supply channel errands schedule).state.storage.Filed :=
  Crew.run_state (fun _ => World.filed_answer) schedule Store.filed_empty

/-- To create an event of that name. -/
def opening (name : String) : Errand := .command "create_event" (.object [("name", .string name),
  ("startDate", .string "2024-01-01T00:00:00Z"), ("endDate", .string "2024-02-01T00:00:00Z")])

/-- To apply to an event. -/
def application (userId eventId : String) : Errand := .command "create_reward_request"
  (.object [("userId", .string userId), ("eventId", .string eventId)])

/-- Three errands that belong together: to create an event, to apply to it, and to review the
application. The event and the request are expected under the ids `x` and `xx`. -/
def round : Fin 3 → Errand
  | 0 => .command "create_event" (.object [("name", .string "E"),
      ("startDate", .string "2024-01-01T00:00:00Z"), ("endDate", .string "2024-02-01T00:00:00Z")])
  | 1 => .command "create_reward_request"
      (.object [("userId", .string "u"), ("eventId", .string "x")])
  | 2 => .review "xx" .approved

end Errand

/-! ## Handlers

All commands are dispatched in the same way, so what dispatching adds to the work of a command is
shown once for all of them: a payload that may be refused, an outcome that is counted, and notes in
the log. -/

/-- The router finds nothing but what was entered, and finds it by its name. -/
theorem Router.get?_foldl_add {name : String} {h : Handler} {r : Router} (handlers : List Handler)
    (hget : (handlers.foldl add r).get? name = some h) :
    (h ∈ handlers ∧ h.name = name) ∨ r.get? name = some h := by
  induction handlers generalizing r with
  | nil => exact .inr hget
  | cons head rest ih =>
    rcases ih hget with ⟨hmem, hname⟩ | hget
    · exact .inl ⟨List.mem_cons_of_mem head hmem, hname⟩
    · have hset : (r.handlers.set head.name head).get? name = some h := hget
      rw [Table.get?_set] at hset
      split at hset
      · obtain rfl := Option.some.inj hset
        exact .inl ⟨List.mem_cons_self, Eq.symm ‹_›⟩
      · exact .inr hset

/-- Every handler of the standard router is one of the commands. -/
theorem Router.mem_of_standard_get? {name : String} {h : Handler}
    (hget : standard.get? name = some h) : h ∈ Command.all ∧ h.name = name := by
  rcases get?_foldl_add Command.all hget with hfound | hnone
  · exact hfound
  · exact absurd hnone (by simp [Router.get?, empty])

section
variable {G α β : Type} {K : Contract G} {g : G} {post : Except DeskError Json → G → Prop}

/-- A handler refuses the payload, or does its work and writes the result. -/
theorem Handler.obeys_iff {name : String} {payload : Payload α} {work : α → Desk β}
    {write : β → Json} {j : Json} :
    ((Handler.of name payload work write).handle j).run.Obeys K g post ↔
      match payload.read j with
      | .error cause => post (.error (.validation cause)) g
      | .ok a => (work a).run.Obeys K g fun outcome g' => post (outcome.map write) g' := by
  simp only [Handler.of]
  cases payload.read j with
  | error cause => exact Iff.rfl
  | ok a =>
    refine (Program.obeys_bind _ _).trans (iff_of_eq (congrArg (Program.Obeys K _ g) ?_))
    funext outcome g'
    cases outcome with
    | ok b => rfl
    | error e => rfl

/-- A handler obeys if it may refuse and its work obeys. -/
theorem Handler.obeys_of {name : String} {payload : Payload α} {work : α → Desk β}
    {write : β → Json} {j : Json} (hrefused : ∀ cause, post (.error (.validation cause)) g)
    (hwork : ∀ a, payload.read j = .ok a →
      (work a).run.Obeys K g fun outcome g' => post (outcome.map write) g') :
    ((Handler.of name payload work write).handle j).run.Obeys K g post := by
  rw [obeys_iff]
  cases hread : payload.read j with
  | error cause => exact hrefused cause
  | ok a => exact hwork a hread

/-- If nothing is said of the end, it is enough that the work obeys, given what is known of the
payload. -/
theorem Handler.obeys_anyhow {name : String} {payload : Payload α} {work : α → Desk β}
    {write : β → Json} {j : Json}
    (hwork : ∀ a, payload.read j = .ok a → (work a).run.Obeys K g fun _ _ => True) :
    ((Handler.of name payload work write).handle j).run.Obeys K g fun _ _ => True :=
  obeys_of (fun _ => trivial) hwork

section
variable [K.LogsFreely]

/-- To announce a change is to publish it, whoever hears of it. -/
theorem Requests.obeys_announce (change : StatusChange) {post : Nat → G → Prop} :
    (announce change).Obeys K g post ↔
      Program.Obeys (α := no_index Nat) K (Program.ask (.publish change)) g post := by
  rw [announce, Program.obeys_bind]
  refine iff_of_eq (congrArg (Program.Obeys K (Program.ask (.publish change)) g) ?_)
  funext receivers g'
  by_cases h : receivers = 0
  · simp [h]
  · simp [h]

/-- To conclude a command is to count how it ended. -/
theorem Router.obeys_conclude (name : String) (outcome : Except DeskError α)
    {post : Unit → G → Prop} :
    (conclude name outcome).Obeys K g post ↔ Program.Obeys (α := no_index Unit) K
      (Program.ask (.measure (.command name (statusOf outcome)))) g post := by
  cases outcome with
  | ok a => simp [conclude]
  | error e =>
    rw [conclude, Program.obeys_bind]
    by_cases h : e.isBusiness
    · simp [h]
    · simp [h]

variable {r : Router} {name : String} {payload : Json}

/-- To dispatch a command is to run the handler of that name and to count how it ended. -/
theorem Router.obeys_dispatch_known {h : Handler} (hget : r.get? name = some h) :
    (r.dispatch name payload).Obeys K g post ↔ (h.handle payload).run.Obeys K g fun outcome g' =>
      Program.Obeys (α := no_index Unit) K
        (Program.ask (.measure (.command name (statusOf outcome)))) g' fun _ g'' =>
          post outcome g'' := by
  rw [dispatch, Program.obeys_within, hget]
  simp only [Program.obeys_bind, obeys_conclude]
  exact Iff.rfl

/-- If there is none of that name the command is refused. -/
theorem Router.obeys_dispatch_unknown (hget : r.get? name = none) :
    (r.dispatch name payload).Obeys K g post ↔ post (.error (.unknownCommand name)) g := by
  rw [dispatch, Program.obeys_within, hget]
  simp

end

variable [K.Quiet]

/-- To dispatch a command is to run the handler of that name. -/
theorem Router.obeys_dispatch_of_get? {name : String} {payload : Json} {h : Handler}
    (hget : standard.get? name = some h) :
    (standard.dispatch name payload).Obeys K g post ↔ (h.handle payload).run.Obeys K g post := by
  rw [obeys_dispatch_known hget]
  simp only [Program.obeys_measure]

/-- A command obeys if all handlers do and it may be refused. -/
theorem Router.obeys_dispatch (name : String) (payload : Json)
    (hhandlers : ∀ h ∈ Command.all, h.name = name → (h.handle payload).run.Obeys K g post)
    (hunknown : post (.error (.unknownCommand name)) g) :
    (standard.dispatch name payload).Obeys K g post := by
  cases hget : standard.get? name with
  | none => exact (obeys_dispatch_unknown hget).2 hunknown
  | some h =>
    obtain ⟨hmem, hname⟩ := mem_of_standard_get? hget
    exact (obeys_dispatch_of_get? hget).2 (hhandlers h hmem hname)

end
end RewardDesk
