import RewardDesk.Proofs.Records.InOrder

/-!
# The effects of commands

What comes of a command that nobody interrupts, in whatever state a run has left the service. A
command that fails leaves all records, the index of pending requests and the channel as they were,
and so does every command that only looks things up (`Alone`). One that succeeds makes the one
change that it answers, and no other (`Effected`).

`Router.dispatch_atomic` says both of all commands and payloads.
-/

namespace RewardDesk

/-! ## Working alone

What an errand that works alone has published has gone through the channel, in this order, and its
storage has changed only if it has done something. No order of the records is needed for this: it
holds in every state. -/

/-- The channel after messages were sent, one after the other. -/
def Channel.sendAll {α : Type} (c : Channel α) (messages : List α) : Channel α :=
  messages.foldl (fun c m => (c.send m).2) c

variable {supply : Supply}

/-- What has become of the surroundings of an errand that works alone: what it has told was sent,
and the records are as they were unless it has done something. -/
structure Alone (before w : World Store) (calls : List Call) (g : Docket) : Prop where
  told : calls.filterMap Call.announced = g.told
  channel : w.channel = before.channel.sendAll g.told
  idle : g.deed = none → w.storage = before.storage

namespace Alone

variable {before w : World Store} {calls : List Call} {g : Docket}

theorem start (w : World Store) : Alone w w [] {} := ⟨rfl, rfl, fun _ => rfl⟩

/-- A call that publishes nothing and is no statement. -/
theorem silent {w' : World Store} {c : Call} {g' : Docket} (h : Alone before w calls g)
    (hc : c.announced = none) (hchannel : w'.channel = w.channel)
    (hstorage : w'.storage = w.storage) (htold : g'.told = g.told) (hdeed : g'.deed = g.deed) :
    Alone before w' (calls ++ [c]) g' where
  told := by
    rw [List.filterMap_append, h.told, htold]
    simp [hc]
  channel := by rw [hchannel, h.channel, htold]
  idle hidle := hstorage.trans (h.idle (hdeed ▸ hidle))

theorem statement {q : Statement} (h : Alone before w calls g) :
    Alone before { w with storage := (w.storage.execute q).2 } (calls ++ [.statement q])
      (g.after (.statement q) (.ok (w.storage.execute q).1)) := by
  have htold : (g.after (.statement q) (.ok (w.storage.execute q).1)).told = g.told := by
    cases q <;> rfl
  constructor
  · rw [List.filterMap_append, h.told, htold]
    simp [Call.announced]
  · rw [htold]
    exact h.channel
  · intro hidle
    rw [Docket.deed_after_statement, Option.or_eq_none_iff] at hidle
    exact (Store.execute_of_deed_eq_none hidle.1).trans (h.idle hidle.2)

theorem publish {change : StatusChange} {n : Nat} (h : Alone before w calls g) :
    Alone before { w with channel := (w.channel.send change).2 } (calls ++ [.publish change])
      (g.after (.publish change) n) where
  told := by
    rw [List.filterMap_append, h.told]
    rfl
  channel := by
    show (w.channel.send change).2 = before.channel.sendAll (g.told ++ [change])
    rw [h.channel, Channel.sendAll, Channel.sendAll, List.foldl_append]
    rfl
  idle := h.idle

theorem call {c : Call} (h : Alone before w calls g) :
    Alone before (World.answer .memory supply c w).2 (calls ++ [c])
      (g.after c (World.answer .memory supply c w).1) := by
  cases c with
  | statement q => exact h.statement
  | publish change => exact h.publish
  | freshId => exact h.silent rfl rfl rfl rfl rfl
  | clock => exact h.silent rfl rfl rfl rfl rfl
  | measure m => exact h.silent rfl rfl rfl rfl rfl
  | log entry => exact h.silent rfl rfl rfl rfl rfl

end Alone

/-! ## What was done

That a deed is all that has changed is another matter. The deed has to fit the store that it meets,
and this is known where the records are in order. An errand does one deed at most, so the store that
it met is still the one from before. -/

/-- While the records are in order, what was done is all that has changed. -/
structure Effected (supply : Supply) (before : Store) (w : World Store) (g : Docket) : Prop where
  order : InOrder supply w fun _ : Unit => g
  leads : Deed.Leads g.deed before w.storage

namespace Effected

variable {before : Store} {w : World Store} {g : Docket}

/-- Who has done something is allowed to do nothing more. -/
theorem deed_eq_none_of_allows {q : Statement} {result : q.Result} {d : Deed}
    (hallows : g.allows (.statement q)) (hdeed : q.deed result = some d) : g.deed = none := by
  cases q with
  | addLink _ | removeLink _ _ => exact hallows
  | createEvent _ | updateEvent _ | createReward _ | createPending _ | transition _ _ _ =>
    exact hallows.1
  | _ => exact absurd hdeed nofun

theorem leads_statement {q : Statement} (h : Effected supply before w g)
    (hallows : g.allows (.statement q)) :
    Deed.Leads (g.after (.statement q) (.ok (w.storage.execute q).1)).deed before
      (w.storage.execute q).2 := by
  have hleads := h.order.leads (i := ()) hallows
  rw [Docket.deed_after_statement]
  cases hdeed : q.deed (w.storage.execute q).1 with
  | none =>
    rw [Store.execute_of_deed_eq_none hdeed]
    exact h.leads
  -- It is the first deed, so the store is still the one from before.
  | some d =>
    have hbefore := h.leads
    rw [deed_eq_none_of_allows hallows hdeed] at hbefore
    have hsame : w.storage = before := hbefore
    rw [hdeed, hsame] at hleads
    rw [hsame]
    exact hleads

theorem call (hids : Function.Injective supply.id) {c : Call} (h : Effected supply before w g)
    (hallows : g.allows c) :
    Effected supply before (World.answer .memory supply c w).2
      (g.after c (World.answer .memory supply c w).1) where
  order := by
    have horder := h.order.call hids (i := ()) hallows
    rwa [Contract.determined.account_alone] at horder
  leads := by
    cases c with
    | statement q => exact h.leads_statement hallows
    | _ => exact h.leads

end Effected

/-! ## Errands and commands

A command is an errand, and nobody interrupts it. What is on its docket in the end is found by
running its program against the contract that it obeys. -/

namespace Errand

/-- The docket of an errand that works alone. -/
theorem exists_alone (supply : Supply) (w : World Store) (e : Errand) :
    ∃ g, Alone w (World.run .memory supply e.program w).2
        (e.program.calls (World.answer .memory supply) w) g ∧
      Docket.Ends e.Did (World.run .memory supply e.program w).1 g :=
  Contract.determined.run_alone (Alone w) (fun h _ => h.call) (Alone.start w) e.obeys_duty

/-- The docket of an errand that works alone on records in order. -/
theorem exists_effected (hids : Function.Injective supply.id) {w : World Store}
    (horder : InOrder supply w fun _ : Unit => {}) (e : Errand) :
    ∃ g, (Alone w (World.run .memory supply e.program w).2
        (e.program.calls (World.answer .memory supply) w) g ∧
        Effected supply w.storage (World.run .memory supply e.program w).2 g) ∧
      Docket.Ends e.Did (World.run .memory supply e.program w).1 g :=
  Contract.determined.run_alone
    (fun w' calls g => Alone w w' calls g ∧ Effected supply w.storage w' g)
    (fun h hallows => ⟨h.1.call, h.2.call hids hallows⟩) ⟨Alone.start w, horder, rfl⟩ e.obeys_duty

end Errand

namespace Router

variable {w : World Store}

/-- The docket of a command that works alone. -/
theorem exists_alone (supply : Supply) (w : World Store) (name : String) (payload : Json) :
    let command := standard.dispatch name payload
    ∃ g, Alone w (World.run .memory supply command w).2
        (command.calls (World.answer .memory supply) w) g ∧
      Docket.Ends (Command.Did payload name) (World.run .memory supply command w).1 g :=
  Errand.exists_alone supply w (.command name payload)

/-- The docket of a command that works alone on records in order. -/
theorem exists_effected (hids : Function.Injective supply.id)
    (horder : InOrder supply w fun _ : Unit => {}) (name : String) (payload : Json) :
    let command := standard.dispatch name payload
    ∃ g, (Alone w (World.run .memory supply command w).2
        (command.calls (World.answer .memory supply) w) g ∧
        Effected supply w.storage (World.run .memory supply command w).2 g) ∧
      Docket.Ends (Command.Did payload name) (World.run .memory supply command w).1 g :=
  Errand.exists_effected hids horder (.command name payload)

/-- In whatever state a run of errands has left the service, of a command that is dispatched then
and runs to its end this is true:

* the subscribers are sent what it publishes, and nothing else;
* if it fails, or if it only looks things up, then all records, the index and the channel are as
  they were, and it publishes nothing;
* if it succeeds, and no id is given out twice, then what it does to the records is what its answer
  says: at most one deed, which changes one record and leaves all others as they were. -/
theorem dispatch_atomic {ι : Type} [DecidableEq ι] (supply : Supply) (channel : Channel StatusChange)
    (errands : ι → Errand) (schedule : List ι) (name : String) (payload : Json) :
    let w := (Errand.runAll supply channel errands schedule).state
    let command := standard.dispatch name payload
    let outcome := (World.run .memory supply command w).1
    let w' := (World.run .memory supply command w).2
    let told := (command.calls (World.answer .memory supply) w).filterMap Call.announced
    w'.channel = w.channel.sendAll told ∧
    ((∃ error, outcome = .error error) ∨ Command.Reads name →
      w'.storage = w.storage ∧ w'.channel = w.channel ∧ told = []) ∧
    (Function.Injective supply.id → ∀ answer, outcome = .ok answer →
      ∃ deed, Command.Did payload name answer deed told ∧
        Deed.Leads deed w.storage w'.storage) := by
  intro w command outcome w' told
  obtain ⟨g, halone, hends⟩ := exists_alone supply w name payload
  have hchannel : w'.channel = w.channel.sendAll told := by
    rw [halone.channel, ← halone.told]
  refine ⟨hchannel, fun hidle => ?_, fun hids answer hanswer => ?_⟩
  · have hends : Docket.Ends (Command.Did payload name) outcome g := hends
    have hnothing : g.deed = none ∧ g.told = [] := by
      cases houtcome : outcome with
      | error error =>
        rw [houtcome] at hends
        exact hends
      | ok answer =>
        rw [houtcome] at hends
        rcases hidle with ⟨error, herror⟩ | hreads
        · rw [houtcome] at herror
          exact absurd herror nofun
        · exact Command.Did.of_reads hends hreads
    have htold : told = [] := halone.told.trans hnothing.2
    rw [htold] at hchannel
    exact ⟨halone.idle hnothing.1, hchannel, htold⟩
  · obtain ⟨acc, horder, -⟩ := Errand.exists_inOrder hids channel errands schedule
    obtain ⟨g, ⟨halone, heffected⟩, hends⟩ := exists_effected hids horder.unbegun name payload
    have hends : Docket.Ends (Command.Did payload name) outcome g := hends
    have htold : told = g.told := halone.told
    rw [hanswer] at hends
    rw [htold]
    exact ⟨g.deed, hends, heffected.leads⟩

/-- After an application, a review by a status that is none leaves everything as it was, and one by
a status that ends the wait is a deed. -/
theorem dispatch_atomic_of_application :
    let w := (Errand.runAll .growing (.ofCapacity 1) Errand.round
      (.replicate 9 0 ++ .replicate 11 1)).state
    let payload : String → Json := fun status =>
      .object [("rewardRequestId", .string "xx"), ("status", .string status)]
    let review := fun status => World.run .memory .growing
      (standard.dispatch "update_reward_request_status" (payload status)) w
    ((∃ error, (review "LOST").1 = .error error) ∧ (review "LOST").2.storage = w.storage ∧
      (review "LOST").2.channel = w.channel) ∧
    Function.Injective Supply.growing.id ∧
      ∃ answer, (review "APPROVED").1 = .ok answer ∧
        ∃ deed told, Command.Did (payload "APPROVED") "update_reward_request_status" answer deed told ∧
          Deed.Leads deed w.storage (review "APPROVED").2.storage := by
  intro w payload review
  have hfails : ∃ error, (review "LOST").1 = .error error := ⟨_, rfl⟩
  obtain ⟨-, hsame, -⟩ := dispatch_atomic .growing (.ofCapacity 1) Errand.round
    (.replicate 9 0 ++ .replicate 11 1) "update_reward_request_status" (payload "LOST")
  obtain ⟨hstorage, hchannel, -⟩ := hsame (.inl hfails)
  obtain ⟨-, -, hdoes⟩ := dispatch_atomic .growing (.ofCapacity 1) Errand.round
    (.replicate 9 0 ++ .replicate 11 1) "update_reward_request_status" (payload "APPROVED")
  obtain ⟨deed, hdid, hleads⟩ := hdoes Supply.growing_injective _ rfl
  exact ⟨⟨hfails, hstorage, hchannel⟩, Supply.growing_injective, _, rfl, deed, _, hdid, hleads⟩

end Router
end RewardDesk
