import RewardDesk.Proofs.Requests.Announcements

/-!
# Commands in an outage

What comes of a command while the storage carries out no statement (`Storage.Fails`). A command
either is refused before it asks the storage for anything (`aloof`), and then it is refused for the
same reason whatever the storage is, or it asks and fails with the storage (`outage`). It never
succeeds, tells nobody and counts nothing but itself.

`Router.outage_reported` says this of all commands and payloads. The reason is the same, and its
words are so but for one thing: where several fields are at fault, each has a line, and the lines
come in another order every time (`DeskError.sameLines_message`, `Router.refusal_in_two_orders`).
-/

namespace RewardDesk

/-- No statement is carried out. Only a look-up of nothing may be answered. -/
def Storage.Fails {σ : Type} (storage : Storage σ) : Prop :=
  ∀ q s, q ≠ .getRewards [] → ∃ fault, (storage q s).1 = .error fault

theorem Storage.fails_closed {σ : Type} : (closed : Storage σ).Fails := by
  intro q s hq
  unfold closed
  split
  · exact absurd rfl hq
  · exact ⟨.poolClosed, rfl⟩

/-! ## Contracts

The two ways to end in an outage are two contracts. `aloof` allows no statement at all, `outage`
allows every statement and takes it for granted that it fails, but for a look-up of nothing. -/

/-- The calls of those who tell nobody and count commands only. -/
def Call.IsReticent : Call → Prop
  | .publish _ => False
  | .measure m => m.command?.isSome
  | _ => True

/-- The contract of programs that do not ask the storage. -/
def aloof : Contract Unit where
  allows _ c := c.IsReticent ∧ ∀ q, c ≠ .statement q
  leads _ _ _ _ := True

/-- The contract of programs whose statements fail. -/
def outage : Contract Unit where
  allows _ c := c.IsReticent
  leads _
    | .statement q, a, _ => q ≠ .getRewards [] → ∃ fault, a = .error fault
    | _, _, _ => True

instance : aloof.LogsFreely where
  allows_log _ _ := ⟨trivial, nofun⟩
  leads_log _ _ _ := iff_of_true trivial rfl

instance : outage.LogsFreely where
  allows_log _ _ := trivial
  leads_log _ _ _ := iff_of_true trivial rfl

/-- Who does not ask the storage is not concerned by its failure. -/
theorem aloof.obeys_outage {α : Type} {p : Program α} {post : α → Unit → Prop}
    (h : p.Obeys aloof () post) : p.Obeys outage () post := by
  induction p with
  | done a => exact h
  | call c next ih => exact ⟨h.1.1, fun a _ _ => ih a (h.2 a () trivial)⟩

namespace outage

/-! ## Single calls

A statement that fails ends the work that it belongs to; ids and the time can be had all the
same. -/

theorem obeys_perform {q : Statement} {post : Except DeskError q.Result → Unit → Prop}
    (hq : q ≠ .getRewards []) :
    Program.Obeys (α := no_index (Except DeskError q.Result)) outage
        (ExceptT.run (α := no_index q.Result) (Desk.perform q)) () post ↔
      ∀ fault, post (.error (.database fault)) () := by
  rw [Desk.obeys_perform]
  constructor
  · intro h fault
    exact h.2 (.error fault) () fun _ => ⟨fault, rfl⟩
  · intro h
    refine ⟨trivial, fun a _ hleads => ?_⟩
    obtain ⟨fault, rfl⟩ := hleads hq
    exact h fault

@[simp] theorem obeys_freshId {post : Except DeskError String → Unit → Prop} :
    Program.Obeys (α := no_index (Except DeskError String)) outage
        (ExceptT.run (α := no_index String) (Desk.ask .freshId)) () post ↔
      ∀ id, post (.ok id) () := by
  rw [Desk.obeys_ask]
  exact ⟨fun h id => h.2 id () trivial, fun h => ⟨trivial, fun id _ _ => h id⟩⟩

@[simp] theorem obeys_clock {post : Except DeskError Instant → Unit → Prop} :
    Program.Obeys (α := no_index (Except DeskError Instant)) outage
        (ExceptT.run (α := no_index Instant) (Desk.ask .clock)) () post ↔
      ∀ time, post (.ok time) () := by
  rw [Desk.obeys_ask]
  exact ⟨fun h time => h.2 time () trivial, fun h => ⟨trivial, fun time _ _ => h time⟩⟩

/-! ## Work

Most work asks the storage for something, whatever is in the payload, and so fails. The simplifier
follows each program to its first statement. -/

/-- The end of work that fails with the storage. -/
def Broken {α : Type} (outcome : Except DeskError α) (_ : Unit) : Prop :=
  ∃ fault, outcome = .error (.database fault)

@[simp] theorem broken_database {α : Type} (fault : StorageFault) :
    Broken (.error (.database fault) : Except DeskError α) () :=
  ⟨fault, rfl⟩

@[simp] theorem broken_map {α β : Type} (f : α → β) (outcome : Except DeskError α) :
    Broken (outcome.map f) () ↔ Broken outcome () := by
  cases outcome with
  | ok a => exact iff_of_false nofun nofun
  | error e => simp [Broken, Except.map]

attribute [local simp] obeys_perform

theorem obeys_getEvent (id : String) : (Events.get id).run.Obeys outage () Broken := by
  simp [Events.get]

theorem obeys_updateEvent (p : UpdateEvent) : (Events.update p).run.Obeys outage () Broken := by
  simp [Events.update, Events.get]

theorem obeys_listEvents (p : ListEvents) : (Events.list p).run.Obeys outage () Broken := by
  simp [Events.list]

theorem obeys_getReward (id : String) : (Rewards.get id).run.Obeys outage () Broken := by
  simp [Rewards.get]

theorem obeys_listRewards (p : ListRewards) : (Rewards.list p).run.Obeys outage () Broken := by
  simp [Rewards.list]

theorem obeys_walkRewards (p : WalkRewards) : (Rewards.walk p).run.Obeys outage () Broken := by
  simp [Rewards.walk]

theorem obeys_addLink (p : LinkReward) : (Links.add p).run.Obeys outage () Broken := by
  simp [Links.add, Events.get]

theorem obeys_removeLink (p : LinkReward) : (Links.remove p).run.Obeys outage () Broken := by
  simp [Links.remove]

theorem obeys_linkedRewards (id : String) : (Links.rewards id).run.Obeys outage () Broken := by
  simp [Links.rewards, Events.get]

theorem obeys_createRequest (p : CreateRequest) :
    (Requests.create p).run.Obeys outage () Broken := by
  simp [Requests.create, Events.get]

theorem obeys_getRequest (id : String) : (Requests.get id).run.Obeys outage () Broken := by
  simp [Requests.get]

theorem obeys_listRequests (p : ListRequests) : (Requests.list p).run.Obeys outage () Broken := by
  simp [Requests.list]

theorem obeys_walkRequests (p : WalkRequests) : (Requests.walk p).run.Obeys outage () Broken := by
  simp [Requests.walk]

theorem obeys_reviewByName (p : ReviewRequest) :
    (Requests.reviewByName p).run.Obeys outage () Broken := by
  rw [Requests.reviewByName]
  cases RequestStatus.ofName? p.status with
  | none => simp [Requests.get]
  | some status => simp [Requests.review, Requests.get]

end outage

/-! ## Refusals

Only events and rewards are created after checks that need no storage. A handler may besides refuse
a payload that cannot be read or has fields at fault, and a name may belong to no command. Each of
these ends in a refusal before anything is asked. -/

/-- Is it said of the payload or the name of a command, whatever is stored? -/
def DeskError.IsRefusal : DeskError → Prop
  | .unknownCommand _ | .validation _ | .invalidRewardData .. => True
  | _ => False

/-- The program refuses before it asks the storage, or fails with it. -/
def Program.IsCandid {α : Type} (p : Program (Except DeskError α)) : Prop :=
  (∃ e, DeskError.IsRefusal e ∧ p.Obeys aloof () fun outcome _ => outcome = .error e) ∨
    p.Obeys outage () outage.Broken

namespace outage

theorem candid_createEvent (p : CreateEvent) : (Events.create p).run.IsCandid := by
  by_cases hperiod : p.endDate < p.startDate
  · refine .inl ⟨.validation (.period p.startDate p.endDate), trivial, ?_⟩
    simp [Events.create, Events.checkPeriod, hperiod]
  · right
    simp [Events.create, Events.checkPeriod, hperiod, obeys_perform]

theorem candid_createReward (p : CreateReward) : (Rewards.create p).run.IsCandid := by
  cases hparse : p.type.parse p.rewardData with
  | error problem =>
    refine .inl ⟨.invalidRewardData p.type problem, trivial, ?_⟩
    simp [Rewards.create, Rewards.accept, hparse]
  | ok data =>
    right
    simp [Rewards.create, Rewards.accept, hparse, obeys_perform]

variable {α β : Type} {name : String} {payload : Payload α} {work : α → Desk β} {write : β → Json}
  {j : Json}

/-- A handler is candid if its work is. -/
theorem candid_of (hwork : ∀ a, (work a).run.IsCandid) :
    ((Handler.of name payload work write).handle j).run.IsCandid := by
  cases hread : payload.read j with
  | error cause =>
    refine .inl ⟨.validation cause, trivial, ?_⟩
    rw [Handler.obeys_iff, hread]
  | ok a =>
    rcases hwork a with ⟨e, hrefusal, hrefuses⟩ | hfails
    · refine .inl ⟨e, hrefusal, ?_⟩
      rw [Handler.obeys_iff, hread]
      refine hrefuses.mono fun outcome _ houtcome => ?_
      rw [houtcome]
      rfl
    · right
      rw [Handler.obeys_iff, hread]
      exact hfails.mono fun outcome _ hbroken => (broken_map write outcome).2 hbroken

/-- A handler whose work always asks the storage is candid. -/
theorem candid_of_obeys (hwork : ∀ a, (work a).run.Obeys outage () Broken) :
    ((Handler.of name payload work write).handle j).run.IsCandid :=
  candid_of fun a => .inr (hwork a)

theorem candid_command (h : Handler) (hmem : h ∈ Command.all) (payload : Json) :
    (h.handle payload).run.IsCandid := by
  simp only [Command.all, Command.onEvents, Command.onRewards, Command.onLinks, Command.onRequests,
    List.mem_append, List.mem_cons, List.not_mem_nil, or_false] at hmem
  rcases hmem with (((rfl | rfl | rfl | rfl) | rfl | rfl | rfl | rfl) | rfl | rfl | rfl) |
    rfl | rfl | rfl | rfl | rfl
  · exact candid_of candid_createEvent
  · exact candid_of_obeys fun p => obeys_getEvent p.id
  · exact candid_of_obeys obeys_updateEvent
  · exact candid_of_obeys obeys_listEvents
  · exact candid_of candid_createReward
  · exact candid_of_obeys obeys_listRewards
  · exact candid_of_obeys obeys_walkRewards
  · exact candid_of_obeys fun p => obeys_getReward p.id
  · exact candid_of_obeys obeys_addLink
  · exact candid_of_obeys obeys_removeLink
  · exact candid_of_obeys fun p => obeys_linkedRewards p.eventId
  · exact candid_of_obeys obeys_createRequest
  · exact candid_of_obeys fun p => obeys_getRequest p.id
  · exact candid_of_obeys obeys_listRequests
  · exact candid_of_obeys obeys_walkRequests
  · exact candid_of_obeys obeys_reviewByName

end outage

/-- Every command is candid. -/
theorem Router.candid_dispatch (name : String) (payload : Json) :
    (standard.dispatch name payload).IsCandid := by
  cases hget : standard.get? name with
  | none =>
    refine .inl ⟨.unknownCommand name, trivial, ?_⟩
    rw [obeys_dispatch_unknown hget]
  | some h =>
    obtain ⟨hmem, -⟩ := mem_of_standard_get? hget
    rcases outage.candid_command h hmem payload with ⟨e, hrefusal, hrefuses⟩ | hfails
    · refine .inl ⟨e, hrefusal, ?_⟩
      rw [obeys_dispatch_known hget]
      exact hrefuses.mono fun outcome _ houtcome => ⟨⟨rfl, nofun⟩, fun _ _ _ => houtcome⟩
    · right
      rw [obeys_dispatch_known hget]
      exact hfails.mono fun outcome _ hbroken => ⟨rfl, fun _ _ _ => hbroken⟩

/-! ## Words

An error is data and its message is a text, and one error may be told in several texts: the lines of
several fields come in an order that nobody controls (`FieldOrder`). Texts are therefore compared up
to that order, and outright where there is nothing to order. -/

/-- One field stays where it is. -/
theorem FieldOrder.arrange_of_length (order : FieldOrder) {problems : List FieldProblem}
    (h : problems.length ≤ 1) : order.arrange problems = problems := by
  have hperm := order.perm problems
  match problems with
  | [] => exact hperm.eq_nil
  | [_] => exact List.perm_singleton.1 hperm

/-- Are two texts the same but for the order of the lines that they end with? -/
def SameLines (a b : String) : Prop :=
  ∃ start lines lines', List.Perm lines lines' ∧ a = start ++ "\n".intercalate lines ∧
    b = start ++ "\n".intercalate lines'

theorem SameLines.refl (a : String) : SameLines a a := by
  refine ⟨a, [], [], .refl _, ?_, ?_⟩
  all_goals
    exact String.append_empty.symm

namespace DeskError

/-- In two orders an error is told in the same lines. -/
theorem sameLines_message (e : DeskError) (order order' : FieldOrder) :
    SameLines (e.message order) (e.message order') := by
  cases e with
  | validation cause =>
    cases cause with
    | fields problems =>
      have hperm : (order.arrange problems).Perm (order'.arrange problems) :=
        (order.perm problems).trans (order'.perm problems).symm
      exact ⟨"参数校验失败: ", _, _, hperm.map FieldProblem.line, rfl, rfl⟩
    | _ => exact .refl _
  | _ => exact .refl _

/-- Only several fields have an order. -/
theorem message_eq_message {e : DeskError}
    (h : ∀ problems, e = .validation (.fields problems) → problems.length ≤ 1)
    (order order' : FieldOrder) : e.message order = e.message order' := by
  cases e with
  | validation cause =>
    cases cause with
    | fields problems =>
      have hlen := h problems rfl
      have hsame := (order.arrange_of_length hlen).trans (order'.arrange_of_length hlen).symm
      exact congrArg (fun problems : List FieldProblem =>
        "参数校验失败: " ++ "\n".intercalate (problems.map FieldProblem.line)) hsame
    | _ => rfl
  | _ => rfl

end DeskError

/-! ## Runs

What a program may do by its contract becomes what it has done in a storage that fails. Its calls
leave the surroundings alone because the storage keeps its state, and no call is a publication or a
count of records. -/

variable {σ α : Type} {storage : Storage σ} {supply : Supply}

/-- What has become of the surroundings of a program that tells nobody and counts commands only. -/
structure Unmoved (before w : World σ) (made : List Call) : Prop where
  channel : w.channel = before.channel
  told : made.filterMap Call.announced = []
  counted : ∀ m, m.command? = none → w.tally.count m = before.tally.count m

namespace Unmoved

variable {before w : World σ} {made : List Call}

theorem start (w : World σ) : Unmoved w w [] := ⟨rfl, rfl, fun _ _ => rfl⟩

/-- A call that publishes nothing and counts nothing. -/
theorem silent {w' : World σ} {c : Call} (h : Unmoved before w made) (hc : c.announced = none)
    (hchannel : w'.channel = w.channel) (htally : w'.tally = w.tally) :
    Unmoved before w' (made ++ [c]) where
  channel := hchannel.trans h.channel
  told := by
    rw [List.filterMap_append, h.told]
    simp [hc]
  counted := htally ▸ h.counted

theorem call {c : Call} (h : Unmoved before w made) (hc : c.IsReticent) :
    Unmoved before (World.answer storage supply c w).2 (made ++ [c]) := by
  cases c with
  | measure m =>
    refine ⟨h.channel, by simp [h.told, Call.announced], fun m' hm' => ?_⟩
    have hne : m ≠ m' := by
      rintro rfl
      have hcommand : m.command?.isSome := hc
      rw [hm'] at hcommand
      exact absurd hcommand nofun
    show List.count m' (w.tally ++ [m]) = _
    rw [List.count_append, List.count_singleton, if_neg (by simpa using hne)]
    exact h.counted m' hm'
  | publish change => exact hc.elim
  | statement q => exact h.silent rfl rfl rfl
  | freshId => exact h.silent rfl rfl rfl
  | clock => exact h.silent rfl rfl rfl
  | log entry => exact h.silent rfl rfl rfl

end Unmoved

/-- In an outage every call is answered as the contract says. -/
theorem outage.leads_answer (hfails : storage.Fails) (c : Call) (w : World σ) :
    outage.leads () c (World.answer storage supply c w).1 () := by
  cases c with
  | statement q => exact hfails q w.storage
  | _ => trivial

/-- What comes of a program that obeys in an outage. -/
theorem outage.run {p : Program α} {post : α → Unit → Prop} (h : p.Obeys outage () post)
    (hfails : storage.Fails) (supply : Supply) (w : World σ) :
    Unmoved w (World.run storage supply p w).2 (p.calls (World.answer storage supply) w) ∧
      post (World.run storage supply p w).1 () := by
  obtain ⟨_, hunmoved, hpost⟩ := h.run (fun w' made _ => Unmoved w w' made)
    (fun hunmoved hallows => ⟨(), outage.leads_answer hfails _ _, hunmoved.call hallows⟩)
    (Unmoved.start w)
  exact ⟨hunmoved, hpost⟩

/-- What comes of a program that does not ask the storage, whatever the storage is. -/
theorem aloof.run {p : Program α} {post : α → Unit → Prop} (h : p.Obeys aloof () post)
    (storage : Storage σ) (supply : Supply) (w : World σ) :
    (∀ q, .statement q ∉ p.calls (World.answer storage supply) w) ∧
      post (World.run storage supply p w).1 () := by
  obtain ⟨hasked, _, hpost⟩ := h.forall_calls
    (P := fun c => ∀ q, c ≠ .statement q) (fun _ _ hallows => ⟨hallows.2, (), trivial⟩) w
  exact ⟨fun q hq => hasked _ hq q rfl, hpost⟩

/-- What a refusal is called. -/
theorem DeskError.IsRefusal.code {e : DeskError} (h : e.IsRefusal) :
    e.code ∈ ["UNKNOWN_COMMAND", "VALIDATION_ERROR", "INVALID_REWARD_DATA"] := by
  cases e with
  | unknownCommand _ | validation _ | invalidRewardData _ _ => simp [DeskError.code]
  | _ => exact h.elim

namespace Router

/-- Of every command that is dispatched while the storage carries out no statement this is true:

* it fails, nobody is told anything, and nothing is counted but the command itself;
* what it reports is the failure of the database, or it is a refusal: then the storage was not asked
  for anything, and a storage in memory in any state, whatever ids and times are given out, makes
  the same command end with the same error;
* the refusal is told in the same lines there and here, and unless it is about several fields in the
  same text. -/
theorem outage_reported (storage : Storage σ) (hfails : storage.Fails) (supply : Supply)
    (w : World σ) (name : String) (payload : Json) :
    let command := standard.dispatch name payload
    let w' := (World.run storage supply command w).2
    let made := command.calls (World.answer storage supply) w
    ∃ e, (World.run storage supply command w).1 = .error e ∧
      made.filterMap Call.announced = [] ∧ w'.channel = w.channel ∧
      (∀ m, m.command? = none → w'.tally.count m = w.tally.count m) ∧
      (e.code = "DATABASE_ERROR" ∨
        e.code ∈ ["UNKNOWN_COMMAND", "VALIDATION_ERROR", "INVALID_REWARD_DATA"] ∧
          (∀ q, .statement q ∉ made) ∧
          (∀ (supply' : Supply) (w'' : World Store),
            (World.run .memory supply' command w'').1 = .error e) ∧
          ∀ order order' : FieldOrder, SameLines (e.message order) (e.message order') ∧
            ((∀ problems, e = .validation (.fields problems) → problems.length ≤ 1) →
              e.message order = e.message order')) := by
  intro command w' made
  rcases candid_dispatch name payload with ⟨e, hrefusal, hrefuses⟩ | hbroken
  · obtain ⟨hunmoved, houtcome⟩ := outage.run (aloof.obeys_outage hrefuses) hfails supply w
    obtain ⟨hasked, -⟩ := aloof.run hrefuses storage supply w
    refine ⟨e, houtcome, hunmoved.told, hunmoved.channel, hunmoved.counted, .inr ?_⟩
    refine ⟨hrefusal.code, hasked, fun supply' w'' => (aloof.run hrefuses .memory supply' w'').2, ?_⟩
    exact fun order order' => ⟨e.sameLines_message order order',
      fun h => DeskError.message_eq_message h order order'⟩
  · obtain ⟨hunmoved, fault, houtcome⟩ := outage.run hbroken hfails supply w
    exact ⟨.database fault, houtcome, hunmoved.told, hunmoved.channel, hunmoved.counted, .inl rfl⟩

/-- While the connections are closed, a request by nobody for nothing is refused, and it is refused
with the same error, in the same lines, by every storage in memory. -/
theorem outage_reported_of_fields :
    let payload : Json := .object [("eventId", .string ""), ("userId", .string "")]
    let command := standard.dispatch "create_reward_request" payload
    let w : World Unit := { storage := (), channel := .ofCapacity 1 }
    (Storage.closed : Storage Unit).Fails ∧
      ∃ e, (World.run .closed .growing command w).1 = .error e ∧ e.code = "VALIDATION_ERROR" ∧
        (∀ (supply' : Supply) (w'' : World Store),
          (World.run .memory supply' command w'').1 = .error e) ∧
        ∀ order order' : FieldOrder, SameLines (e.message order) (e.message order') := by
  intro payload command w
  obtain ⟨e, houtcome, -, -, -, hcases⟩ :=
    outage_reported .closed Storage.fails_closed .growing w "create_reward_request" payload
  have hrefused : ∃ problems, (World.run .closed .growing command w).1 =
      .error (.validation (.fields problems)) := ⟨_, rfl⟩
  obtain ⟨problems, hrefused⟩ := hrefused
  obtain rfl := Except.error.inj (houtcome.symm.trans hrefused)
  rcases hcases with hdatabase | ⟨-, -, hsame, hlines⟩
  · exact absurd hdatabase (by simp [DeskError.code])
  · exact ⟨Storage.fails_closed, _, houtcome, rfl, hsame, fun order order' => (hlines order order').1⟩

/-- A request by nobody for nothing is refused while the connections are closed and by an empty
storage in memory, with the lines in two orders. -/
theorem refusal_in_two_orders :
    let payload : Json := .object [("eventId", .string ""), ("userId", .string "")]
    let command := standard.dispatch "create_reward_request" payload
    let w : World Unit := { storage := (), channel := .ofCapacity 1 }
    let w' : World Store := { storage := .empty, channel := .ofCapacity 1 }
    ∃ (order order' : FieldOrder) (e e' : DeskError),
      (World.run .closed .growing command w).1 = .error e ∧
      (World.run .memory .growing command w').1 = .error e' ∧
      e.message order = "参数校验失败: user_id: userId 长度必须在1-100个字符之间\n" ++
        "event_id: eventId 不能为空" ∧
      e'.message order' = "参数校验失败: event_id: eventId 不能为空\n" ++
        "user_id: userId 长度必须在1-100个字符之间" ∧
      e.message order ≠ e'.message order' := by
  intro payload command w w'
  have hrefused {σ : Type} (storage : Storage σ) (w : World σ) :
      (World.run storage .growing command w).1 = .error (.validation (.fields
        [⟨"user_id", "userId 长度必须在1-100个字符之间"⟩, ⟨"event_id", "eventId 不能为空"⟩])) := rfl
  refine ⟨⟨id, .refl⟩, ⟨List.reverse, List.reverse_perm⟩, _, _, hrefused .closed w,
    hrefused .memory w', ?_, ?_, ?_⟩
  all_goals
    decide +kernel

end Router
end RewardDesk
