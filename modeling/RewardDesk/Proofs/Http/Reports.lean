import RewardDesk.Command.Standard
import RewardDesk.Http.Endpoint
import RewardDesk.Proofs.Interleaving.Contract
import RewardDesk.Proofs.Json.Text
import RewardDesk.Proofs.Session.Agreement
import RewardDesk.Store.Basic

/-!
# Reports over HTTP

What a request for a command is answered. Requests are noted in the log, and nothing that a program
does depends on the log: programs that differ in their notes only end alike (`Program.Agrees`). So
to serve a request is to dispatch its command and to report what came of it (`Http.agrees_serve`).

`Http.commands_reported` says what the report tells, and that it tells no detail of a failure of the
system.
-/

namespace RewardDesk

variable {σ α β : Type}

/-! ## Errors

An error is either an answer to the caller or a failure of the system, and its code, its status and
the message that callers are told all agree on which of the two it is. -/

namespace DeskError

/-- An error that answers the caller has a status of the caller's errors, and no other error has. -/
theorem status_iff (e : DeskError) : 400 ≤ e.status ∧ e.status < 500 ↔ e.isBusiness = true := by
  cases e with
  | _ => simp [status, isBusiness, isNotFound, isConflict]

theorem status_of_not_business {e : DeskError} (h : ¬ e.isBusiness) : e.status = 500 := by
  cases e with
  | database _ | serialization _ | internal _ => rfl
  | _ => exact absurd rfl h

variable {order : FieldOrder}

theorem publicMessage_of_not_business {e : DeskError} (h : ¬ e.isBusiness) :
    e.publicMessage order = systemMessage :=
  if_neg h

/-- Of no failure of the system it is told what is told of all of them. -/
theorem message_ne_systemMessage {e : DeskError} (h : ¬ e.isBusiness) :
    e.message order ≠ systemMessage := by
  have hhead : (e.message order).toList.head? ≠ systemMessage.toList.head? := by
    cases e with
    | database _ | serialization _ | internal _ =>
      unfold message
      rw [String.toList_append, systemMessage]
      simp
    | _ => exact absurd rfl h
  exact fun heq => hhead (congrArg (fun text => text.toList.head?) heq)

/-- Callers are told the message of an error if and only if it is an answer to them. -/
theorem publicMessage_iff (e : DeskError) :
    e.publicMessage order = e.message order ↔ e.isBusiness = true := by
  by_cases h : e.isBusiness
  · exact iff_of_true (if_pos h) h
  · rw [publicMessage_of_not_business h]
    exact iff_of_false (message_ne_systemMessage h).symm h

/-- Whether an error is a failure of the system can be told from its code. -/
theorem isBusiness_of_code {e e' : DeskError} (h : e.code = e'.code) :
    e.isBusiness = e'.isBusiness := by
  have hcode : ∀ e : DeskError, e.isBusiness =
      decide (e.code ∉ ["DATABASE_ERROR", "SERIALIZATION_ERROR", "INTERNAL_ERROR"]) := by
    intro e
    cases e with
    | _ => rfl
  rw [hcode, hcode, h]

end DeskError

namespace Http

/-! ## Requests

A request runs a command if its path names one and its body is not too long. What the body stands
for is told apart from how it is read: several texts stand for one payload. -/

/-- A request to run the command of that name, with a body that is not too long. -/
structure Request.Names (request : Request) (name : String) : Prop where
  method : request.method = "POST"
  path : ∃ segment, withoutQuery request.path = "/commands/".toList ++ segment ∧ segment ≠ [] ∧
    '/' ∉ segment ∧ Text.ofBytes? (Text.resolvePercent segment) = some name
  length : request.body.length ≤ bodyLimit

/-- Does the body stand for the payload? A blank one stands for null. -/
def Request.Carries (request : Request) (payload : Json) : Prop :=
  if request.body.all isBlankByte then payload = .null else Json.parse request.body = .ok payload

theorem routeOf_command {segment : List Char} (hsome : segment ≠ []) (hplain : '/' ∉ segment) :
    routeOf ("/commands/".toList ++ segment) = .command segment := by
  have hhealth : "/commands/".toList ++ segment ≠ "/health".toList := by
    intro h
    have hsecond := congrArg (fun path => path[1]?) h
    simp at hsecond
  have hsegment : (segment.isEmpty || segment.contains '/') = false := by
    simp [hsome, hplain]
  unfold routeOf
  rw [if_neg hhealth, if_pos (List.isPrefixOf_iff_prefix.2 (List.prefix_append ..))]
  simp only [List.drop_left, hsegment]
  rfl

/-- A request for a command is answered by running it. -/
theorem answer_of_names {r : Router} {request : Request} {name : String} (order : FieldOrder)
    (h : request.Names name) : answer r request order = runCommand r name request.body order := by
  obtain ⟨segment, hpath, hsome, hplain, hname⟩ := h.path
  rw [answer, hpath, routeOf_command hsome hplain]
  simp only [h.method, if_true]
  rw [runSegment, hname]
  exact if_neg (Nat.not_lt.2 h.length)

theorem payloadOf_of_carries {request : Request} {payload : Json} (h : request.Carries payload) :
    payloadOf request.body = .ok payload := by
  unfold Request.Carries at h
  unfold payloadOf
  split at h
  · rw [if_pos ‹_›, h]
  · rw [if_neg ‹_›, h]

/-- The text of a value is a body that stands for it. -/
theorem Request.carries_compact {request : Request} {payload : Json}
    (hbody : request.body = Text.bytes payload.compact) (hblank : ¬ request.body.all isBlankByte)
    (hordered : payload.Ordered) (hexact : payload.Exact) (hdepth : payload.depth ≤ Json.depthLimit) :
    request.Carries payload := by
  rw [Carries, if_neg hblank, hbody]
  exact (Json.Codec.returns_any hordered).ofText hexact hdepth

/-! ## Responses

To serve a request is to dispatch a command between notes in the log, and the response is made from
what the command ends with and from nothing else (`report`). -/

variable {order : FieldOrder}

/-- What is told of how a command ended. -/
def report (order : FieldOrder) : Except DeskError Json → Response
  | .ok data => succeeded data
  | .error e => failed e order

theorem agrees_answerError (e : DeskError) :
    (answerError e order).Agrees (pure (failed e order)) := by
  unfold answerError
  cases e.systemNote? with
  | none => exact .refl _
  | some detail => exact .note_bind _ _

/-- To run a command is to dispatch it and to report how it ended. -/
theorem agrees_runCommand {r : Router} {name : String} {body : List UInt8} {payload : Json}
    (h : payloadOf body = .ok payload) :
    (runCommand r name body order).Agrees (r.dispatch name payload >>= fun outcome =>
      pure (report order outcome)) := by
  unfold runCommand
  rw [h]
  refine (Program.Agrees.refl _).bind fun outcome => ?_
  cases outcome with
  | ok data => exact .refl _
  | error e => exact agrees_answerError e

/-- Nothing comes of a body that cannot be read. -/
theorem runCommand_of_fault {r : Router} {name : String} {body : List UInt8} {fault : Json.Fault}
    (h : payloadOf body = .error fault) :
    runCommand r name body order = answerError (.validation (.body fault)) order := by
  unfold runCommand
  rw [h]

/-- To serve a request is to answer it. -/
theorem agrees_serve (r : Router) (request : Request) (order : FieldOrder) :
    (serve r request order).Agrees (answer r request order) := by
  have hnoted : ∀ response : Response, Program.Agrees
      (do
        Program.note ⟨.debug, "tower_http::trace::on_response", "finished processing request",
          [latency, ("status", .number response.status)]⟩
        if 500 ≤ response.status then
          Program.note ⟨.error, "tower_http::trace::on_failure", "response failed",
            [("classification", .words "Status code: 500 Internal Server Error"), latency]⟩
        return response)
      (pure response) := by
    intro response
    refine (Program.Agrees.note_bind _ _).trans ?_
    split
    · exact .note_bind _ _
    · exact .refl _
  have hserved := (Program.Agrees.refl (answer r request order)).bind hnoted
  rw [bind_pure] at hserved
  exact (Program.Agrees.within _ _).trans ((Program.Agrees.note_bind _ _).trans hserved)

/-- The object that tells of success. -/
theorem succeeded_eq (data : Json) : succeeded data = .json 200
    (Json.object [("success", .bool true), ("code", .string "SUCCESS"),
      ("message", .string "操作成功"), ("data", data)]).compact := rfl

/-- The object that tells of an error. -/
theorem failed_eq (e : DeskError) (order : FieldOrder) : failed e order = .json e.status
    (Json.ofMembers [("success", .bool false), ("code", .string e.code),
      ("message", .string (e.publicMessage order)), ("data", .null)]).compact := rfl

/-- Nothing is told of a failure of the system but its code. -/
theorem failed_of_code {e e' : DeskError} (order' : FieldOrder) (hsystem : ¬ e.isBusiness)
    (hcode : e'.code = e.code) : failed e' order' = failed e order := by
  have hsystem' : ¬ e'.isBusiness := DeskError.isBusiness_of_code hcode ▸ hsystem
  rw [failed_eq, failed_eq, hcode, DeskError.status_of_not_business hsystem,
    DeskError.status_of_not_business hsystem', DeskError.publicMessage_of_not_business hsystem,
    DeskError.publicMessage_of_not_business hsystem']

/-! ## Visits

A visit is a request with all that it meets: a router, a storage of any kind in some state, a supply
of ids and times, and an order for the lines of several fields. The theorem at the end compares
visits that have nothing in common but the code of a failure. -/

/-- The contract of programs that only say something in the log. -/
def talk : Contract Unit where
  allows _ c := ∃ entry, c = .log entry
  leads _ _ _ _ := True

instance : talk.LogsFreely where
  allows_log _ entry := ⟨entry, rfl⟩
  leads_log _ _ _ := iff_of_true trivial rfl

/-- Who only talks makes no other calls. -/
theorem talk.calls_of_obeys {p : Program α} {post : α → Unit → Prop} (h : p.Obeys talk () post)
    (storage : Storage σ) (supply : Supply) (w : World σ) :
    ∀ c ∈ p.calls (World.answer storage supply) w, ∃ entry, c = .log entry :=
  (h.forall_calls (fun _ _ hallows => ⟨hallows, (), trivial⟩) w).1

/-- A request that comes to a service in some state. -/
structure Visit where
  State : Type
  storage : Storage State
  supply : Supply
  router : Router
  world : World State
  request : Request
  /-- The order in which several fields are reported. -/
  order : FieldOrder

namespace Visit

/-- The response to the request, and the surroundings afterwards. -/
def served (v : Visit) : Response × World v.State :=
  World.run v.storage v.supply (serve v.router v.request v.order) v.world

/-- The calls that are made for the request. -/
def calls (v : Visit) : List Call :=
  (serve v.router v.request v.order).calls (World.answer v.storage v.supply) v.world

/-- What would come of a command that is dispatched instead, and the surroundings afterwards. -/
def dispatched (v : Visit) (name : String) (payload : Json) :
    Except DeskError Json × World v.State :=
  World.run v.storage v.supply (v.router.dispatch name payload) v.world

variable {v : Visit} {name : String} {payload : Json}

/-- What is told is what came of the command, and the command is all that happened. -/
theorem served_of_carries (hnames : v.request.Names name) (hcarries : v.request.Carries payload) :
    v.served.1 = report v.order (v.dispatched name payload).1 ∧
      v.served.2.Alike (v.dispatched name payload).2 := by
  have hserved : (serve v.router v.request v.order).Agrees
      (v.router.dispatch name payload >>= fun outcome => pure (report v.order outcome)) := by
    refine (agrees_serve v.router v.request v.order).trans ?_
    rw [answer_of_names v.order hnames]
    exact agrees_runCommand (payloadOf_of_carries hcarries)
  have hrun := hserved.run v.storage v.supply (.refl v.world)
  rwa [World.run_bind] at hrun

/-- Of a body that cannot be read it is told that it cannot, and nothing happens. -/
theorem served_of_fault {fault : Json.Fault} (hnames : v.request.Names name)
    (hfault : payloadOf v.request.body = .error fault) :
    v.served.1 = failed (.validation (.body fault)) v.order ∧ v.served.2.Alike v.world ∧
      ∀ c ∈ v.calls, ∃ entry, c = .log entry := by
  have hanswer : answer v.router v.request v.order =
      answerError (.validation (.body fault)) v.order := by
    rw [answer_of_names v.order hnames, runCommand_of_fault hfault]
  have hserved : (serve v.router v.request v.order).Agrees
      (pure (failed (.validation (.body fault)) v.order)) := by
    refine (agrees_serve v.router v.request v.order).trans ?_
    rw [hanswer]
    exact agrees_answerError _
  have htalk : (serve v.router v.request v.order).Obeys talk () fun _ _ => True := by
    simp [serve, hanswer, answerError, DeskError.systemNote?, failed, Response.json,
      DeskError.status]
  obtain ⟨hresponse, hafter⟩ := hserved.run v.storage v.supply (.refl v.world)
  exact ⟨hresponse, hafter, talk.calls_of_obeys htalk v.storage v.supply v.world⟩

end Visit

/-- What a request for a command is answered, in every state of every service:

* if its body is not blank and cannot be read, it is refused and no command is run: all that is done
  is to say something in the log;
* otherwise the service is left as by the command that is dispatched with what the body stands for,
  and the response tells the result;
* or it tells the error. One that answers the caller has a status of the caller's errors and is told
  in its own words, and no other has or is: of a failure of the system all that is told is its code,
  so two of them with the same code are answered in the same way, whatever their requests, their
  services and the states of these are. -/
theorem commands_reported (v : Visit) (name : String) (hnames : v.request.Names name) :
    (¬ v.request.body.all isBlankByte → ∀ fault, Json.parse v.request.body = .error fault →
      v.served.1 = .json 400 (Json.ofMembers [("success", .bool false),
        ("code", .string "VALIDATION_ERROR"),
        ("message", .string ((DeskError.validation (.body fault)).message v.order)),
        ("data", .null)]).compact ∧
      v.served.2.Alike v.world ∧ ∀ c ∈ v.calls, ∃ entry, c = .log entry) ∧
    ∀ payload, v.request.Carries payload →
      v.served.2.Alike (v.dispatched name payload).2 ∧
      (∀ data, (v.dispatched name payload).1 = .ok data →
        v.served.1 = .json 200 (Json.object [("success", .bool true), ("code", .string "SUCCESS"),
          ("message", .string "操作成功"), ("data", data)]).compact) ∧
      ∀ e, (v.dispatched name payload).1 = .error e →
        v.served.1 = .json e.status (Json.ofMembers [("success", .bool false),
          ("code", .string e.code), ("message", .string (e.publicMessage v.order)),
          ("data", .null)]).compact ∧
        (400 ≤ e.status ∧ e.status < 500 ↔ e.isBusiness) ∧
        (e.publicMessage v.order = e.message v.order ↔ e.isBusiness) ∧
        (¬ e.isBusiness → e.status = 500 ∧ e.publicMessage v.order = DeskError.systemMessage ∧
          ∀ (v' : Visit) (name' : String) (payload' : Json) (e' : DeskError),
            v'.request.Names name' → v'.request.Carries payload' →
              (v'.dispatched name' payload').1 = .error e' → e'.code = e.code →
                v'.served.1 = v.served.1) := by
  refine ⟨fun hblank fault hfault => ?_, fun payload hcarries => ?_⟩
  · have hpayload : payloadOf v.request.body = .error fault := (if_neg hblank).trans hfault
    exact Visit.served_of_fault hnames hpayload
  obtain ⟨hresponse, hafter⟩ := Visit.served_of_carries hnames hcarries
  refine ⟨hafter, fun data hdata => ?_, fun e herror => ?_⟩
  · rw [hresponse, hdata]
    exact succeeded_eq data
  rw [herror] at hresponse
  refine ⟨hresponse.trans (failed_eq e v.order), e.status_iff, e.publicMessage_iff, fun hsystem => ?_⟩
  refine ⟨DeskError.status_of_not_business hsystem,
    DeskError.publicMessage_of_not_business hsystem, ?_⟩
  intro v' name' payload' e' hnames' hcarries' herror' hcode
  obtain ⟨hresponse', -⟩ := Visit.served_of_carries hnames' hcarries'
  rw [herror'] at hresponse'
  rw [hresponse, hresponse']
  exact failed_of_code v'.order hsystem hcode

/-- Somebody sends a request to a service with a storage of its own. -/
def Visit.to {State : Type} (storage : Storage State) (state : State) (path : String)
    (body : List UInt8) : Visit where
  State := State
  storage := storage
  supply := ⟨fun _ => "r", fun _ => default⟩
  router := .standard
  world := { storage := state, channel := .ofCapacity 1 }
  request := ⟨"POST", path, body⟩
  order := .byLine

/-- Somebody asks for the events while the storage fails. -/
def Visit.inVain (fault : StorageFault) : Visit :=
  .to (fun _ s => (.error fault, s)) () "/commands/get_events" []

/-- Somebody sends a body to create a reward, and nothing is stored yet. -/
def Visit.creating (body : List UInt8) : Visit :=
  .to .memory Store.empty "/commands/create_reward" body

/-- A reward to be created. -/
def badge : Json := .object [("name", .string "R"),
  ("rewardData", .object [("badgeId", .string "b")]), ("type", .string "BADGE")]

/-- Its text. -/
def badgeText : List UInt8 := Text.bytes badge.compact

theorem Visit.names_inVain (fault : StorageFault) : (inVain fault).request.Names "get_events" where
  method := rfl
  path := by
    have hpath : withoutQuery "/commands/get_events" = "/commands/".toList ++ "get_events".toList := by
      decide
    exact ⟨"get_events".toList, hpath, by decide, by decide, by decide +kernel⟩
  length := by simp [inVain, Visit.to]

theorem Visit.names_creating {body : List UInt8} (h : body.length ≤ bodyLimit) :
    (creating body).request.Names "create_reward" where
  method := rfl
  path := by
    have hpath : withoutQuery "/commands/create_reward" =
        "/commands/".toList ++ "create_reward".toList := by decide
    exact ⟨"create_reward".toList, hpath, by decide, by decide, by decide +kernel⟩
  length := h

theorem Visit.carries_creating : (creating badgeText).request.Carries badge := by
  refine Request.carries_compact rfl (by decide +kernel) ?_ ?_ (by decide)
  · simp only [badge, Json.Ordered, Json.OrderedMembers, Keyed.Ascending]
    decide +kernel
  · simp [badge, Json.Exact, Json.ExactMembers]

/-- Why the storage fails cannot be told from the response. A reward that can be created is created
and reported, and half an object is refused before anything happens. -/
theorem commands_reported_of_visits :
    ((Visit.inVain .poolClosed).request.Names "get_events" ∧
      (Visit.inVain .poolClosed).served.1.status = 500 ∧
      (Visit.inVain (.io "broken pipe")).served.1 = (Visit.inVain .poolClosed).served.1) ∧
    ((Visit.creating badgeText).request.Names "create_reward" ∧
      (Visit.creating badgeText).request.Carries badge ∧
      (Visit.creating badgeText).served.1.status = 200 ∧
      (Store.rewards (Visit.creating badgeText).served.2.storage).values.map (·.name) = ["R"]) ∧
    (Visit.creating [123]).request.Names "create_reward" ∧
      (Visit.creating [123]).served.1.status = 400 ∧
      (Visit.creating [123]).served.2.Alike (Visit.creating [123]).world := by
  refine ⟨?_, ?_, ?_⟩
  · obtain ⟨-, hcarried⟩ :=
      commands_reported (.inVain .poolClosed) "get_events" (Visit.names_inVain _)
    obtain ⟨-, -, hfailed⟩ := hcarried .null rfl
    obtain ⟨hresponse, -, -, hsystem⟩ := hfailed (.database .poolClosed) rfl
    obtain ⟨hstatus, -, hsame⟩ := hsystem nofun
    refine ⟨Visit.names_inVain _, ?_, ?_⟩
    · rw [hresponse]
      exact hstatus
    · exact hsame (.inVain (.io "broken pipe")) "get_events" .null (.database (.io "broken pipe"))
        (Visit.names_inVain _) rfl rfl rfl
  · have hnames : (Visit.creating badgeText).request.Names "create_reward" :=
      Visit.names_creating (by decide +kernel)
    obtain ⟨-, hcarried⟩ := commands_reported _ "create_reward" hnames
    obtain ⟨halike, hsucceeded, -⟩ := hcarried badge Visit.carries_creating
    refine ⟨hnames, Visit.carries_creating, ?_, ?_⟩
    · rw [hsucceeded _ rfl]
      rfl
    · rw [halike.storage]
      rfl
  · have hnames : (Visit.creating [123]).request.Names "create_reward" :=
      Visit.names_creating (by decide)
    obtain ⟨hunread, -⟩ := commands_reported _ "create_reward" hnames
    obtain ⟨fault, hfault⟩ : ∃ fault, Json.parse [123] = .error fault := by
      have hnone : (Json.parse [123]).toOption.isNone := by decide +kernel
      cases hparse : Json.parse [123] with
      | error fault => exact ⟨fault, rfl⟩
      | ok value => rw [hparse] at hnone; exact absurd hnone nofun
    obtain ⟨hresponse, halike, -⟩ := hunread (by decide) fault hfault
    refine ⟨hnames, ?_, halike⟩
    rw [hresponse]
    rfl

end Http
end RewardDesk
