import RewardDesk.Command.Router
import RewardDesk.Http.Envelope
import RewardDesk.Http.Message
import RewardDesk.Text.Percent

/-!
# The HTTP endpoint

`POST /commands/{name}` runs a command, its payload being the body; `GET /health` tells how the
service is. What a failure of the system is about is said in the log only.
-/

namespace RewardDesk.Http

/-- Where the notes about failures come from. -/
def errorTarget : String := "reward_service::error"

/-- The longest body that is read, in bytes. -/
def bodyLimit : Nat := 2 * 1024 * 1024

def isBlankByte (b : UInt8) : Bool := b = 32 || b = 9 || b = 10 || b = 12 || b = 13

/-- The payload in a body; a blank body stands for null. -/
def payloadOf (body : List UInt8) : Except Json.Fault Json :=
  if body.all isBlankByte then .ok .null else Json.parse body

/-- The response to a command that succeeded. -/
def succeeded (data : Json) : Response :=
  let e := Envelope.ofData data
  .json 200 (Json.object [("success", .bool e.success), ("code", .string e.code),
    ("message", .string e.message), ("data", .ofOption id e.data)]).compact

/-- The response to a command that failed. -/
def failed (e : DeskError) (order : FieldOrder) : Response :=
  .json e.status ((Envelope.codec .any).encode (.ofError e order)).compact

/-- Answer with an error; failures of the system are noted. -/
def answerError (e : DeskError) (order : FieldOrder) : Program Response := do
  match e.systemNote? with
  | some (headline, detail) =>
    Program.note ⟨.error, errorTarget, headline, [("error", .words detail)]⟩
  | none => pure ()
  return failed e order

/-- Run a command. -/
def runCommand (r : Router) (name : String) (body : List UInt8) (order : FieldOrder) :
    Program Response := do
  match payloadOf body with
  | .error fault => answerError (.validation (.body fault)) order
  | .ok payload =>
    match ← r.dispatch name payload with
    | .ok data => return succeeded data
    | .error e => answerError e order

/-- Run the command that a segment of the path names. -/
def runSegment (r : Router) (segment : List Char) (body : List UInt8) (order : FieldOrder) :
    Program Response :=
  match Text.ofBytes? (Text.resolvePercent segment) with
  | none => return .plain 400 "Invalid URL: Invalid UTF-8 in `name`"
  | some name =>
    if bodyLimit < body.length then
      return .plain 413 "Failed to buffer the request body: length limit exceeded"
    else runCommand r name body order

/-- How the service is. -/
def health (r : Router) : Json :=
  .ofMembers [("status", .string "ok"), ("service", .string "reward-service"),
    ("database", .string "disabled"), ("commands", .int r.size)]

/-- Where a path leads. -/
inductive Route where
  | command (segment : List Char)
  | health
  | nowhere
  deriving DecidableEq, Repr

/-- Find out where a path leads. -/
def routeOf (path : List Char) : Route :=
  let commands := "/commands/".toList
  if path = "/health".toList then .health
  else if commands.isPrefixOf path then
    let segment := path.drop commands.length
    if segment.isEmpty || segment.contains '/' then .nowhere else .command segment
  else .nowhere

/-- Answer a request. -/
def answer (r : Router) (request : Request) (order : FieldOrder) : Program Response :=
  match routeOf (withoutQuery request.path) with
  | .nowhere => return .bare 404
  | .health =>
    if request.method = "GET" then return .json 200 (health r).compact
    else if request.method = "HEAD" then return .json 200 ""
    else return .bare 405
  | .command segment =>
    if request.method = "POST" then runSegment r segment request.body order else return .bare 405

/-! ### The trace of a request -/

/-- How long a request took. No time passes for a program while it works. -/
def latency : String × Log.Value := ("latency", .words "0 ms")

/-- The span of a request. -/
def span (request : Request) : Log.Span :=
  ⟨.debug, "tower_http::trace::make_span", "request",
    [("method", .words request.method),
      ("uri", .words (String.ofList (request.path.toList.takeWhile (· ≠ '#')))),
      ("version", .words "HTTP/1.1")]⟩

/-- Answer a request and note its begin, its end and a failure of the system. -/
def serve (r : Router) (request : Request) (order : FieldOrder := .byLine) : Program Response :=
  Program.within (span request) do
    Program.note ⟨.debug, "tower_http::trace::on_request", "started processing request", []⟩
    let response ← answer r request order
    Program.note ⟨.debug, "tower_http::trace::on_response", "finished processing request",
      [latency, ("status", .number response.status)]⟩
    if 500 ≤ response.status then
      Program.note ⟨.error, "tower_http::trace::on_failure", "response failed",
        [("classification", .words "Status code: 500 Internal Server Error"), latency]⟩
    return response

end RewardDesk.Http
