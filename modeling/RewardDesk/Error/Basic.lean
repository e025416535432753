import RewardDesk.Error.Storage
import RewardDesk.Model.Request
import RewardDesk.Model.RewardData

/-!
# Errors of the desk

Whatever a command can fail with. A business error answers the caller: the record is not
there, the state forbids it, or the payload is not acceptable. The three others are failures of the
system itself, and their details are not for callers.
-/

namespace RewardDesk

/-- A field of a payload whose value is not acceptable, by its name in messages. -/
structure FieldProblem where
  field : String
  message : String
  deriving DecidableEq, Repr

/-- A line for a field. -/
def FieldProblem.line (p : FieldProblem) : String := p.field ++ ": " ++ p.message

/-- The order in which the lines of several fields come. It is another one every time, and nothing
can be said of it but that no line gets lost or comes twice. -/
structure FieldOrder where
  arrange : List FieldProblem → List FieldProblem
  perm : ∀ problems, (arrange problems).Perm problems

/-- The order of the lines themselves, for those who need a settled one. -/
def FieldOrder.byLine : FieldOrder where
  arrange problems := problems.mergeSort fun a b => (compare a.line b.line).isLE
  perm problems := List.mergeSort_perm problems _

/-- What is wrong with what the caller sent. -/
inductive Unacceptable where
  /-- The body is not JSON. -/
  | body (fault : Json.Fault)
  /-- The payload does not have the shape of the command. -/
  | payload (fault : Json.Fault)
  /-- Fields that are too short or too long. -/
  | fields (problems : List FieldProblem)
  /-- An event that ends before it starts. -/
  | period (startDate endDate : Instant)
  /-- Anything else, in words. -/
  | other (message : String)
  deriving DecidableEq, Repr

namespace Unacceptable

/-- The wording of each case. Every field that is too short or too long has a line. -/
def message (order : FieldOrder) : Unacceptable → String
  | .body fault => "请求体不是合法 JSON: " ++ fault.message
  | .payload fault => "命令载荷格式错误: " ++ fault.message
  | .fields problems => "\n".intercalate ((order.arrange problems).map FieldProblem.line)
  | .period startDate endDate =>
    "活动结束时间 " ++ endDate.display ++ " 早于开始时间 " ++ startDate.display
  | .other message => message

end Unacceptable

/-- The errors of the desk. -/
inductive DeskError where
  | eventNotFound (id : String)
  | rewardNotFound (id : String)
  | requestNotFound (id : String)
  | linkNotFound (eventId rewardId : String)
  | duplicateLink (eventId rewardId : String)
  | duplicateRequest (userId eventId : String)
  | invalidTransition (requestId : String) (current : RequestStatus) (target : String)
  | invalidRewardData (type : RewardType) (problem : RewardData.Problem)
  | validation (cause : Unacceptable)
  | unknownCommand (name : String)
  | database (fault : StorageFault)
  | serialization (fault : Json.Fault)
  | internal (message : String)
  deriving DecidableEq, Repr

namespace DeskError

def message (e : DeskError) (order : FieldOrder := .byLine) : String :=
  match e with
  | .eventNotFound id => "活动不存在: " ++ id
  | .rewardNotFound id => "奖励不存在: " ++ id
  | .requestNotFound id => "奖励申请不存在: " ++ id
  | .linkNotFound eventId rewardId =>
    "活动奖励关联不存在: event_id=" ++ eventId ++ ", reward_id=" ++ rewardId
  | .duplicateLink eventId rewardId =>
    "活动奖励关联已存在: event_id=" ++ eventId ++ ", reward_id=" ++ rewardId
  | .duplicateRequest userId eventId =>
    "已存在待审核的奖励申请: user_id=" ++ userId ++ ", event_id=" ++ eventId
  | .invalidTransition requestId current target =>
    "奖励申请状态不允许此操作: request_id=" ++ requestId ++ ", current_status=" ++ current.name ++
      ", target_status=" ++ target
  | .invalidRewardData type problem => "奖励数据无效: type=" ++ type.name ++ ", " ++ problem.message
  | .validation cause => "参数校验失败: " ++ cause.message order
  | .unknownCommand name => "未知命令: " ++ name
  | .database fault => "数据库错误: " ++ fault.message
  | .serialization fault => "JSON 序列化错误: " ++ fault.message
  | .internal message => "内部错误: " ++ message

def code : DeskError → String
  | .eventNotFound _ => "EVENT_NOT_FOUND"
  | .rewardNotFound _ => "REWARD_NOT_FOUND"
  | .requestNotFound _ => "REWARD_REQUEST_NOT_FOUND"
  | .linkNotFound .. => "ASSOCIATION_NOT_FOUND"
  | .duplicateLink .. => "DUPLICATE_ASSOCIATION"
  | .duplicateRequest .. => "DUPLICATE_REWARD_REQUEST"
  | .invalidTransition .. => "INVALID_STATUS_TRANSITION"
  | .invalidRewardData .. => "INVALID_REWARD_DATA"
  | .validation _ => "VALIDATION_ERROR"
  | .unknownCommand _ => "UNKNOWN_COMMAND"
  | .database _ => "DATABASE_ERROR"
  | .serialization _ => "SERIALIZATION_ERROR"
  | .internal _ => "INTERNAL_ERROR"

/-- May the caller try again? -/
def isRetryable : DeskError → Bool
  | .database _ => true
  | _ => false

/-- Is it an answer to the caller, and not a failure of the system? -/
def isBusiness : DeskError → Bool
  | .database _ | .serialization _ | .internal _ => false
  | _ => true

/-- Is something missing? -/
def isNotFound : DeskError → Bool
  | .eventNotFound _ | .rewardNotFound _ | .requestNotFound _ | .linkNotFound .. |
    .unknownCommand _ => true
  | _ => false

/-- Does the present state forbid it? -/
def isConflict : DeskError → Bool
  | .duplicateLink .. | .duplicateRequest .. | .invalidTransition .. => true
  | _ => false

/-- The HTTP status of an error. -/
def status (e : DeskError) : Nat :=
  match e with
  | .invalidRewardData .. | .validation _ => 400
  | _ => if e.isNotFound then 404 else if e.isConflict then 409 else 500

/-- What callers are told of every failure of the system. -/
def systemMessage : String := "服务内部错误，请稍后重试"

/-- What callers are told. -/
def publicMessage (e : DeskError) (order : FieldOrder := .byLine) : String :=
  if e.isBusiness then e.message order else systemMessage

/-- What the log says of a failure of the system: a headline and the detail. -/
def systemNote? : DeskError → Option (String × String)
  | .database fault => some ("数据库操作失败", fault.message)
  | .serialization fault => some ("JSON 序列化失败", fault.message)
  | .internal message => some ("内部错误", message)
  | _ => none

end DeskError
end RewardDesk
