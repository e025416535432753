import RewardDesk.Json.Record
import RewardDesk.Text.Blank
import RewardDesk.Text.Quoted

/-!
# Kinds of rewards and what they hold

Every reward is of one `RewardType` and holds the data of that type. Data are admitted by
`RewardType.parse`: an object with exactly the fields of the type, positive amounts and identifiers
that are not blank. In JSON the data appear bare (`RewardData.bare`, the type being known) or with
their type as the member `type` (`RewardData.codec`).
-/

namespace RewardDesk

/-- The kinds of rewards. -/
inductive RewardType where
  | point | item | coupon | badge
  deriving DecidableEq, Repr, Inhabited

namespace RewardType

/-- All kinds, in their customary order. -/
def all : List RewardType := [.point, .item, .coupon, .badge]

def name : RewardType → String
  | .point => "POINT"
  | .item => "ITEM"
  | .coupon => "COUPON"
  | .badge => "BADGE"

def names : List (String × RewardType) := all.map fun t => (t.name, t)

def codec : Json.Codec RewardType := .choice names name

/-- The fields that the data of a kind consist of. -/
def requiredFields : RewardType → List String
  | .point => ["points"]
  | .item => ["itemId", "quantity"]
  | .coupon => ["couponCode", "expiry"]
  | .badge => ["badgeId"]

end RewardType

/-- What a reward holds. -/
inductive RewardData where
  | point (points : Int64)
  | item (itemId : String) (quantity : Int64)
  | coupon (couponCode : String) (expiry : Instant)
  | badge (badgeId : String)
  deriving DecidableEq, Repr

namespace RewardData

/-- The kind of the data. -/
def type : RewardData → RewardType
  | .point .. => .point
  | .item .. => .item
  | .coupon .. => .coupon
  | .badge .. => .badge

/-! ### Bare data -/

section
open Json

/-- An object with nothing but the given fields. -/
def exactly (name : String) (fields : Fields αs) : Codec (Row αs) :=
  .record name fields id id .refused

def pointCodec : Codec (Row [Int64]) :=
  exactly "PointReward" (.cons (.required "points" .int64) .nil)

def itemCodec : Codec (Row [String, Int64]) :=
  exactly "ItemReward"
    (.cons (.required "itemId" .string) (.cons (.required "quantity" .int64) .nil))

def couponCodec : Codec (Row [String, Instant]) :=
  exactly "CouponReward"
    (.cons (.required "couponCode" .string) (.cons (.required "expiry" .instant) .nil))

def badgeCodec : Codec (Row [String]) :=
  exactly "BadgeReward" (.cons (.required "badgeId" .string) .nil)

/-- Read the bare data of a kind. -/
def decodeBare (t : RewardType) (o : Origin) (d : Document) : Except Fault RewardData :=
  match t with
  | .point => (pointCodec.decode o d).map fun (points, _) => .point points
  | .item => (itemCodec.decode o d).map fun (itemId, quantity, _) => .item itemId quantity
  | .coupon => (couponCodec.decode o d).map fun (code, expiry, _) => .coupon code expiry
  | .badge => (badgeCodec.decode o d).map fun (badgeId, _) => .badge badgeId

/-- The data as an object without their kind. -/
def bare : RewardData → Json
  | .point points => pointCodec.encode (points, ())
  | .item itemId quantity => itemCodec.encode (itemId, quantity, ())
  | .coupon code expiry => couponCodec.encode (code, expiry, ())
  | .badge badgeId => badgeCodec.encode (badgeId, ())

/-! ### Tagged data -/

/-- Take the tag out of the members of an object; the others are set aside in order. -/
def splitTag (o : Origin) (found : Option RewardType) :
    List (Key × Document) → Except Fault (Option RewardType × List (String × Json))
  | [] => .ok (found, [])
  | (key, value) :: members =>
    if key.name = "type" then
      if found.isSome then .error ⟨.duplicateField "type", key.after⟩
      else do
        let t ← Codec.tag RewardType.names o value
        splitTag o (some t) members
    else do
      let j ← value.toJson
      let (t, more) ← splitTag o found members
      return (t, (key.name, j) :: more)

/-- Read tagged data from the members of an object. -/
def decodeMembers (o : Origin) (members : List (Key × Document)) (ending : Except Fault Place) :
    Except Fault RewardData := do
  let (t, bare) ← splitTag o none members
  match ending, t with
  | .error f, _ => throw f
  | .ok stop, none => throw ⟨.missingField "type", stop⟩
  | .ok _, some t =>
    decodeBare t .buffer (.record .nowhere (Document.ofMemberList bare) (.ok .nowhere))

/-- Read tagged data from the items of an array, the tag first. -/
def decodeItems (o : Origin) (items : List (Place × Document)) (ending : Ending) :
    Except Fault RewardData :=
  match items, ending with
  | [], .closed stop => .error ⟨.missingField "type", stop⟩
  | [], .failed wanted _ => .error wanted
  | (_, first) :: rest, ending => do
    let t ← Codec.tag RewardType.names o first
    let bare ← Document.toItems rest
    match ending with
    | .failed wanted _ => throw wanted
    | .closed _ => decodeBare t .buffer (.ofJson (.array bare))

/-- The members of tagged data. -/
def members (d : RewardData) : List (String × Json) :=
  ("type", RewardType.codec.encode d.type) ::
    match d.bare with
    | .object members => members
    | _ => []

/-- Data together with their kind, the member `type`. -/
def codec : Codec RewardData where
  decode o d := match d with
    | .record _ members ending => decodeMembers o members ending
    | .list _ items ending => decodeItems o items ending
    | d => .error (d.misfit "internally tagged enum RewardData")
  encode d := Json.ofMembers d.members

end

/-! ### Admission -/

/-- Why data are not admitted as the data of a kind. -/
inductive Problem where
  | noObject (type : RewardType)
  | misfit (type : RewardType) (fault : Json.Fault)
  | notPositive (field : String) (amount : Int64)
  | blank (field : String)
  /-- Anything else, in words. -/
  | other (reason : String)
  deriving DecidableEq, Repr

def Problem.message : Problem → String
  | .noObject t => t.name ++ " 奖励数据必须是 JSON 对象"
  | .misfit t fault =>
    t.name ++ " 奖励需要字段 " ++ Text.quotedList t.requiredFields ++ ": " ++ fault.message
  | .notPositive field amount =>
    field ++ " 必须为正整数，实际为 " ++ toString amount.toInt
  | .blank field => field ++ " 不能为空"
  | .other reason => reason

/-- Amounts must be positive. -/
def checkAmount (field : String) (amount : Int64) : Except Problem Unit :=
  if amount ≤ 0 then .error (.notPositive field amount) else .ok ()

/-- Identifiers must not be blank. -/
def checkName (field : String) (value : String) : Except Problem Unit :=
  if Text.isBlank value then .error (.blank field) else .ok ()

/-- Check amounts and identifiers. -/
def check : RewardData → Except Problem Unit
  | .point points => checkAmount "points" points
  | .item itemId quantity => do
    checkName "itemId" itemId
    checkAmount "quantity" quantity
  | .coupon code _ => checkName "couponCode" code
  | .badge badgeId => checkName "badgeId" badgeId

end RewardData

/-- Admit data as the data of a kind. -/
def RewardType.parse (t : RewardType) (data : Json) : Except RewardData.Problem RewardData :=
  match data with
  | .object _ =>
    match RewardData.decodeBare t .value (.ofJson data) with
    | .error fault => .error (.misfit t fault)
    | .ok d => do
      d.check
      return d
  | _ => .error (.noObject t)

end RewardDesk
