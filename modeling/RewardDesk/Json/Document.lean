import RewardDesk.Json.Lexer

/-!
# Documents

A `Document` is what a reader finds when it walks through JSON: the values in the order in which
they stand, each with its places, and every fault at the spot where the walk would end. A text
becomes one by `Document.ofText`, a value by `Document.ofJson`; a value has no faults and is
nowhere.

The walk decides which faults count. A reader that wants a number and meets a string complains about
the string and never sees what is wrong further on, and the value of a member that nobody wants is
passed over by `skip`, which forgives what reading does not.
-/

namespace RewardDesk
namespace Json

/-- The places of a value: in front of it, behind its first byte, and behind it. -/
structure Spot where
  start : Place
  peek : Place
  stop : Place
  deriving Repr, Inhabited

/-- The spot of a value that was never text. -/
def Spot.nowhere : Spot := ⟨.nowhere, .nowhere, .nowhere⟩

/-- How a list ends: properly, or with a fault, which is `wanted` for one who looks for another
item and `unwanted` for one who looks for the end. -/
inductive Ending where
  | closed (stop : Place)
  | failed (wanted unwanted : Fault)

/-- The key of a member. -/
structure Key where
  name : String
  /-- Behind the key. -/
  stop : Place
  /-- Where a complaint about the key surfaces: behind the blanks that follow it, and behind the
  object if it ends there. -/
  after : Place
  /-- What follows the member's value. -/
  next : Place
  /-- What keeps a skipper from passing over the value. -/
  barrier : Option Fault

/-- JSON as a reader walks through it. -/
inductive Document where
  | broken (fault : Fault)
  /-- Null, a truth value, a number or a string. -/
  | leaf (value : Json) (spot : Spot)
  /-- An array; with each item goes the place behind its first byte. -/
  | list (spot : Spot) (items : List (Place × Document)) (ending : Ending)
  /-- An object. -/
  | record (spot : Spot) (members : List (Key × Document)) (ending : Except Fault Place)

/-! ### Skipping a value -/

/-- What a skipper waits for inside the brackets it has passed. -/
inductive Await where
  | value | opened | next | key | colon

/-- What to wait for once a value is over; `none` when it was the one to skip. -/
def afterValue : List Bool → Option (Await × List Bool)
  | [] => none
  | frames => some (.next, frames)

/-- Skip one token where a value is due. A frame is true for an object and false for an array. -/
def skipValueToken (frames : List Bool) (t : Token) : Except Fault (Option (Await × List Bool)) :=
  match t.lexeme with
  | .null | .bool _ | .number _ none | .string _ none => .ok (afterValue frames)
  | .number _ (some f) | .string _ (some f) | .stray f => .error f
  | .openArray => .ok (some (.opened, false :: frames))
  | .openObject => .ok (some (.opened, true :: frames))
  | _ => .error (.malformed .expectedValue t.peek)

/-- Skip one token where a key is due. -/
def skipKeyToken (frames : List Bool) (t : Token) : Except Fault (Option (Await × List Bool)) :=
  match t.lexeme with
  | .string _ none => .ok (some (.colon, frames))
  | .string _ (some f) => .error f
  | _ => .error (.malformed .keyMustBeString t.peek)

def skipToken (await : Await) (frames : List Bool) (t : Token) :
    Except Fault (Option (Await × List Bool)) :=
  match await, frames, t.lexeme with
  | .value, _, _ => skipValueToken frames t
  | .opened, false :: outer, .closeArray => .ok (afterValue outer)
  | .opened, true :: outer, .closeObject => .ok (afterValue outer)
  | .opened, true :: _, _ => skipKeyToken frames t
  | .opened, _, _ => skipValueToken frames t
  | .next, false :: outer, .closeArray => .ok (afterValue outer)
  | .next, true :: outer, .closeObject => .ok (afterValue outer)
  | .next, false :: _, .comma => .ok (some (.value, frames))
  | .next, true :: _, .comma => .ok (some (.key, frames))
  | .next, true :: _, _ => .error (.malformed .expectedObjectCommaOrEnd t.peek)
  | .next, _, _ => .error (.malformed .expectedListCommaOrEnd t.peek)
  | .key, _, _ => skipKeyToken frames t
  | .colon, _, .colon => .ok (some (.value, frames))
  | .colon, _, _ => .error (.malformed .expectedColon t.peek)

/-- What a skipper misses when the text ends. -/
def Await.atEnd (await : Await) (frames : List Bool) : Malformed :=
  match await, frames with
  | .value, _ => .endInValue
  | .key, _ | .colon, _ | _, true :: _ => .endInObject
  | _, _ => .endInList

/-- Skip over tokens until the value is over, and give the tokens that follow it. -/
def skip (finish : Place) (await : Await) (frames : List Bool) :
    List Token → Except Fault (List Token)
  | [] => .error (.malformed (await.atEnd frames) finish)
  | t :: rest =>
    match skipToken await frames t with
    | .error f => .error f
    | .ok none => .ok rest
    | .ok (some (await, frames)) => skip finish await frames rest

/-- Skip one value. -/
def skipValue (finish : Place) (ts : List Token) : Except Fault (List Token) :=
  skip finish .value [] ts

/-! ### Reading a text -/

/-- The place of the next token. -/
def nextPlace (finish : Place) : List Token → Place
  | [] => finish
  | t :: _ => t.start

/-- Where a complaint about a key surfaces when `ts` follows it. -/
def placeAfterKey (finish : Place) : List Token → Place
  | [] => finish
  | t :: _ => match t.lexeme with
    | .closeObject => t.stop
    | _ => t.start

mutual

/-- Read the value in front, at most `depth` brackets deep. Every call uses up a token, so `fuel`
only has to be twice the number of tokens. -/
def readValue (finish : Place) : (fuel depth : Nat) → List Token → Document
  | 0, _, _ | _, _, [] => .broken (.malformed .endInValue finish)
  | fuel + 1, depth, t :: rest =>
    let spot : Spot := ⟨t.start, t.peek, t.stop⟩
    match t.lexeme, depth with
    | .null, _ => .leaf .null spot
    | .bool b, _ => .leaf (.bool b) spot
    | .number (.ok n) _, _ => .leaf n spot
    | .string (.ok s) _, _ => .leaf (.string s) spot
    | .number (.error f) _, _ | .string (.error f) _, _ | .stray f, _ => .broken f
    | .openArray, 0 | .openObject, 0 => .broken (.malformed .tooDeep t.peek)
    | .openArray, depth + 1 =>
      let (items, ending) := readItems finish fuel depth true rest
      .list spot items ending
    | .openObject, depth + 1 =>
      let (members, ending) := readMembers finish fuel depth true rest
      .record spot members ending
    | _, _ => .broken (.malformed .expectedValue t.peek)

/-- Read the items of an array; `first` until the first one is read. -/
def readItems (finish : Place) : (fuel depth : Nat) → (first : Bool) → List Token →
    List (Place × Document) × Ending
  | 0, _, _, _ | _, _, _, [] =>
    let f := Fault.malformed .endInList finish
    ([], .failed f f)
  | fuel + 1, depth, first, t :: rest =>
    match t.lexeme, first, rest with
    | .closeArray, _, _ => ([], .closed t.stop)
    | .comma, false, [] =>
      ([], .failed (.malformed .endInValue finish) (.malformed .trailingCharacters finish))
    | .comma, false, u :: _ =>
      match u.lexeme with
      | .closeArray =>
        let f := Fault.malformed .trailingComma u.peek
        ([], .failed f f)
      | _ => readItem finish fuel depth u.peek rest
    | _, true, _ => readItem finish fuel depth t.peek (t :: rest)
    | _, false, _ =>
      ([], .failed (.malformed .expectedListCommaOrEnd t.peek)
        (.malformed .trailingCharacters t.peek))

/-- Read one item of an array and the items behind it. -/
def readItem (finish : Place) : (fuel depth : Nat) → (peek : Place) → List Token →
    List (Place × Document) × Ending
  | 0, _, _, _ =>
    let f := Fault.malformed .endInList finish
    ([], .failed f f)
  | fuel + 1, depth, peek, ts =>
    let item := readValue finish fuel depth ts
    match skipValue finish ts with
    | .error f => ([(peek, item)], .failed f f)
    | .ok behind =>
      let (items, ending) := readItems finish fuel depth false behind
      ((peek, item) :: items, ending)

/-- Read the members of an object; `first` until the first one is read. -/
def readMembers (finish : Place) : (fuel depth : Nat) → (first : Bool) → List Token →
    List (Key × Document) × Except Fault Place
  | 0, _, _, _ | _, _, _, [] => ([], .error (.malformed .endInObject finish))
  | fuel + 1, depth, first, t :: rest =>
    match t.lexeme, first, rest with
    | .closeObject, _, _ => ([], .ok t.stop)
    | .comma, false, [] => ([], .error (.malformed .endInValue finish))
    | .comma, false, u :: behind =>
      match u.lexeme with
      | .string (.ok name) _ => readMember finish fuel depth name u.stop behind
      | .string (.error f) _ => ([], .error f)
      | .closeObject => ([], .error (.malformed .trailingComma u.peek))
      | _ => ([], .error (.malformed .keyMustBeString u.peek))
    | .string (.ok name) _, true, _ => readMember finish fuel depth name t.stop rest
    | .string (.error f) _, true, _ => ([], .error f)
    | _, true, _ => ([], .error (.malformed .keyMustBeString t.peek))
    | _, false, _ => ([], .error (.malformed .expectedObjectCommaOrEnd t.peek))

/-- Read the rest of a member, its key being read, and the members behind it. -/
def readMember (finish : Place) : (fuel depth : Nat) → (name : String) → (stop : Place) →
    List Token → List (Key × Document) × Except Fault Place
  | 0, _, _, _, _ => ([], .error (.malformed .endInObject finish))
  | fuel + 1, depth, name, stop, ts =>
    let after := placeAfterKey finish ts
    let cut (f : Fault) : List (Key × Document) × Except Fault Place :=
      ([(⟨name, stop, after, finish, some f⟩, .broken f)], .error f)
    match ts with
    | [] => cut (.malformed .endInObject finish)
    | t :: rest =>
      match t.lexeme with
      | .colon =>
        let value := readValue finish fuel depth rest
        match skipValue finish rest with
        | .error f => ([(⟨name, stop, after, finish, some f⟩, value)], .error f)
        | .ok behind =>
          let (members, ending) := readMembers finish fuel depth false behind
          ((⟨name, stop, after, nextPlace finish behind, none⟩, value) :: members, ending)
      | _ => cut (.malformed .expectedColon t.peek)

end

/-- How deep arrays and objects may be nested in a text. -/
def depthLimit : Nat := 127

/-- The document of a text, and the fault that stands behind its value, if any. -/
def Document.ofText (text : List UInt8) : Document × Option Fault :=
  let (ts, finish) := tokens text
  let document := readValue finish (2 * ts.length + 1) depthLimit ts
  match skipValue finish ts with
  | .ok (t :: _) => (document, some (.malformed .trailingCharacters t.peek))
  | _ => (document, none)

/-! ### Values as documents -/

mutual

/-- The document of a value. -/
def Document.ofJson : Json → Document
  | .array items => .list .nowhere (ofItems items) (.closed .nowhere)
  | .object members => .record .nowhere (ofMemberList members) (.ok .nowhere)
  | j => .leaf j .nowhere

def Document.ofItems : List Json → List (Place × Document)
  | [] => []
  | item :: rest => (.nowhere, ofJson item) :: ofItems rest

def Document.ofMemberList : List (String × Json) → List (Key × Document)
  | [] => []
  | (name, value) :: rest =>
    (⟨name, .nowhere, .nowhere, .nowhere, none⟩, ofJson value) :: ofMemberList rest

end

mutual

/-- The value of a document without faults. -/
def Document.toJson : Document → Except Fault Json
  | .broken f => .error f
  | .leaf value _ => .ok value
  | .list _ items ending => do
    let values ← toItems items
    match ending with
    | .closed _ => return .array values
    | .failed wanted _ => throw wanted
  | .record _ members ending => do
    let values ← toMembers members
    match ending with
    | .ok _ => return Json.ofMembers values
    | .error f => throw f

def Document.toItems : List (Place × Document) → Except Fault (List Json)
  | [] => .ok []
  | (_, item) :: rest => do
    let value ← toJson item
    return value :: (← toItems rest)

def Document.toMembers : List (Key × Document) → Except Fault (List (String × Json))
  | [] => .ok []
  | (key, value) :: rest => do
    let value ← toJson value
    return (key.name, value) :: (← toMembers rest)

end

/-- The value written in a text. -/
def parse (text : List UInt8) : Except Fault Json := do
  let (document, behind) := Document.ofText text
  let value ← document.toJson
  match behind with
  | some f => throw f
  | none => return value

end Json
end RewardDesk
