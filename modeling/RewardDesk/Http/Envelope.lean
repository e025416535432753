import RewardDesk.Error.Basic

/-!
# Envelopes

Every answer to a command over HTTP is one object: whether it succeeded, a code, a message for
people, and the data.
-/

namespace RewardDesk

/-- The answer to a command over HTTP. -/
structure Envelope (α : Type) where
  success : Bool
  code : String
  message : String
  data : Option α
  deriving DecidableEq, Repr

namespace Envelope

def ofData (data : α) : Envelope α :=
  { success := true, code := "SUCCESS", message := "操作成功", data := some data }

def ofError (e : DeskError) (order : FieldOrder := .byLine) : Envelope α :=
  { success := false, code := e.code, message := e.publicMessage order, data := none }

section
open Json

def codec (data : Codec α) : Codec (Envelope α) :=
  .record "ApiResponse"
    (.cons (.required "success" .bool) <|
      .cons (.required "code" .string) <|
      .cons (.required "message" .string) <|
      .cons (.optional "data" data) .nil)
    (fun (success, code, message, data, _) => { success, code, message, data })
    (fun e => (e.success, e.code, e.message, e.data, ()))

end
end Envelope
end RewardDesk
