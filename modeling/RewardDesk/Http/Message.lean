/-!
# HTTP messages

As much of requests and responses as the service looks at. A path is matched as it was sent; only
then are the percent signs in a segment resolved.
-/

namespace RewardDesk.Http

/-- What a client sends. -/
structure Request where
  method : String
  /-- The path, with the query behind it if there is one. -/
  path : String
  body : List UInt8

/-- What a client gets. -/
structure Response where
  status : Nat
  contentType : Option String
  body : String
  deriving DecidableEq, Repr

namespace Response

/-- A response without a body. -/
def bare (status : Nat) : Response := ⟨status, none, ""⟩

def json (status : Nat) (body : String) : Response := ⟨status, some "application/json", body⟩

def plain (status : Nat) (body : String) : Response :=
  ⟨status, some "text/plain; charset=utf-8", body⟩

end Response

/-! ### Paths -/

/-- The characters of a path in front of the query. -/
def withoutQuery (path : String) : List Char :=
  path.toList.takeWhile fun c => c ≠ '?' && c ≠ '#'

end RewardDesk.Http
