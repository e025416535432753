import RewardDesk.Paging.Offset
import RewardDesk.Text.Base64

/-!
# Pages by cursor

A listing in ascending order of ids is walked with cursors: each page names the id of its last item,
and the next page begins behind it. A cursor is a base64 text of a JSON object with the id, and
whatever is not such a text counts as no cursor.
-/

namespace RewardDesk
namespace Cursor

open Json in
/-- What a cursor holds. -/
def payload : Codec String :=
  .record "CursorPayload" (.cons (.required "id" .string) .nil) (fun (id, _) => id)
    (fun id => (id, ()))

/-- The cursor behind an id. -/
def encode (id : String) : String :=
  String.ofList (Base64.encode (Text.bytes (payload.encode id).compact))

/-- The id that a cursor names. -/
def decode (cursor : String) : Option String := do
  let bytes ← Base64.decode (Text.trim cursor).toList
  let _ ← Text.ofBytes? bytes
  match payload.ofText bytes with
  | .ok id => if id.isEmpty then none else some id
  | .error _ => none

end Cursor

/-- What is asked of a store: at most so many records behind an id. -/
structure CursorQuery where
  afterId : Option String
  fetchLimit : Int64
  deriving DecidableEq, Repr

/-- Which page is asked for. -/
structure CursorParams where
  afterId : Option String
  limit : PageLimit

namespace CursorParams

/-- The size of a page when none is asked for. -/
def defaultLimit : UInt32 := 10

/-- The page behind a cursor. -/
def of (cursor : Option String) (limit : Option UInt32) : CursorParams :=
  { afterId := cursor.bind Cursor.decode, limit := .clamp (limit.getD defaultLimit) }

/-- One record more than the page holds is fetched, to see whether there is a next page. -/
def query (p : CursorParams) : CursorQuery :=
  { afterId := p.afterId, fetchLimit := .ofNat (p.limit.size + 1) }

end CursorParams

/-- A page of a walk. -/
structure CursorPage (α : Type) where
  items : List α
  nextCursor : Option String
  hasMore : Bool
  deriving DecidableEq, Repr

namespace CursorPage

/-- The page made of what was fetched, each item known by its id. -/
def ofFetched (id : α → String) (fetched : List α) (limit : PageLimit) : CursorPage α :=
  if limit.size < fetched.length then
    let items := fetched.take limit.size
    { items, nextCursor := items.getLast?.map fun a => Cursor.encode (id a), hasMore := true }
  else { items := fetched, nextCursor := none, hasMore := false }

/-- Change the items of a page and nothing else. -/
def map (f : α → β) (p : CursorPage α) : CursorPage β := { p with items := p.items.map f }

section
open Json

def codec (item : Codec α) : Codec (CursorPage α) :=
  .record "CursorPage"
    (.cons (.required "items" item.list) <|
      .cons (.optional "nextCursor" .string) <|
      .cons (.required "hasMore" .bool) .nil)
    (fun (items, nextCursor, hasMore, _) => { items, nextCursor, hasMore })
    (fun p => (p.items, p.nextCursor, p.hasMore, ()))

end
end CursorPage
end RewardDesk
