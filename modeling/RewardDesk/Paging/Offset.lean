import RewardDesk.Json.Record

/-!
# Pages by number

Listings are cut into pages of one to a hundred items, numbered from zero. `PageParams` asks for a
page, `Window` is the stretch of the listing that the page shows, and `OffsetPage` is the page
with what a reader needs in order to turn it.
-/

namespace RewardDesk

/-- How many items a page may hold. -/
structure PageLimit where
  size : Nat
  pos : 1 ≤ size
  le_max : size ≤ 100

namespace PageLimit

/-- The most items a page may hold. -/
def max : PageLimit := ⟨100, by decide, by decide⟩

/-- The size of a page when none is asked for. -/
def standard : PageLimit := ⟨20, by decide, by decide⟩

/-- The limit nearest to the one asked for. -/
def clamp (n : UInt32) : PageLimit :=
  ⟨Nat.max 1 (min n.toNat 100), Nat.le_max_left .., Nat.max_le.2 ⟨by decide, Nat.min_le_right ..⟩⟩

def toUInt32 (l : PageLimit) : UInt32 := .ofNat l.size

def toInt64 (l : PageLimit) : Int64 := .ofNat l.size

end PageLimit

/-- A stretch of a listing. Negative numbers count as zero. -/
structure Window where
  limit : Int64
  offset : Int64
  deriving DecidableEq, Repr

namespace Window

/-- The stretch that begins at a row; rows past the last signed word are as good as that one. -/
def ofRow (limit : PageLimit) (offset : UInt64) : Window :=
  { limit := limit.toInt64, offset := .ofNat (min offset.toNat (Nat.pow 2 63 - 1)) }

/-- The items inside the stretch. -/
def cut (w : Window) (items : List α) : List α :=
  (items.drop w.offset.toInt.toNat).take w.limit.toInt.toNat

end Window

/-- Which page is asked for. -/
structure PageParams where
  page : UInt32
  limit : PageLimit

namespace PageParams

/-- The number of items in front of the page. -/
def offset (p : PageParams) : Int64 := .ofNat (p.page.toNat * p.limit.size)

/-- The stretch that the page shows. -/
def window (p : PageParams) : Window := { limit := p.limit.toInt64, offset := p.offset }

end PageParams

/-- A page of a listing. -/
structure OffsetPage (α : Type) where
  items : List α
  totalItems : UInt64
  page : UInt32
  limit : UInt32
  totalPages : UInt64
  hasNextPage : Bool
  hasPreviousPage : Bool
  deriving DecidableEq, Repr

namespace OffsetPage

/-- The number of pages that hold `total` items. -/
def pageCount (total : Nat) (limit : PageLimit) : Nat := (total + limit.size - 1) / limit.size

/-- The page that holds `items`, out of `total` in the listing. -/
def of (items : List α) (total : UInt64) (params : PageParams) : OffsetPage α :=
  let pages := pageCount total.toNat params.limit
  { items
    totalItems := total
    page := params.page
    limit := params.limit.toUInt32
    totalPages := .ofNat pages
    hasNextPage := params.page.toNat + 1 < pages
    hasPreviousPage := 0 < params.page.toNat && 0 < total.toNat }

/-- Change the items of a page and nothing else. -/
def map (f : α → β) (p : OffsetPage α) : OffsetPage β := { p with items := p.items.map f }

section
open Json

def codec (item : Codec α) : Codec (OffsetPage α) :=
  .record "OffsetPage"
    (.cons (.required "items" item.list) <|
      .cons (.required "totalItems" .uint64) <|
      .cons (.required "page" .uint32) <|
      .cons (.required "limit" .uint32) <|
      .cons (.required "totalPages" .uint64) <|
      .cons (.required "hasNextPage" .bool) <|
      .cons (.required "hasPreviousPage" .bool) .nil)
    (fun (items, totalItems, page, limit, totalPages, hasNextPage, hasPreviousPage, _) =>
      { items, totalItems, page, limit, totalPages, hasNextPage, hasPreviousPage })
    (fun p => (p.items, p.totalItems, p.page, p.limit, p.totalPages, p.hasNextPage,
      p.hasPreviousPage, ()))

end
end OffsetPage
end RewardDesk
