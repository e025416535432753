import Mathlib
import RewardDesk.Desk.Requests
import RewardDesk.Desk.Rewards
import RewardDesk.Proofs.Paging.Leafing
import RewardDesk.Proofs.Paging.Listing
import RewardDesk.Proofs.Store.Selection

/-!
# Pages by number

A page shows the stretch of the listing that belongs to its number, and what it says of the whole
listing is true (`OffsetPage.Shows`). All numbers on the way fit their words, so none of them is
rounded or starts over at zero. The pages partition the listing: put one behind the other, or read
one after the other as long as there is a next one, they show every record once
(`World.offset_pages_partition`).
-/

namespace RewardDesk

/-! ## Exact numbers

Numbers of pages are unsigned, offsets go to the storage as signed words, and totals come back as
signed words. Every step on the way is exact but for one: an offset beyond the signed words is cut
down (`Window.ofRow`), and that is behind the end of any listing whose length is such a word. -/

theorem PageLimit.toInt_toInt64 (l : PageLimit) : l.toInt64.toInt = l.size := by
  have hmax := l.le_max
  rw [toInt64, Int64.toInt_ofNat_of_lt (by omega)]

theorem PageLimit.toNat_toUInt32 (l : PageLimit) : l.toUInt32.toNat = l.size := by
  have hmax := l.le_max
  have hsize : l.size < 2 ^ 32 := by omega
  exact UInt32.toNat_ofNat_of_lt' hsize

/-- The number of items in front of a page fits its word. -/
theorem PageParams.toInt_offset (p : PageParams) :
    p.offset.toInt = (p.page.toNat * p.limit.size : Nat) := by
  have hpage := p.page.toNat_lt
  have hprod : p.page.toNat * p.limit.size ≤ p.page.toNat * 100 :=
    Nat.mul_le_mul_left _ p.limit.le_max
  rw [offset, Int64.toInt_ofNat_of_lt (by omega)]

/-- An offset that no signed word can hold is as good as the last signed word. -/
theorem Window.toInt_offset_ofRow (limit : PageLimit) (offset : UInt64) :
    (ofRow limit offset).offset.toInt = (min offset.toNat (2 ^ 63 - 1) : Nat) := by
  have hmin : min offset.toNat (2 ^ 63 - 1) < 2 ^ 63 := by omega
  exact Int64.toInt_ofNat_of_lt hmin

theorem OffsetPage.pageCount_eq (total : Nat) (limit : PageLimit) :
    pageCount total limit = total ⌈/⌉ limit.size := (Nat.ceilDiv_eq_add_pred_div ..).symm

/-! ## Stretches of a listing

A page is cut from the listing by dropping what is in front of it. Put side by side these cuts are
the listing again. -/

section
variable {α : Type}

/-- A stretch ends with the listing at the latest. -/
theorem take_drop_eq_extract (items : List α) (offset k : Nat) :
    (items.drop offset).take k = items.extract offset (min items.length (offset + k)) := by
  rw [List.extract, List.take_eq_take_iff, List.length_drop]
  omega

theorem Window.cut_window (p : PageParams) (items : List α) :
    p.window.cut items = items.extract (p.page.toNat * p.limit.size)
      (min items.length ((p.page.toNat + 1) * p.limit.size)) := by
  show (items.drop p.offset.toInt.toNat).take p.limit.toInt64.toInt.toNat = _
  rw [p.toInt_offset, p.limit.toInt_toInt64, Int.toNat_natCast, Int.toNat_natCast,
    take_drop_eq_extract, Nat.succ_mul]

/-- Fewer records than signed words: an offset that was cut down still lies behind them all. -/
theorem Window.cut_ofRow (limit : PageLimit) (offset : UInt64) {items : List α}
    (h : items.length < 2 ^ 63) :
    (ofRow limit offset).cut items =
      items.extract offset.toNat (min items.length (offset.toNat + limit.size)) := by
  show (items.drop (ofRow limit offset).offset.toInt.toNat).take limit.toInt64.toInt.toNat = _
  rw [toInt_offset_ofRow, limit.toInt_toInt64, Int.toNat_natCast, Int.toNat_natCast,
    take_drop_eq_extract]
  by_cases hfits : offset.toNat ≤ 2 ^ 63 - 1
  · rw [Nat.min_eq_left hfits]
  · have hbehind {start stop : Nat} (hstart : items.length ≤ start) :
        items.extract start stop = [] := by
      rw [List.extract, List.drop_of_length_le hstart, List.take_nil]
    rw [hbehind (by omega), hbehind (by omega)]

/-- The stretches of `k` items each make up the listing, if there are enough of them. -/
theorem flatMap_extract (items : List α) (k : Nat) {count : Nat} (h : items.length ≤ count * k) :
    ((List.range count).flatMap fun page =>
      items.extract (page * k) (min items.length ((page + 1) * k))) = items := by
  have htake : ∀ count, ((List.range count).flatMap fun page =>
      items.extract (page * k) (min items.length ((page + 1) * k))) = items.take (count * k) := by
    intro count
    induction count with
    | zero => simp
    | succ count ih =>
      rw [List.range_succ, List.flatMap_append, ih, List.flatMap_singleton, Nat.succ_mul,
        ← take_drop_eq_extract, ← List.take_add]
  rw [htake, List.take_of_length_le h]

end

/-! ## What a page shows

`Shows` gives the arithmetic of a page by itself, in natural numbers: which records are on it, how
many there are in all and how many pages they fill, and whether there is a page before and behind
it. -/

namespace OffsetPage

variable {α : Type} {listing : List α}

/-- What is on a page and said of it, when a listing is shown in pages of `k` items. -/
structure Shows (shown : OffsetPage α) (listing : List α) (k number : Nat) : Prop where
  items : shown.items = listing.extract (number * k) (min listing.length ((number + 1) * k))
  totalItems : shown.totalItems.toNat = listing.length
  page : shown.page.toNat = number
  limit : shown.limit.toNat = k
  totalPages : shown.totalPages.toNat = listing.length ⌈/⌉ k
  hasNextPage : shown.hasNextPage ↔ (number + 1) * k < listing.length
  hasPreviousPage : shown.hasPreviousPage ↔ 0 < number ∧ 0 < listing.length

theorem shows_of (p : PageParams) (h : listing.length < 2 ^ 63) :
    (of (p.window.cut listing) (.ofNat listing.length) p).Shows listing p.limit.size
      p.page.toNat := by
  have hpos : 0 < p.limit.size := p.limit.pos
  have hword {n : Nat} (hn : n ≤ listing.length) : (UInt64.ofNat n).toNat = n :=
    UInt64.toNat_ofNat_of_lt' (Nat.lt_of_le_of_lt hn (Nat.lt_trans h (by decide)))
  have htotal : (UInt64.ofNat listing.length).toNat = listing.length := hword (Nat.le_refl _)
  have hcount : listing.length ⌈/⌉ p.limit.size ≤ listing.length := by
    rw [ceilDiv_le_iff_le_smul hpos]
    exact Nat.le_mul_of_pos_left _ hpos
  constructor
  case items => exact Window.cut_window p listing
  case totalItems => exact htotal
  case page => rfl
  case limit => exact p.limit.toNat_toUInt32
  case totalPages =>
    show (UInt64.ofNat (pageCount (UInt64.ofNat listing.length).toNat p.limit)).toNat = _
    rw [htotal, pageCount_eq, hword hcount]
  case hasNextPage =>
    show decide (p.page.toNat + 1 < pageCount (UInt64.ofNat listing.length).toNat p.limit) ↔ _
    rw [htotal, pageCount_eq, decide_eq_true_iff, Paging.lt_ceilDiv_iff hpos]
  case hasPreviousPage =>
    show (decide (0 < p.page.toNat) && decide (0 < (UInt64.ofNat listing.length).toNat)) ↔ _
    rw [htotal, Bool.and_eq_true, decide_eq_true_iff, decide_eq_true_iff]

/-- The number of the page behind this one. -/
def next? (shown : OffsetPage α) : Option UInt32 :=
  if shown.hasNextPage then some (shown.page + 1) else none

end OffsetPage

/-! ## Reading pages

Which records are meant is said by conditions on what is stored (`Store.HoldsEvent` and its like),
not by the selection that the storage makes, so a listing is tied to the records by `Listing.Newest`
alone. That also makes it unique, so that all pages are cut from one and the same listing. -/

namespace World

variable {α : Type} [Recorded α] {supply : Supply} {w : World Store} {meant : α → Prop}
  {listing : List α}

/-- Does `read` read the pages of `records` by number and limit, and change nothing? -/
def ReadsPages (supply : Supply) (read : UInt32 → UInt32 → Desk (OffsetPage α))
    (records : Store → List α) : Prop :=
  ∀ page limit w,
    let p : PageParams := ⟨page, .clamp limit⟩
    run .memory supply (read page limit).run w =
      (.ok (.of (Listing.window p.window (records w.storage)) (.ofNat (records w.storage).length) p),
        w)

/-- A page of the events of a status. -/
def eventPage (status : Option EventStatus) (page limit : UInt32) : Desk (OffsetPage Event) :=
  Events.list { status, page, limit }

/-- A page of the requests that a filter admits. -/
def requestPage (f : RequestFilter) (page limit : UInt32) : Desk (OffsetPage Request) :=
  Requests.list { userId := f.userId, eventId := f.eventId, status := f.status, page, limit }

theorem readsPages_events (supply : Supply) (status : Option EventStatus) :
    ReadsPages supply (eventPage status) (·.eventsOf status) :=
  fun _ _ _ => rfl

theorem readsPages_requests (supply : Supply) (f : RequestFilter) :
    ReadsPages supply (requestPage f) (·.requestsOf f) :=
  fun _ _ _ => rfl

omit [Recorded α] in
/-- From a page on, somebody who goes on as long as there is a next page reads all that are left. -/
theorem leafed_range' {read : UInt32 → Desk (OffsetPage α)} {shown : UInt32 → OffsetPage α} {k : Nat}
    (hk : 0 < k) (hread : ∀ page, run .memory supply (read page).run w = (.ok (shown page), w))
    (hshows : ∀ page, (shown page).Shows listing k page.toNat)
    (hfit : listing.length ⌈/⌉ k ≤ 2 ^ 32) {count start : Nat}
    (hcount : start + count + 1 = max 1 (listing.length ⌈/⌉ k)) :
    Leafed supply read OffsetPage.next? w (.ofNat start)
      ((List.range' start (count + 1)).map fun page => shown (.ofNat page)) := by
  have hstart : (UInt32.ofNat start).toNat = start :=
    UInt32.toNat_ofNat_of_lt' (show start < 2 ^ 32 by omega)
  have hnext : (shown (.ofNat start)).hasNextPage ↔ start + 1 < listing.length ⌈/⌉ k := by
    rw [(hshows _).hasNextPage, hstart, Paging.lt_ceilDiv_iff hk]
  -- on the number of pages behind this one
  induction count generalizing start with
  | zero =>
    have hlast : ¬ (shown (.ofNat start)).hasNextPage := fun h => by
      have hlt := hnext.1 h
      omega
    exact .last (hread _) (if_neg hlast)
  | succ count ih =>
    have hmore : (shown (.ofNat start)).hasNextPage := hnext.2 (by omega)
    have hpage : (shown (.ofNat start)).page = .ofNat start :=
      UInt32.toNat_inj.1 (hshows _).page
    have hsucc : (UInt32.ofNat start + 1 : UInt32) = .ofNat (start + 1) := (UInt32.ofNat_add ..).symm
    have hstart' : (UInt32.ofNat (start + 1)).toNat = start + 1 :=
      UInt32.toNat_ofNat_of_lt' (show start + 1 < 2 ^ 32 by omega)
    have hturn : (shown (.ofNat start)).next? = some (.ofNat (start + 1)) := by
      rw [OffsetPage.next?, if_pos hmore, hpage, hsucc]
    refine .turn (hread _) hturn (ih (by omega) hstart' ?_)
    rw [(hshows _).hasNextPage, hstart', Paging.lt_ceilDiv_iff hk]

/-- What can be relied on when a listing is read page by page while nothing changes. -/
def Paged (supply : Supply) (w : World Store) (listing : List α)
    (read : UInt32 → UInt32 → Desk (OffsetPage α)) : Prop :=
  ∀ limit : UInt32,
    let k := max 1 (min limit.toNat 100)
    let count := listing.length ⌈/⌉ k
    ∃ shown : UInt32 → OffsetPage α,
      (∀ page, run .memory supply (read page limit).run w = (.ok (shown page), w) ∧
        (shown page).Shows listing k page.toNat) ∧
      (count ≤ 2 ^ 32 →
        ((List.range count).flatMap fun page => (shown (.ofNat page)).items) = listing ∧
        ∀ pages, Leafed supply (read · limit) OffsetPage.next? w 0 pages ↔
          pages = (List.range (max 1 count)).map fun page => shown (.ofNat page))

omit [Recorded α] in
/-- Pages that show what they should are all that can be relied on. -/
theorem paged_of_shows {read : UInt32 → UInt32 → Desk (OffsetPage α)}
    {shown : UInt32 → UInt32 → OffsetPage α}
    (hread : ∀ page limit, run .memory supply (read page limit).run w = (.ok (shown page limit), w))
    (hshows : ∀ page limit,
      (shown page limit).Shows listing (max 1 (min limit.toNat 100)) page.toNat) :
    Paged supply w listing read := by
  intro limit k count
  have hk : 0 < k := Nat.lt_of_lt_of_le Nat.one_pos (Nat.le_max_left ..)
  refine ⟨fun page => shown page limit, fun page => ⟨hread page limit, hshows page limit⟩,
    fun hfit => ⟨?_, fun pages => ?_⟩⟩
  · have hitems : ∀ page ∈ List.range count, (shown (.ofNat page) limit).items =
        listing.extract (page * k) (min listing.length ((page + 1) * k)) := by
      intro page hpage
      have hlt : page < 2 ^ 32 := Nat.lt_of_lt_of_le (List.mem_range.1 hpage) hfit
      rw [(hshows _ _).items, UInt32.toNat_ofNat_of_lt' hlt]
    rw [List.flatMap_congr hitems]
    exact flatMap_extract listing k (by rw [Nat.mul_comm]; exact le_smul_ceilDiv hk)
  · have hall : Leafed supply (read · limit) OffsetPage.next? w 0
        ((List.range (max 1 count)).map fun page => shown (.ofNat page) limit) := by
      obtain ⟨behind, hbehind⟩ : ∃ behind, max 1 count = behind + 1 := ⟨max 1 count - 1, by omega⟩
      rw [hbehind, List.range_eq_range']
      refine leafed_range' hk (hread · limit) (hshows · limit) hfit ?_
      rw [Nat.zero_add]
      exact hbehind.symm
    constructor
    · exact hall.unique
    · rintro rfl
      exact hall

/-- Pages that are cut from the records that are meant show the listing of these. -/
theorem paged_of_readsPages {records : Store → List α}
    {read : UInt32 → UInt32 → Desk (OffsetPage α)} (hread : ReadsPages supply read records)
    (hasc : (records w.storage).Pairwise fun a b => Recorded.id a < Recorded.id b)
    (hmem : ∀ a, a ∈ records w.storage ↔ meant a) :
    ∃ listing, Listing.Newest meant listing ∧
      (listing.length < 2 ^ 63 → Paged supply w listing read) := by
  refine ⟨_, Listing.newest_mergeSort hasc hmem, fun h => ?_⟩
  refine paged_of_shows (hread · · w) fun page limit => ?_
  have hshows := OffsetPage.shows_of ⟨page, .clamp limit⟩ h
  rwa [List.length_mergeSort] at hshows

/-- Whatever statements have made of the store:

* the events that are stored and have a status, and the requests that are stored and meet the
  conditions of a filter, can be listed and the listing can be read page by page, with any limit and
  any page number;
* the listing of the rewards that are stored and meet the conditions of a filter can be read from
  any row on;
* no number of a window starts over at zero, and only rows behind the last signed word are
  rounded.

The first two hold as long as a signed word can count the listing. -/
theorem offset_pages_partition (supply : Supply) (statements : List Statement) (w : World Store) :
    let s := Store.after statements
    let w := { w with storage := s }
    (∀ status, ∃ listing, Listing.Newest (s.HoldsEvent status) listing ∧
      (listing.length < 2 ^ 63 → Paged supply w listing (eventPage status))) ∧
    (∀ f : RequestFilter, ∃ listing, Listing.Newest (s.HoldsRequest f) listing ∧
      (listing.length < 2 ^ 63 → Paged supply w listing (requestPage f))) ∧
    (∀ f : RewardFilter, ∃ listing, Listing.Newest (s.HoldsReward f) listing ∧
      (listing.length < 2 ^ 63 → ∀ (limit : UInt32) (offset : UInt64),
        ∃ shown, run .memory supply (Rewards.list ⟨f.type, f.name, limit, offset⟩).run w =
            (.ok shown, w) ∧
          shown.rewards = listing.extract offset.toNat
            (min listing.length (offset.toNat + max 1 (min limit.toNat 100))) ∧
          shown.total.toNat = listing.length)) ∧
    (∀ p : PageParams, p.window.offset.toInt = (p.page.toNat * p.limit.size : Nat) ∧
      p.window.limit.toInt = p.limit.size) ∧
    ∀ (limit : PageLimit) (offset : UInt64),
      (Window.ofRow limit offset).offset.toInt = (min offset.toNat (2 ^ 63 - 1) : Nat) ∧
      (Window.ofRow limit offset).limit.toInt = limit.size := by
  intro s w
  have hfiled : s.Filed := Store.filed_after statements
  have hevents : s.events.Filed := Store.filed_events_after statements
  refine ⟨fun status => ?_, fun f => ?_, fun f => ?_,
    fun p => ⟨p.toInt_offset, p.limit.toInt_toInt64⟩,
    fun limit offset => ⟨Window.toInt_offset_ofRow limit offset, limit.toInt_toInt64⟩⟩
  · exact paged_of_readsPages (readsPages_events supply status) (hevents.ascending.filter _)
      fun _ => Store.mem_eventsOf hevents
  · exact paged_of_readsPages (readsPages_requests supply f) (hfiled.requestsOf f)
      fun _ => Store.mem_requestsOf hfiled
  · refine ⟨_, Listing.newest_mergeSort (hfiled.rewardsOf f) fun _ => Store.mem_rewardsOf hfiled,
      fun h limit offset => ⟨_, rfl, Window.cut_ofRow (.clamp limit) offset h, ?_⟩⟩
    show (UInt64.ofNat (s.rewardsOf f).length).toNat = _
    rw [List.length_mergeSort] at h ⊢
    exact UInt64.toNat_ofNat_of_lt' (Nat.lt_trans h (by decide))

/-- An event with an id, a status and an age, which is all that a listing looks at. -/
def eventOf (id : String) (status : EventStatus) (createdAt : Instant) : Event :=
  ⟨id, id, none, none, default, default, status, createdAt, default⟩

/-- Statements that enter events of both statuses, requests for two events, of which one is
approved, and rewards of different types and names. -/
def entries : List Statement := [
  .createEvent (eventOf "x" .active ⟨1, 0⟩),
  .createEvent (eventOf "y" .inactive ⟨2, 0⟩),
  .createEvent (eventOf "z" .active ⟨3, 0⟩),
  .createPending (.newPending "b" "u" "e" ⟨7, 0⟩),
  .createPending (.newPending "a" "v" "e" ⟨7, 0⟩),
  .createPending (.newPending "c" "w" "e" ⟨3, 5⟩),
  .createPending (.newPending "d" "u" "f" ⟨8, 0⟩),
  .createPending (.newPending "g" "t" "e" ⟨9, 0⟩),
  .transition "g" .approved ⟨9, 1⟩,
  .createReward ⟨"p", "Silver", none, .point 1, default, default⟩,
  .createReward ⟨"q", "Golden", none, .badge "x", default, default⟩,
  .createReward ⟨"r", "GOLDEN", none, .point 1, default, default⟩]

/-- Pages leave out the event of the other status, the request for the other event and the one that
is no longer pending, and the rewards of another type or name. In pages of two, `b` and `a` come
before `c`. -/
theorem offset_pages_partition_of_entries :
    let supply : Supply := ⟨fun _ => "", fun _ => default⟩
    let s := Store.after entries
    let w : World Store := { storage := s, channel := .ofCapacity 1 }
    (∃ pages, Leafed supply (eventPage (some .active) · 1) OffsetPage.next? w 0 pages ∧
      pages.map (fun page => page.items.map (·.id)) = [["z"], ["x"]]) ∧
    (∃ pages, Leafed supply (requestPage ⟨none, some "e", some .pending⟩ · 2) OffsetPage.next? w 0
        pages ∧ pages.map (fun page => page.items.map (·.id)) = [["b", "a"], ["c"]]) ∧
    ∀ offset : UInt64, ∃ shown,
      run .memory supply (Rewards.list ⟨some .point, some "old", 0, offset⟩).run w = (.ok shown, w) ∧
        shown.rewards.map (·.id) = (if offset = 0 then ["r"] else []) ∧ shown.total.toNat = 1 := by
  intro supply s w
  have hfiled : s.Filed := Store.filed_after entries
  have hevents : s.events.Filed := Store.filed_events_after entries
  obtain ⟨hstatus, hpaged, hrows, -⟩ := offset_pages_partition supply entries w
  refine ⟨?_, ?_, ?_⟩
  · obtain ⟨listing, hlisting, hpages⟩ := hstatus (some .active)
    obtain rfl : [eventOf "z" .active ⟨3, 0⟩, eventOf "x" .active ⟨1, 0⟩] = listing := by
      refine Eq.trans ?_ (hlisting.unique (Listing.newest_mergeSort (hevents.ascending.filter _)
        fun _ => Store.mem_eventsOf hevents))
      cbv
    obtain ⟨shown, hshown, hfit⟩ := hpages (by decide) 1
    refine ⟨_, ((hfit (by decide)).2 _).2 rfl, ?_⟩
    have hfirst : (shown 0).items = [_] := (hshown 0).2.items
    have hsecond : (shown 1).items = [_] := (hshown 1).2.items
    show [(shown 0).items.map (·.id), (shown 1).items.map (·.id)] = _
    rw [hfirst, hsecond]
    rfl
  · obtain ⟨listing, hlisting, hpages⟩ := hpaged ⟨none, some "e", some .pending⟩
    obtain rfl : [.newPending "b" "u" "e" ⟨7, 0⟩, .newPending "a" "v" "e" ⟨7, 0⟩,
        .newPending "c" "w" "e" ⟨3, 5⟩] = listing := by
      refine Eq.trans ?_ (hlisting.unique (Listing.newest_mergeSort (hfiled.requestsOf _)
        fun _ => Store.mem_requestsOf hfiled))
      cbv
    obtain ⟨shown, hshown, hfit⟩ := hpages (by decide) 2
    refine ⟨_, ((hfit (by decide)).2 _).2 rfl, ?_⟩
    have hfirst : (shown 0).items = [_, _] := (hshown 0).2.items
    have hsecond : (shown 1).items = [_] := (hshown 1).2.items
    show [(shown 0).items.map (·.id), (shown 1).items.map (·.id)] = _
    rw [hfirst, hsecond]
    rfl
  · obtain ⟨listing, hlisting, hread⟩ := hrows ⟨some .point, some "old"⟩
    obtain rfl : [⟨"r", "GOLDEN", none, .point 1, default, default⟩] = listing := by
      refine Eq.trans ?_ (hlisting.unique (Listing.newest_mergeSort (hfiled.rewardsOf _)
        fun _ => Store.mem_rewardsOf hfiled))
      cbv
    intro offset
    obtain ⟨shown, hrun, hitems, htotal⟩ := hread (by decide) 0 offset
    refine ⟨shown, hrun, ?_, htotal⟩
    rw [hitems]
    split
    · subst offset
      rfl
    · have hrow : 1 ≤ offset.toNat := Nat.pos_of_ne_zero fun h => absurd (UInt64.toNat_inj.1 h) ‹_›
      rw [List.extract, List.drop_of_length_le hrow, List.take_nil]
      rfl

end World
end RewardDesk
