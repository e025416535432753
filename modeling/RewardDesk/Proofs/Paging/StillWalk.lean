import RewardDesk.Proofs.Paging.Leafing
import RewardDesk.Proofs.Paging.Walk
import RewardDesk.Proofs.Text.Order

/-!
# Walks through a store that stays as it is

A page by cursor holds the first of the records behind its cursor and says truly whether there are
more (`CursorPage.Shows`); what cannot be read as a cursor counts as none. While nothing changes,
each page leaves to the next one exactly what it could not hold. So a walk ends, after as many pages
as the records fill (`World.still_walk_ends`).
-/

namespace RewardDesk

variable {α : Type} [Recorded α]

/-! ## Behind a cursor

What is behind an id, of the records that are meant, is unique as a list. So it does not matter how
the storage arrives at it. -/

namespace Listing

/-- The records that are meant and are behind an id, or all that are meant if there is no id, in the
order of the bytes of their ids. -/
structure Behind (meant : α → Prop) (after : Option String) (rest : List α) : Prop where
  mem_iff : ∀ a, a ∈ rest ↔ meant a ∧ ∀ id ∈ after, Text.bytes id < Text.bytes (Recorded.id a)
  sorted : rest.Pairwise fun a b => Text.bytes (Recorded.id a) < Text.bytes (Recorded.id b)

variable {meant : α → Prop} {records : List α}

theorem behind_filter (h : records.Pairwise fun a b => Recorded.id a < Recorded.id b)
    (hmem : ∀ a, a ∈ records ↔ meant a) (after : Option String) :
    Behind meant after (records.filter (isBehind after)) where
  mem_iff a := by
    simp only [mem_filter_isBehind, Text.bytes_lt_bytes, hmem]
  sorted := (h.filter _).imp Text.bytes_lt_bytes.2

/-- There is only one way to list what is behind an id. -/
theorem Behind.unique {after : Option String} {rest other : List α} (h : Behind meant after rest)
    (hother : Behind meant after other) : other = rest := by
  have hmem : ∀ a, a ∈ other ↔ a ∈ rest := fun a => (hother.mem_iff a).trans (h.mem_iff a).symm
  have hirrefl : Std.Irrefl fun a b : α => Text.bytes (Recorded.id a) < Text.bytes (Recorded.id b) :=
    ⟨fun _ => List.lt_irrefl _⟩
  have hantisymm :
      Std.Antisymm fun a b : α => Text.bytes (Recorded.id a) < Text.bytes (Recorded.id b) :=
    ⟨fun _ _ hab hba => absurd hba (List.lt_asymm hab)⟩
  exact hother.sorted.eq_of_mem_iff h.sorted hmem

/-- What is behind the last item of a page is what the page could not hold. -/
theorem filter_isBehind_last {after : Option String} {init more : List α} {last : α}
    (h : records.Pairwise fun a b => Recorded.id a < Recorded.id b)
    (hrest : records.filter (isBehind after) = init ++ last :: more) :
    records.filter (isBehind (some (Recorded.id last))) = more := by
  have hlast : ∀ id ∈ after, id < Recorded.id last :=
    (mem_filter_isBehind.1 (hrest ▸ List.mem_append_right init List.mem_cons_self)).2
  -- whatever is behind the last item is behind the cursor of this page
  have hfilter : records.filter (isBehind (some (Recorded.id last))) =
      (records.filter (isBehind after)).filter (isBehind (some (Recorded.id last))) := by
    rw [List.filter_filter]
    refine List.filter_congr fun a _ => ?_
    rw [Bool.eq_iff_iff, Bool.and_eq_true, isBehind_iff, isBehind_iff]
    refine ⟨fun hid => ⟨hid, fun id hafter => ?_⟩, And.left⟩
    exact String.lt_trans (hlast id hafter) (hid _ rfl)
  obtain ⟨-, htail, hcross⟩ := List.pairwise_append.1 (hrest ▸ h.filter (isBehind after))
  have hinit : init.filter (isBehind (some (Recorded.id last))) = [] := by
    refine List.filter_eq_nil_iff.2 fun a ha hbehind => ?_
    exact String.lt_asymm (hcross a ha last List.mem_cons_self) (isBehind_iff.1 hbehind _ rfl)
  have hmore : more.filter (isBehind (some (Recorded.id last))) = more := by
    refine List.filter_eq_self.2 fun a ha => isBehind_iff.2 fun id hid => ?_
    obtain rfl := Option.some.inj hid
    exact (List.pairwise_cons.1 htail).1 a ha
  have hself : isBehind (some (Recorded.id last)) last = false :=
    Bool.eq_false_iff.2 fun hbehind => String.lt_irrefl _ (isBehind_iff.1 hbehind _ rfl)
  rw [hfilter, hrest, List.filter_append, hinit, List.nil_append, List.filter_cons, hself, hmore]
  rfl

end Listing

/-! ## What a page shows

`Shows` says of a page by itself what is on it and what it tells of the pages behind it. -/

namespace CursorPage

/-- What is on a page of at most `k` items, and said of what is behind it. -/
structure Shows (page : CursorPage α) (rest : List α) (k : Nat) : Prop where
  items : page.items = rest.take k
  hasMore : page.hasMore ↔ k < rest.length
  nextCursor : page.nextCursor = none ↔ page.hasMore = false
  leads : ∀ cursor ∈ page.nextCursor, ∃ last ∈ page.items.getLast?,
    Cursor.decode cursor = some (Recorded.id last)

theorem shows_ofFetched {records : List α} {p : CursorParams}
    (h : records.Pairwise fun a b => Recorded.id a < Recorded.id b)
    (hids : ∀ a ∈ records, Recorded.id a ≠ "") :
    (ofFetched Recorded.id (Listing.walk p.query records) p.limit).Shows
      (records.filter (Listing.isBehind p.afterId)) p.limit.size := by
  rcases ofFetched_cases (p := p) h rfl with
    ⟨hlen, hpage⟩ | ⟨init, last, more, hrest, hsize, hmore, hpage⟩
  · rw [hpage]
    constructor
    case items => exact (List.take_of_length_le hlen).symm
    case hasMore => simpa using hlen
    case nextCursor => simp
    case leads => exact nofun
  · have hlast : last ∈ init ++ last :: more := List.mem_append_right init List.mem_cons_self
    rw [← hrest] at hlast
    have hne : Recorded.id last ≠ "" := hids last (List.mem_filter.1 hlast).1
    have hlen := List.length_pos_of_ne_nil hmore
    rw [hpage, hrest, ← hsize]
    constructor
    case items =>
      rw [List.append_cons init last more, List.take_left' (by simp)]
    case hasMore =>
      simp only [List.length_append, List.length_cons, true_iff]
      omega
    case nextCursor => simp
    case leads =>
      intro cursor hcursor
      obtain rfl := Option.some.inj hcursor
      exact ⟨last, List.getLast?_concat .., Cursor.decode_encode_of_ne hne⟩

/-- The cursor of the page behind this one. -/
def next? (page : CursorPage α) : Option (Option String) := page.nextCursor.map some

end CursorPage

/-! ## Whole walks

While nothing changes, the induction is on the number of records behind the cursor: every page but
the last takes as many of them away as its limit says. -/

namespace World

variable {supply : Supply} {w : World Store} {records : Store → List α} {meant : α → Prop}
  {read : Option String → Option UInt32 → Desk (CursorPage α)}

/-- From a cursor on, the pages of a walk show what is behind the cursor, and there are as many of
them as that fills. -/
theorem leafed_behind (hread : Reads supply read records)
    (hasc : (records w.storage).Pairwise fun a b => Recorded.id a < Recorded.id b)
    (hids : ∀ a ∈ records w.storage, Recorded.id a ≠ "") (limit : Option UInt32) {rest : List α}
    {cursor : Option String}
    (hrest : (records w.storage).filter (Listing.isBehind (cursor.bind Cursor.decode)) = rest) :
    ∃ pages, Leafed supply (read · limit) CursorPage.next? w cursor pages ∧
      pages.length = max 1 (rest.length ⌈/⌉ (CursorParams.of cursor limit).limit.size) ∧
      pages.flatMap (·.items) = rest := by
  have hpos : 0 < (CursorParams.of cursor limit).limit.size := PageLimit.pos _
  -- on how much is behind the cursor
  induction hlen : rest.length using Nat.strongRecOn generalizing rest cursor with
  | ind n ih =>
    subst hlen
    have hpage := hread cursor limit w
    rcases CursorPage.ofFetched_cases (p := .of cursor limit) hasc hrest with
      ⟨hsize, heq⟩ | ⟨init, last, more, rfl, hsize, hmore, heq⟩
    · simp only [heq] at hpage
      refine ⟨_, .last hpage rfl, ?_, List.append_nil _⟩
      have hone : ¬ 1 < rest.length ⌈/⌉ (CursorParams.of cursor limit).limit.size := by
        rw [Paging.lt_ceilDiv_iff hpos]
        omega
      rw [List.length_singleton]
      omega
    · simp only [heq] at hpage
      have hlast : last ∈ init ++ last :: more := List.mem_append_right init List.mem_cons_self
      rw [← hrest] at hlast
      have hne : Recorded.id last ≠ "" := hids last (List.mem_filter.1 hlast).1
      have hbehind : (records w.storage).filter (Listing.isBehind
          ((some (Cursor.encode (Recorded.id last))).bind Cursor.decode)) = more := by
        rw [Option.bind_some, Cursor.decode_encode_of_ne hne]
        exact Listing.filter_isBehind_last hasc hrest
      obtain ⟨pages, hleafed, hcount, hitems⟩ := ih more.length (by simp; omega) hbehind hpos rfl
      refine ⟨_, .turn hpage rfl hleafed, ?_, ?_⟩
      · have hlength : (init ++ last :: more).length =
            (CursorParams.of cursor limit).limit.size + more.length := by
          rw [← hsize, List.length_append, List.length_cons]
          omega
        rw [List.length_cons, hcount, hlength,
          Paging.max_ceilDiv_add hpos (List.length_pos_of_ne_nil hmore)]
        rfl
      · rw [List.flatMap_cons, hitems, List.append_assoc, List.singleton_append]

/-- What can be relied on when the records that are meant are read by cursor while nothing
changes. -/
def Walked (supply : Supply) (w : World Store) (meant : α → Prop)
    (read : Option String → Option UInt32 → Desk (CursorPage α)) : Prop :=
  ∀ limit : Option UInt32,
    let k := max 1 (min (limit.getD 10).toNat 100)
    (∀ cursor, ∃ page rest, run .memory supply (read cursor limit).run w = (.ok page, w) ∧
      Listing.Behind meant (cursor.bind Cursor.decode) rest ∧ page.Shows rest k) ∧
    ∃ listing pages, Listing.Behind meant none listing ∧
      (∀ others, Leafed supply (read · limit) CursorPage.next? w none others ↔ others = pages) ∧
      pages.length = max 1 (listing.length ⌈/⌉ k) ∧ pages.flatMap (·.items) = listing

theorem walked_of_reads (hread : Reads supply read records)
    (hasc : (records w.storage).Pairwise fun a b => Recorded.id a < Recorded.id b)
    (hmem : ∀ a, a ∈ records w.storage ↔ meant a)
    (hids : ∀ a ∈ records w.storage, Recorded.id a ≠ "") : Walked supply w meant read := by
  intro limit k
  refine ⟨fun cursor => ⟨_, _, hread cursor limit w, Listing.behind_filter hasc hmem _,
    CursorPage.shows_ofFetched hasc hids⟩, ?_⟩
  have hfirst : (records w.storage).filter
      (Listing.isBehind ((none : Option String).bind Cursor.decode)) =
        (records w.storage).filter (Listing.isBehind none) := rfl
  obtain ⟨pages, hleafed, hcount, hitems⟩ := leafed_behind hread hasc hids limit hfirst
  refine ⟨_, pages, Listing.behind_filter hasc hmem none, fun others => ⟨hleafed.unique, ?_⟩,
    hcount, hitems⟩
  rintro rfl
  exact hleafed

/-- Any listing of the records that are meant is what the pages of a walk show. -/
theorem Walked.leafed (h : Walked supply w meant read) (limit : Option UInt32) {listing : List α}
    (hlisting : Listing.Behind meant none listing) :
    ∃ pages, Leafed supply (read · limit) CursorPage.next? w none pages ∧
      pages.length = max 1 (listing.length ⌈/⌉ max 1 (min (limit.getD 10).toNat 100)) ∧
      pages.flatMap (·.items) = listing := by
  obtain ⟨-, other, pages, hother, hleafed, hcount, hitems⟩ := h limit
  obtain rfl := hother.unique hlisting
  exact ⟨pages, (hleafed pages).2 rfl, hcount, hitems⟩

/-- Whatever statements have made of the store, the rewards and the requests that are stored and
meet the conditions of a filter can be walked through by cursor, as long as no record has the empty
id. -/
theorem still_walk_ends (supply : Supply) (statements : List Statement) (w : World Store) :
    let s := Store.after statements
    let w := { w with storage := s }
    (∀ f : RewardFilter, (∀ r ∈ s.rewards.values, r.id ≠ "") →
      Walked supply w (s.HoldsReward f) (Rewards.page f)) ∧
    ∀ f : RequestFilter, (∀ r ∈ s.requests.requests.values, r.id ≠ "") →
      Walked supply w (s.HoldsRequest f) (Requests.page f) := by
  intro s w
  have hfiled : s.Filed := Store.filed_after statements
  constructor
  · intro f hids
    exact walked_of_reads (reads_rewards supply f) (hfiled.rewardsOf f)
      (fun _ => Store.mem_rewardsOf hfiled) fun r hr => hids r (List.mem_filter.1 hr).1
  · intro f hids
    exact walked_of_reads (reads_requests supply f) (hfiled.requestsOf f)
      (fun _ => Store.mem_requestsOf hfiled) fun r hr => hids r (List.mem_filter.1 hr).1

/-- Statements that enter four rewards and four requests. -/
def shelf : List Statement := [
  .createReward ⟨"a", "Gold", none, .point 1, default, default⟩,
  .createReward ⟨"c", "Old gold", none, .badge "x", default, default⟩,
  .createReward ⟨"b", "GOLD", none, .point 2, default, default⟩,
  .createReward ⟨"d", "Silver", none, .point 2, default, default⟩,
  .createPending (.newPending "q" "u" "e" default),
  .createPending (.newPending "p" "v" "e" default),
  .createPending (.newPending "s" "w" "e" default),
  .createPending (.newPending "r" "u" "f" default)]

/-- In pages of two, the three rewards with gold in their name fill two pages, and so do the three
requests for the one event. -/
theorem still_walk_ends_of_shelf :
    let supply : Supply := ⟨fun _ => "", fun _ => default⟩
    let s := Store.after shelf
    let w : World Store := { storage := s, channel := .ofCapacity 1 }
    ((∀ r ∈ s.rewards.values, r.id ≠ "") ∧
      ∃ pages, Leafed supply (Rewards.page ⟨none, some "gold"⟩ · (some 2)) CursorPage.next? w none
        pages ∧ pages.length = 2 ∧
          pages.flatMap (fun page => page.items.map (·.id)) = ["a", "b", "c"]) ∧
    (∀ r ∈ s.requests.requests.values, r.id ≠ "") ∧
      ∃ pages, Leafed supply (Requests.page ⟨none, some "e", none⟩ · (some 2)) CursorPage.next? w
        none pages ∧ pages.length = 2 ∧
          pages.flatMap (fun page => page.items.map (·.id)) = ["p", "q", "s"] := by
  intro supply s w
  have hfiled : s.Filed := Store.filed_after shelf
  have hrewards : ∀ r ∈ s.rewards.values, r.id ≠ "" := by decide +kernel
  have hrequests : ∀ r ∈ s.requests.requests.values, r.id ≠ "" := by decide +kernel
  obtain ⟨hwalked, hwalked'⟩ := still_walk_ends supply shelf w
  refine ⟨⟨hrewards, ?_⟩, hrequests, ?_⟩
  · let f : RewardFilter := ⟨none, some "gold"⟩
    obtain ⟨pages, hleafed, hcount, hitems⟩ := (hwalked f hrewards).leafed (some 2)
      (Listing.behind_filter (hfiled.rewardsOf f) (fun _ => Store.mem_rewardsOf hfiled) none)
    refine ⟨pages, hleafed, ?_, ?_⟩
    · rw [hcount]
      cbv
    · rw [← List.map_flatMap, hitems]
      cbv
  · let f : RequestFilter := ⟨none, some "e", none⟩
    obtain ⟨pages, hleafed, hcount, hitems⟩ := (hwalked' f hrequests).leafed (some 2)
      (Listing.behind_filter (hfiled.requestsOf f) (fun _ => Store.mem_requestsOf hfiled) none)
    refine ⟨pages, hleafed, ?_, ?_⟩
    · rw [hcount]
      cbv
    · rw [← List.map_flatMap, hitems]
      cbv

end World
end RewardDesk
