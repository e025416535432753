import RewardDesk.Proofs.Paging.Cursor
import RewardDesk.Proofs.Store.Filed

/-!
# What a page by cursor holds

A page shows the first of the records behind its cursor. It is the last page of the walk, and shows
them all, or there are more records behind its last item, whose id the next cursor names
(`CursorPage.ofFetched_cases`).
-/

namespace RewardDesk

variable {α : Type} [Recorded α]

/-! ## Behind a cursor

Records come out of a table in the order of their ids. To sort what is behind a cursor therefore
changes nothing. -/

namespace Listing

theorem isBehind_iff {after : Option String} {a : α} :
    isBehind after a ↔ ∀ id ∈ after, id < Recorded.id a := by
  cases after with
  | none => simp [isBehind]
  | some id => simp [isBehind, compare_eq_lt]

theorem mem_filter_isBehind {records : List α} {after : Option String} {a : α} :
    a ∈ records.filter (isBehind after) ↔ a ∈ records ∧ ∀ id ∈ after, id < Recorded.id a := by
  rw [List.mem_filter, isBehind_iff]

/-- Of records in ascending order of their ids, those behind a cursor need not be sorted. -/
theorem walk_of_ascending {records : List α}
    (h : records.Pairwise fun a b => Recorded.id a < Recorded.id b) (q : CursorQuery) :
    walk q records = (records.filter (isBehind q.afterId)).take q.fetchLimit.toInt.toNat := by
  have hsorted : (records.filter (isBehind q.afterId)).Pairwise fun a b => idAscending a b := by
    refine (h.filter _).imp fun hlt => ?_
    rw [idAscending, compare_eq_lt.2 hlt]
    rfl
  rw [walk, List.mergeSort_of_pairwise hsorted]

end Listing

/-! ## What was fetched

One record more is fetched than fits on the page, and whether it is there tells whether there is
another page. -/

theorem CursorParams.fetchLimit_query (p : CursorParams) :
    p.query.fetchLimit.toInt.toNat = p.limit.size + 1 := by
  have hmax := p.limit.le_max
  rw [query, Int64.toInt_ofNat_of_lt (by omega), Int.toNat_natCast]

/-- All that a page can be, where `rest` are the records behind its cursor. -/
theorem CursorPage.ofFetched_cases {records rest : List α} {p : CursorParams}
    (h : records.Pairwise fun a b => Recorded.id a < Recorded.id b)
    (hrest : records.filter (Listing.isBehind p.afterId) = rest) :
    (rest.length ≤ p.limit.size ∧ ofFetched Recorded.id (Listing.walk p.query records) p.limit =
        { items := rest, nextCursor := none, hasMore := false }) ∨
      ∃ init last more, rest = init ++ last :: more ∧ init.length + 1 = p.limit.size ∧ more ≠ [] ∧
        ofFetched Recorded.id (Listing.walk p.query records) p.limit =
          { items := init ++ [last]
            nextCursor := some (Cursor.encode (Recorded.id last)), hasMore := true } := by
  have hpos := p.limit.pos
  have hwalk : Listing.walk p.query records = rest.take (p.limit.size + 1) := by
    rw [Listing.walk_of_ascending h, p.fetchLimit_query, CursorParams.query, hrest]
  rw [hwalk, ofFetched]
  by_cases hlen : rest.length ≤ p.limit.size
  · left
    have htake : rest.take (p.limit.size + 1) = rest := List.take_of_length_le (by omega)
    rw [htake, if_neg (by omega)]
    exact ⟨hlen, rfl⟩
  · right
    -- There is one record more than fits: the page ends with the record at `k`.
    obtain ⟨k, hk⟩ : ∃ k, p.limit.size = k + 1 := ⟨p.limit.size - 1, by omega⟩
    rw [hk] at hlen ⊢
    have hlast : k < rest.length := by omega
    have hitems : (rest.take (k + 1 + 1)).take (k + 1) = rest.take k ++ [rest[k]] := by
      rw [List.take_take, Nat.min_eq_left (by omega), List.take_append_getElem hlast]
    refine ⟨rest.take k, rest[k], rest.drop (k + 1), ?_, ?_, ?_, ?_⟩
    · rw [← List.drop_eq_getElem_cons hlast, List.take_append_drop]
    · rw [List.length_take, Nat.min_eq_left (by omega)]
    · rw [ne_eq, List.drop_eq_nil_iff]
      omega
    · have hmore : k + 1 < (rest.take (k + 1 + 1)).length := by
        rw [List.length_take]
        omega
      rw [if_pos hmore]
      simp only [hitems, List.getLast?_concat, Option.map_some]

end RewardDesk
