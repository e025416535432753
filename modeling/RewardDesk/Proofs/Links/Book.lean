import Mathlib.Data.List.Basic
import RewardDesk.Proofs.Store.Filed

/-!
# The book of links as a set of pairs

A link stands under the ids of its event and its reward, joined by a zero character. Two pairs have
the same key only if an id of each has such a character in it (`LinkBook.key_inj`). In a book whose
links have none (`LinkBook.Plain`) the key of a pair therefore finds a link of that pair or nothing,
whatever the pair, and the book is the set of its pairs (`LinkBook.Has`).

The rewards of an event are looked up by their ids, and come out sorted and each once
(`Store.once_rewardsById`), with nothing left out (`Store.mem_rewardsById`).
-/

namespace RewardDesk

/-- Is there no zero character in the text? -/
def Text.ZeroFree (text : String) : Prop := '\x00' ∉ text.toList

namespace LinkBook

variable {b : LinkBook} {e r e' r' : String} {l : Link}

/-- Is there a link of this event and this reward? -/
def Has (b : LinkBook) (eventId rewardId : String) : Prop :=
  ∃ key l, b.links.get? key = some l ∧ l.eventId = eventId ∧ l.rewardId = rewardId

/-- The rewards of an event are those of its pairs. -/
theorem mem_rewardIds : r ∈ b.rewardIds e ↔ b.Has e r := by
  simp only [rewardIds, List.mem_map, List.mem_mergeSort, List.mem_filter, decide_eq_true_eq,
    Table.mem_values]
  constructor
  · rintro ⟨l, ⟨⟨k, hget⟩, he⟩, hr⟩
    exact ⟨k, l, hget, he, hr⟩
  · rintro ⟨k, l, hget, he, hr⟩
    exact ⟨l, ⟨⟨k, hget⟩, he⟩, hr⟩

/-- A link is refused because of one with its key, or it is entered. -/
theorem add_cases (b : LinkBook) (l : Link) :
    ((b.links.get? (key l.eventId l.rewardId)).isSome ∧ b.add l = (false, b)) ∨
      (b.links.get? (key l.eventId l.rewardId) = none ∧
        b.add l = (true, ⟨b.links.set (key l.eventId l.rewardId) l⟩)) := by
  rw [add, Table.setIfAbsent, Table.contains]
  cases b.links.get? (key l.eventId l.rewardId) with
  | none => exact .inr ⟨rfl, rfl⟩
  | some other => exact .inl ⟨rfl, rfl⟩

/-- Pairs without zero characters share their keys with no other pair. -/
theorem key_inj (he : Text.ZeroFree e') (hr : Text.ZeroFree r') :
    key e r = key e' r' ↔ e = e' ∧ r = r' := by
  have hlists : key e r = key e' r' ↔
      e'.toList ++ '\x00' :: r'.toList = e.toList ++ '\x00' :: r.toList := by
    rw [← String.toList_inj]
    simp [key, eq_comm]
  rw [hlists, List.append_cons_inj_of_notMem he hr, String.toList_inj, String.toList_inj]
  constructor
  · rintro ⟨rfl, -, rfl⟩
    exact ⟨rfl, rfl⟩
  · rintro ⟨rfl, rfl⟩
    exact ⟨rfl, rfl, rfl⟩

/-- Every link stands under its key, and there are no zero characters in its ids. -/
def Plain (b : LinkBook) : Prop := ∀ k l, b.links.get? k = some l →
  k = key l.eventId l.rewardId ∧ Text.ZeroFree l.eventId ∧ Text.ZeroFree l.rewardId

namespace Plain

/-- What is found under the key of a pair is a link of that pair. -/
theorem ids_of_get? (h : b.Plain) (hget : b.links.get? (key e r) = some l) :
    l.eventId = e ∧ l.rewardId = r := by
  obtain ⟨hkey, he, hr⟩ := h _ l hget
  exact ((key_inj he hr).1 hkey).imp Eq.symm Eq.symm

theorem has_iff (h : b.Plain) : b.Has e r ↔ ∃ l, b.links.get? (key e r) = some l := by
  constructor
  · rintro ⟨k, l, hget, rfl, rfl⟩
    obtain ⟨rfl, -⟩ := h k l hget
    exact ⟨l, hget⟩
  · rintro ⟨l, hget⟩
    exact ⟨_, l, hget, h.ids_of_get? hget⟩

theorem set (h : b.Plain) (he : Text.ZeroFree l.eventId) (hr : Text.ZeroFree l.rewardId) :
    Plain ⟨b.links.set (key l.eventId l.rewardId) l⟩ :=
  Table.forall_set h ⟨rfl, he, hr⟩

theorem erase (h : b.Plain) (k : String) : Plain ⟨b.links.erase k⟩ := Table.forall_erase h

/-- To enter a link adds its pair. -/
theorem has_set (h : b.Plain) (he : Text.ZeroFree l.eventId) (hr : Text.ZeroFree l.rewardId) :
    Has ⟨b.links.set (key l.eventId l.rewardId) l⟩ e r ↔
      (e = l.eventId ∧ r = l.rewardId) ∨ b.Has e r := by
  rw [(h.set he hr).has_iff, h.has_iff, ← key_inj he hr]
  simp only [Table.get?_set]
  by_cases hkey : key e r = key l.eventId l.rewardId
  · simp [hkey]
  · simp [hkey]

/-- To take a link out takes its pair out and no other. -/
theorem has_erase (h : b.Plain) (hhas : b.Has e' r') :
    Has ⟨b.links.erase (key e' r')⟩ e r ↔ b.Has e r ∧ ¬(e = e' ∧ r = r') := by
  obtain ⟨k, l, hget, rfl, rfl⟩ := hhas
  obtain ⟨-, he, hr⟩ := h k l hget
  rw [(h.erase _).has_iff, h.has_iff, ← key_inj he hr]
  simp only [Table.get?_erase]
  by_cases hkey : key e r = key l.eventId l.rewardId
  · simp [hkey]
  · simp [hkey]

end Plain
end LinkBook

/-! ## Sorted and each once

Ids may be asked for twice, and the rewards that are found are sorted and freed of repetitions.
Records with one id are one record here, since each stands under its own id. -/

namespace Listing

variable {α : Type}

theorem loop_eq_append (p : α → α → Bool) (a : α) (l acc : List α) :
    List.eraseRepsBy.loop p a l acc = acc.reverse ++ List.eraseRepsBy.loop p a l [] := by
  induction l generalizing a acc with
  | nil => simp [List.eraseRepsBy.loop]
  | cons b l ih =>
    rw [List.eraseRepsBy.loop, List.eraseRepsBy.loop]
    cases p a b with
    | true => exact ih a acc
    | false =>
      show List.eraseRepsBy.loop p b l (a :: acc) = acc.reverse ++ List.eraseRepsBy.loop p b l [a]
      rw [ih b (a :: acc), ih b [a]]
      simp

theorem eraseRepsBy_cons_cons (p : α → α → Bool) (a b : α) (l : List α) :
    (a :: b :: l).eraseRepsBy p =
      if p a b then (a :: l).eraseRepsBy p else a :: (b :: l).eraseRepsBy p := by
  show List.eraseRepsBy.loop p a (b :: l) [] = _
  rw [List.eraseRepsBy.loop]
  cases p a b with
  | true => rfl
  | false => exact loop_eq_append p b l [a]

variable [Recorded α]

theorem idAscending_trans (a b c : α) (hab : idAscending a b) (hbc : idAscending b c) :
    idAscending a c :=
  Std.TransCmp.isLE_trans hab hbc

theorem idAscending_total (a b : α) : idAscending a b || idAscending b a := by
  rw [idAscending, idAscending, Std.OrientedOrd.eq_swap]
  cases compare (Recorded.id b) (Recorded.id a) <;> rfl

theorem compare_lt_of_idAscending {a b : α} (h : idAscending a b)
    (hne : Recorded.id a ≠ Recorded.id b) : compare (Recorded.id a) (Recorded.id b) = .lt := by
  have hle : (compare (Recorded.id a) (Recorded.id b)).isLE := h
  cases hcompare : compare (Recorded.id a) (Recorded.id b) with
  | lt => rfl
  | eq => exact absurd (Std.LawfulEqOrd.eq_of_compare hcompare) hne
  | gt =>
    rw [hcompare] at hle
    exact absurd hle nofun

/-- All ids of a list, each once and ascending. -/
structure Once (records listing : List α) : Prop where
  sublist : listing.Sublist records
  ascending : listing.Pairwise fun a b => Recorded.id a < Recorded.id b
  complete : ∀ a ∈ records, ∃ b ∈ listing, Recorded.id b = Recorded.id a

theorem once_eraseRepsBy {a : α} {l : List α}
    (h : (a :: l).Pairwise fun a b => idAscending a b) :
    Once (a :: l) ((a :: l).eraseRepsBy fun a b => Recorded.id a = Recorded.id b) := by
  induction l generalizing a with
  | nil =>
    refine ⟨List.Sublist.refl _, List.pairwise_singleton _ a, fun b hb => ⟨b, hb, rfl⟩⟩
  | cons b l ih =>
    obtain ⟨ha, hb⟩ := List.pairwise_cons.1 h
    rw [eraseRepsBy_cons_cons]
    by_cases hid : Recorded.id a = Recorded.id b
    -- The second of two with the same id is left out, and the first stands for it.
    · rw [if_pos (decide_eq_true hid)]
      have hsub : (a :: l).Sublist (a :: b :: l) := (List.sublist_cons_self b l).cons_cons a
      obtain ⟨hsublist, hascending, hcomplete⟩ := ih (h.sublist hsub)
      refine ⟨hsublist.trans hsub, hascending, fun c hc => ?_⟩
      rcases List.mem_cons.1 hc with rfl | hc
      · exact hcomplete c List.mem_cons_self
      rcases List.mem_cons.1 hc with rfl | hc
      · rw [← hid]
        exact hcomplete a List.mem_cons_self
      · exact hcomplete c (List.mem_cons_of_mem a hc)
    · rw [if_neg (by simpa using hid)]
      obtain ⟨hsublist, hascending, hcomplete⟩ := ih hb
      refine ⟨hsublist.cons_cons a, List.pairwise_cons.2 ⟨fun c hc => ?_, hascending⟩, fun c hc => ?_⟩
      · have hlt := compare_lt_of_idAscending (ha b List.mem_cons_self) hid
        rcases List.mem_cons.1 (hsublist.subset hc) with rfl | hc
        · exact compare_eq_lt.1 hlt
        · exact compare_eq_lt.1 (Std.TransCmp.lt_of_lt_of_isLE hlt ((List.pairwise_cons.1 hb).1 c hc))
      · rcases List.mem_cons.1 hc with rfl | hc
        · exact ⟨c, List.mem_cons_self, rfl⟩
        · obtain ⟨d, hd, hsame⟩ := hcomplete c hc
          exact ⟨d, List.mem_cons_of_mem a hd, hsame⟩

end Listing

namespace Store

variable {s : Store} {ids : List String}

/-- What is shown of the rewards with some ids. -/
theorem once_rewardsById (s : Store) (ids : List String) :
    Listing.Once ((ids.filterMap s.rewards.get?).mergeSort Listing.idAscending)
      (s.rewardsById ids) := by
  have hsorted := List.pairwise_mergeSort Listing.idAscending_trans Listing.idAscending_total
    (ids.filterMap s.rewards.get?)
  rw [rewardsById]
  cases hlist : (ids.filterMap s.rewards.get?).mergeSort Listing.idAscending with
  | nil => exact ⟨List.Sublist.refl _, List.Pairwise.nil, nofun⟩
  | cons r rest =>
    rw [hlist] at hsorted
    exact Listing.once_eraseRepsBy hsorted

/-- Rewards are shown as they are stored, and none of those that are there is left out. -/
theorem mem_rewardsById (h : s.rewards.Filed) {r : Reward} :
    r ∈ s.rewardsById ids ↔ r.id ∈ ids ∧ s.rewards.get? r.id = some r := by
  have honce := s.once_rewardsById ids
  have hstored : ∀ r ∈ (ids.filterMap s.rewards.get?).mergeSort Listing.idAscending,
      r.id ∈ ids ∧ s.rewards.get? r.id = some r := by
    intro r hr
    obtain ⟨id, hid, hget⟩ := List.mem_filterMap.1 (List.mem_mergeSort.1 hr)
    obtain rfl : r.id = id := h id r hget
    exact ⟨hid, hget⟩
  constructor
  · exact fun hr => hstored r (honce.sublist.subset hr)
  · rintro ⟨hid, hget⟩
    obtain ⟨r', hr', hsame⟩ := honce.complete r
      (List.mem_mergeSort.2 (List.mem_filterMap.2 ⟨r.id, hid, hget⟩))
    have hget' := (hstored r' (honce.sublist.subset hr')).2
    rw [show r'.id = r.id from hsame, hget] at hget'
    rwa [Option.some.inj hget']

end Store
end RewardDesk
