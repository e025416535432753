import Mathlib.Data.List.Induction
import RewardDesk.Proofs.History
import RewardDesk.Proofs.Links.Book
import RewardDesk.Proofs.Paging.Listing

/-!
# Pairs that are taken for one another

A link is found under its event and its reward joined by a zero character, and where the ids have
such characters themselves the place of the join is lost: two pairs have one key if the event of the
one is that of the other, a zero character and a text, and the reward of the other is this text, a
zero character and the reward of the one (`LinkBook.key_eq_key_iff`). The links that statements
leave are therefore a set of pairs of which no two are confused (`Store.pairs_up_to_confusion`), and
a pair can be kept out by another one (`Store.pair_kept_out`).
-/

namespace RewardDesk

/-! ## Keys

A key is split at a zero character, and there may be several of them to choose from. Two pairs with
one key differ in the place of the cut, and what lies between the two cuts belongs to the event of
one pair and to the reward of the other. -/

namespace LinkBook

variable {e r e' r' : String} {b : LinkBook} {l : Link}

/-- The event `e` is `e'` with more behind it, and that is what `r'` has in front of `r`. -/
def Overlap (e r e' r' : String) : Prop :=
  ∃ between : String, e = e' ++ "\x00" ++ between ∧ r' = between ++ "\x00" ++ r

/-- Is the one pair taken for the other? -/
def Confused (e r e' r' : String) : Prop :=
  (e = e' ∧ r = r') ∨ Overlap e r e' r' ∨ Overlap e' r' e r

theorem toList_key (e r : String) : (key e r).toList = e.toList ++ '\x00' :: r.toList := by
  simp [key]

/-- A pair that overlaps another one has its key. -/
theorem Overlap.key_eq (h : Overlap e r e' r') : key e r = key e' r' := by
  obtain ⟨between, rfl, rfl⟩ := h
  simp only [key, String.append_assoc]

/-- Two pairs have the same key if and only if they are confused. -/
theorem key_eq_key_iff : key e r = key e' r' ↔ Confused e r e' r' := by
  constructor
  · intro h
    rw [← String.toList_inj, toList_key, toList_key, List.append_eq_append_iff] at h
    -- The longer event goes on with nothing, or with the zero character of the other key.
    have hsplit : ∀ {e r e' r' : String} {more : List Char}, e'.toList = e.toList ++ more →
        '\x00' :: r.toList = more ++ '\x00' :: r'.toList → (e = e' ∧ r = r') ∨ Overlap e' r' e r := by
      intro e r e' r' more hevent hreward
      cases more with
      | nil =>
        rw [List.append_nil, String.toList_inj] at hevent
        exact .inl ⟨hevent.symm, String.toList_inj.1 (List.cons.inj hreward).2⟩
      | cons c between =>
        obtain ⟨rfl, hbehind⟩ := List.cons.inj hreward
        refine .inr ⟨String.ofList between, ?_, ?_⟩
        · simp [← String.toList_inj, hevent]
        · simpa [← String.toList_inj] using hbehind
    rcases h with ⟨more, hevent, hreward⟩ | ⟨more, hevent, hreward⟩
    · exact (hsplit hevent hreward).imp_right .inr
    · exact (hsplit hevent hreward).elim (fun hsame => .inl ⟨hsame.1.symm, hsame.2.symm⟩)
        fun hoverlap => .inr (.inl hoverlap)
  · rintro (⟨rfl, rfl⟩ | hoverlap | hoverlap)
    · rfl
    · exact hoverlap.key_eq
    · exact hoverlap.key_eq.symm

/-- A pair without zero characters is confused with no other. -/
theorem confused_iff_of_zeroFree (he : Text.ZeroFree e) (hr : Text.ZeroFree r) :
    Confused e r e' r' ↔ e = e' ∧ r = r' := by
  rw [← key_eq_key_iff, eq_comm, key_inj he hr, eq_comm, @eq_comm _ r']

/-! ## The rewards of an event in their order

The book is sorted by its keys, and those of one event begin alike. So the rewards of the event come
out sorted by their ids, whatever characters are in them. -/

/-- Among the links of one event a link is known by its reward. -/
instance : Recorded Link := ⟨Link.rewardId, Link.createdAt⟩

/-- No two links of a book stand under one key. -/
theorem pairwise_key (hkeys : ∀ k l, b.links.get? k = some l → k = key l.eventId l.rewardId) :
    b.links.values.Pairwise fun a c => key a.eventId a.rewardId ≠ key c.eventId c.rewardId := by
  have hkey : ∀ entry ∈ b.links.entries, entry.1 = key entry.2.eventId entry.2.rewardId :=
    fun entry hentry => hkeys entry.1 entry.2
      ((Keyed.mem_iff_get?_eq_some b.links.ascending).1 hentry)
  rw [Table.values, List.pairwise_map]
  refine List.Pairwise.imp_of_mem ?_ b.links.ascending
  intro x y hx hy hlt
  rw [← hkey x hx, ← hkey y hy]
  exact Keyed.ne_of_compare_lt hlt

/-- The rewards of an event are listed in the order of its links, each of them once. -/
theorem rewardIds_sorted (hkeys : ∀ k l, b.links.get? k = some l → k = key l.eventId l.rewardId)
    (e : String) :
    ∃ listing : List Link, b.rewardIds e = listing.map (·.rewardId) ∧
      (∀ l, l ∈ listing ↔ l ∈ b.links.values ∧ l.eventId = e) ∧
      (listing.map (·.rewardId)).Nodup ∧ listing.Pairwise fun a c => Listing.Newer c a := by
  have hmem : ∀ l, l ∈ b.links.values.filter (·.eventId = e) ↔ l ∈ b.links.values ∧ l.eventId = e := by
    simp
  have hrewards : (b.links.values.filter (·.eventId = e)).Pairwise
      fun a c => a.rewardId ≠ c.rewardId := by
    refine List.Pairwise.imp_of_mem ?_ ((pairwise_key hkeys).filter _)
    intro a c ha hc hne hsame
    rw [((hmem a).1 ha).2, ((hmem c).1 hc).2, hsame] at hne
    exact hne rfl
  refine ⟨_, rfl, fun l => List.mem_mergeSort.trans (hmem l), ?_, ?_⟩
  · rw [List.Nodup, List.pairwise_map]
    exact hrewards.perm (List.mergeSort_perm ..).symm Ne.symm
  · have hsorted := List.pairwise_mergeSort
      (fun x y z hxy hyz => Listing.newerFirst_trans z y x hyz hxy)
      (fun x y => Listing.newerFirst_total y x) (b.links.values.filter (·.eventId = e))
    exact hsorted.imp₂ (fun x y hle hne => Listing.newer_of_newerFirst hle hne.symm)
      (hrewards.perm (List.mergeSort_perm ..).symm Ne.symm)

end LinkBook

namespace Store

open LinkBook (key key_eq_key_iff Confused)

/-! ## Statement after statement

Which links there are is told by the statements that entered them and took them out. Every statement
speaks of a pair, but reaches all pairs that are confused with it. -/

/-- The link was entered and no pair that is confused with its own was taken out since. -/
def Stands (statements : List Statement) (l : Link) : Prop :=
  History.Since
    (fun earlier q => q = .addLink l ∧ (Storage.memory (.addLink l) (after earlier)).1 = .ok true)
    (fun q => ∃ e r, q = .removeLink e r ∧ Confused e r l.eventId l.rewardId) statements

/-- Does a statement change the book of links? -/
def changesLinks : Statement → Prop
  | .addLink _ | .removeLink .. => True
  | _ => False

theorem links_execute {s : Store} {q : Statement} (h : ¬ changesLinks q) :
    (s.execute q).2.links = s.links := by
  cases q <;> first | rfl | exact absurd trivial h

theorem stands_concat {statements : List Statement} {q : Statement} {l : Link} :
    Stands (statements ++ [q]) l ↔
      (q = .addLink l ∧ ((after statements).links.add l).1 = true) ∨
        (Stands statements l ∧ ∀ e r, q = .removeLink e r → ¬ Confused e r l.eventId l.rewardId) := by
  have hanswer : (Storage.memory (.addLink l) (after statements)).1 =
      .ok ((after statements).links.add l).1 := rfl
  rw [Stands, History.since_concat, hanswer, Except.ok.injEq]
  simp only [not_exists, not_and, Stands]

/-- The links that statements leave are those that stand, each under its key. -/
theorem get?_links_after {statements : List Statement} {k : String} {l : Link} :
    (after statements).links.links.get? k = some l ↔
      k = key l.eventId l.rewardId ∧ Stands statements l := by
  -- From the right: whether the last statement enters a link is decided by those before it.
  induction statements using List.reverseRecOn generalizing k l with
  | nil =>
    have hnone : ¬ Stands [] l := History.not_since_nil
    simp [hnone, after, empty, LinkBook.empty]
  | append_singleton statements q ih =>
    rw [after_concat, stands_concat]
    by_cases hq : changesLinks q
    · cases q with
      | addLink l' =>
        show ((after statements).links.add l').2.links.get? k = some l ↔ _
        simp only [Statement.addLink.injEq, reduceCtorEq, false_imp_iff, implies_true, and_true]
        rcases (after statements).links.add_cases l' with ⟨-, hrefused⟩ | ⟨hvacant, hentered⟩
        · rw [hrefused, ih]
          refine and_congr_right fun _ => (or_iff_right ?_).symm
          rintro ⟨rfl, hadded⟩
          simp [hrefused] at hadded
        · rw [hentered, Table.get?_set]
          by_cases hk : k = key l'.eventId l'.rewardId
          · subst hk
            rw [if_pos rfl, Option.some.injEq]
            constructor
            · rintro rfl
              exact ⟨rfl, .inl ⟨rfl, by rw [hentered]⟩⟩
            · rintro ⟨hkey, ⟨rfl, -⟩ | hstands⟩
              · rfl
              · simp [ih.2 ⟨hkey, hstands⟩] at hvacant
          · rw [if_neg hk, ih]
            refine and_congr_right fun hkey => (or_iff_right ?_).symm
            rintro ⟨rfl, -⟩
            exact hk hkey
      | removeLink e r =>
        show ((after statements).links.links.erase (key e r)).get? k = some l ↔ _
        simp only [reduceCtorEq, false_and, false_or, Statement.removeLink.injEq, Table.get?_erase,
          Option.ite_none_left_eq_some, ih, ← key_eq_key_iff]
        constructor
        · rintro ⟨hk, rfl, hstands⟩
          exact ⟨rfl, hstands, fun _ _ hsame heq => hk (by rw [← heq, hsame.1, hsame.2])⟩
        · rintro ⟨rfl, hstands, hkept⟩
          exact ⟨fun heq => hkept e r ⟨rfl, rfl⟩ heq.symm, rfl, hstands⟩
      | _ => exact hq.elim
    · have hadds : ¬ (q = .addLink l ∧ ((after statements).links.add l).1 = true) := by
        rintro ⟨rfl, -⟩
        exact hq trivial
      have hremoves : ∀ e r, q = .removeLink e r → ¬ Confused e r l.eventId l.rewardId := by
        rintro e r rfl
        exact absurd trivial hq
      rw [links_execute hq, ih, or_iff_right hadds, and_iff_left hremoves]

/-- After any statements, whatever texts the ids are:

* the links that are stored are those that stand, and no two of them are confused;
* a link is entered if and only if none stands that is confused with it;
* a pair is taken out if and only if a link stands that is confused with it, and it is this link
  that is gone then, and no other;
* the rewards of an event are those of its links that stand, each once, in the order of the times at
  which they were linked, and of one time in the order of their ids.

Pairs without zero characters are confused with themselves only. -/
theorem pairs_up_to_confusion (statements : List Statement) :
    let s := after statements
    (∀ l, l ∈ s.links.links.values ↔ Stands statements l) ∧
    (∀ l l', Stands statements l → Stands statements l' →
      Confused l.eventId l.rewardId l'.eventId l'.rewardId → l = l') ∧
    (∀ l, (Storage.memory (.addLink l) s).1 = .ok true ↔
      ∀ l', Stands statements l' → ¬ Confused l.eventId l.rewardId l'.eventId l'.rewardId) ∧
    (∀ e r, let removed := Storage.memory (.removeLink e r) s
      (removed.1 = .ok true ↔ ∃ l, Stands statements l ∧ Confused e r l.eventId l.rewardId) ∧
      ∀ l, l ∈ removed.2.links.links.values ↔
        Stands statements l ∧ ¬ Confused e r l.eventId l.rewardId) ∧
    (∀ e, ∃ listing : List Link,
      (Storage.memory (.linkedRewards e) s).1 = .ok (listing.map (·.rewardId)) ∧
      (∀ l, l ∈ listing ↔ Stands statements l ∧ l.eventId = e) ∧
      (listing.map (·.rewardId)).Nodup ∧
      listing.Pairwise fun a c =>
        a.createdAt < c.createdAt ∨ a.createdAt = c.createdAt ∧ a.rewardId < c.rewardId) ∧
    ∀ e r e' r', Text.ZeroFree e → Text.ZeroFree r → (Confused e r e' r' ↔ e = e' ∧ r = r') := by
  intro s
  have hstored : ∀ {k l}, s.links.links.get? k = some l ↔
      k = key l.eventId l.rewardId ∧ Stands statements l := get?_links_after
  have hvalues : ∀ {statements l},
      l ∈ (after statements).links.links.values ↔ Stands statements l := by
    intro statements l
    simp [Table.mem_values, get?_links_after]
  refine ⟨fun l => hvalues, fun l l' hl hl' hconfused => ?_, fun l => ?_, fun e r => ⟨?_, fun l => ?_⟩,
    fun e => ?_, fun e r e' r' he hr => LinkBook.confused_iff_of_zeroFree he hr⟩
  · have hget := hstored.2 ⟨key_eq_key_iff.2 hconfused, hl'⟩
    rw [hstored.2 ⟨rfl, hl⟩] at hget
    exact Option.some.inj hget
  · have hanswer : (Storage.memory (.addLink l) s).1 = .ok (s.links.add l).1 := rfl
    rw [hanswer, Except.ok.injEq]
    simp only [← key_eq_key_iff]
    rcases s.links.add_cases l with ⟨hfound, hrefused⟩ | ⟨hvacant, hentered⟩
    · obtain ⟨l', hl'⟩ := Option.isSome_iff_exists.1 hfound
      obtain ⟨hkey, hstands⟩ := hstored.1 hl'
      rw [hrefused]
      exact iff_of_false nofun fun hnone => hnone l' hstands hkey
    · rw [hentered]
      refine iff_of_true rfl fun l' hstands hkey => ?_
      rw [hstored.2 ⟨hkey, hstands⟩] at hvacant
      exact absurd hvacant nofun
  · have hanswer : (Storage.memory (.removeLink e r) s).1 =
        .ok (s.links.links.get? (key e r)).isSome := rfl
    rw [hanswer, Except.ok.injEq, Option.isSome_iff_exists]
    exact exists_congr fun l => by rw [hstored, key_eq_key_iff, and_comm]
  · have hafter : (Storage.memory (.removeLink e r) s).2 = after (statements ++ [.removeLink e r]) := by
      rw [after_concat]
      rfl
    rw [hafter, hvalues, stands_concat]
    simp
  · obtain ⟨listing, hlisting, hmem, hnodup, hsorted⟩ :=
      LinkBook.rewardIds_sorted (fun k l hl => (hstored.1 hl).1) e
    refine ⟨listing, congrArg Except.ok hlisting, fun l => ?_, hnodup, hsorted⟩
    rw [hmem, hvalues]

/-- To link an event with a reward that has a zero character keeps out another event and another
reward, and the attempt to part these takes the link away. -/
theorem pairs_up_to_confusion_of_collision :
    let l : Link := ⟨"a", "b\x00c", default⟩
    let s := after [.addLink l]
    Confused "a\x00b" "c" l.eventId l.rewardId ∧ Stands [.addLink l] l ∧
      (Storage.memory (.addLink ⟨"a\x00b", "c", default⟩) s).1 ≠ .ok true ∧
      (Storage.memory (.removeLink "a\x00b" "c") s).1 = .ok true ∧
      l ∉ (Storage.memory (.removeLink "a\x00b" "c") s).2.links.links.values := by
  intro l s
  have hconfused : Confused "a\x00b" "c" l.eventId l.rewardId := .inr (.inl ⟨"b", rfl, rfl⟩)
  obtain ⟨hstored, -, hadded, hremoved, -, -⟩ := pairs_up_to_confusion [.addLink l]
  have hstands : Stands [.addLink l] l := (hstored l).1 List.mem_cons_self
  refine ⟨hconfused, hstands, ?_, (hremoved "a\x00b" "c").1.2 ⟨l, hstands, hconfused⟩, ?_⟩
  · rw [Ne, hadded]
    exact fun hnone => hnone l hstands hconfused
  · rw [(hremoved "a\x00b" "c").2]
    exact fun hkept => hkept.2 hconfused

/-- The event `"a\x00b"` has no reward. All the same its link with `"c"` is refused as one that
exists, and to take it out succeeds and leaves the event `"a"` without the reward that was linked
with it. -/
theorem pair_kept_out :
    let s := after [.addLink ⟨"a", "b\x00c", default⟩]
    let removed := Storage.memory (.removeLink "a\x00b" "c") s
    (Storage.memory (.linkedRewards "a") s).1 = .ok ["b\x00c"] ∧
      (Storage.memory (.linkedRewards "a\x00b") s).1 = .ok [] ∧
      (Storage.memory (.addLink ⟨"a\x00b", "c", default⟩) s).1 = .ok false ∧
      removed.1 = .ok true ∧ (Storage.memory (.linkedRewards "a") removed.2).1 = .ok [] := by
  refine ⟨?_, ?_, ?_, ?_, ?_⟩ <;> decide +kernel

end Store
end RewardDesk
