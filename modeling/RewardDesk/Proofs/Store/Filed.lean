import RewardDesk.Proofs.Store.Requests

/-!
# Records under their own ids

An event, a reward or a request is always stored under its id, and so the records of a table stand
in ascending order of their ids (`Table.Filed.ascending`). Every statement keeps it so
(`Store.Filed.execute`, `Store.filed_events_execute`), and so it is in every store that statements
make (`Store.after`).
-/

namespace RewardDesk

theorem compare_eq_lt {a b : String} : compare a b = .lt ↔ a < b := compareOfLessAndEq_eq_lt

/-! ## Tables -/

namespace Table

variable {α : Type} [Recorded α]

/-- Does every record stand under its own id? -/
def Filed (t : Table String α) : Prop := ∀ key a, t.get? key = some a → Recorded.id a = key

variable {t : Table String α}

theorem filed_empty : (empty : Table String α).Filed := by
  intro key a hget
  simp at hget

theorem Filed.set (h : t.Filed) {key : String} {a : α} (hid : Recorded.id a = key) :
    (t.set key a).Filed := by
  intro other b hget
  rw [get?_set] at hget
  split at hget
  · obtain rfl := Option.some.inj hget
    rw [hid]
    exact Eq.symm ‹_›
  · exact h other b hget

/-- The values of the table are what is found under their ids. -/
theorem Filed.mem_values (h : t.Filed) {a : α} : a ∈ t.values ↔ t.get? (Recorded.id a) = some a := by
  refine Table.mem_values.trans ⟨?_, fun hget => ⟨_, hget⟩⟩
  rintro ⟨key, hget⟩
  obtain rfl := h key a hget
  exact hget

/-- The records stand in strictly ascending order of their ids. -/
theorem Filed.ascending (h : t.Filed) :
    t.values.Pairwise fun a b => Recorded.id a < Recorded.id b := by
  have hkey : ∀ e ∈ t.entries, Recorded.id e.2 = e.1 := fun e he =>
    h e.1 e.2 ((Keyed.mem_iff_get?_eq_some t.ascending).1 he)
  rw [values, List.pairwise_map]
  refine List.Pairwise.imp_of_mem ?_ t.ascending
  intro a b ha hb hlt
  rw [hkey a ha, hkey b hb]
  exact compare_eq_lt.1 hlt

end Table

/-! ## The store -/

namespace Store

/-- Are rewards and requests stored under their ids? -/
structure Filed (s : Store) : Prop where
  rewards : s.rewards.Filed
  requests : s.requests.requests.Filed

theorem filed_empty : empty.Filed := ⟨Table.filed_empty, Table.filed_empty⟩

variable {s : Store}

theorem Filed.execute (h : s.Filed) (q : Statement) : (s.execute q).2.Filed := by
  cases q with
  | createReward r => exact ⟨h.rewards.set rfl, h.requests⟩
  | createPending r =>
    refine ⟨h.rewards, ?_⟩
    show (s.requests.createPending r).2.requests.Filed
    rcases s.requests.createPending_cases r with ⟨-, heq⟩ | ⟨-, heq⟩
    · rw [heq]
      exact h.requests
    · rw [heq]
      exact h.requests.set rfl
  | transition id status time =>
    refine ⟨h.rewards, ?_⟩
    show (s.requests.transition id status time).2.requests.Filed
    rcases s.requests.transition_cases id status time with ⟨-, heq⟩ | ⟨r, hget, -, heq⟩
    · rw [heq]
      exact h.requests
    · rw [heq]
      exact h.requests.set (h.requests id r hget)
  | _ => exact ⟨h.rewards, h.requests⟩

/-- Events are stored under their ids as well. -/
theorem filed_events_execute (h : s.events.Filed) (q : Statement) :
    (s.execute q).2.events.Filed := by
  cases q with
  | createEvent e => exact h.set rfl
  | updateEvent e =>
    show (s.events.replace e.id e).2.Filed
    rw [Table.replace]
    split
    · exact h.set rfl
    · exact h
  | _ => exact h

/-- The rewards of a filter stand in ascending order of their ids. -/
theorem Filed.rewardsOf (h : s.Filed) (f : RewardFilter) :
    (s.rewardsOf f).Pairwise fun a b => Recorded.id a < Recorded.id b :=
  h.rewards.ascending.filter _

/-- The requests of a filter stand in ascending order of their ids. -/
theorem Filed.requestsOf (h : s.Filed) (f : RequestFilter) :
    (s.requestsOf f).Pairwise fun a b => Recorded.id a < Recorded.id b :=
  h.requests.ascending.filter _

/-! ### Stores that statements make -/

/-- The store that statements make of the empty one. -/
def after (statements : List Statement) : Store :=
  statements.foldl (fun s q => (s.execute q).2) empty

theorem after_concat (statements : List Statement) (q : Statement) :
    after (statements ++ [q]) = ((after statements).execute q).2 := by
  simp [after]

/-- What every statement preserves holds of the stores that statements make. -/
theorem after_holds {holds : Store → Prop} (hempty : holds empty)
    (h : ∀ s q, holds s → holds (s.execute q).2) (statements : List Statement) :
    holds (after statements) := by
  suffices hfold : ∀ s, holds s → holds (statements.foldl (fun s q => (s.execute q).2) s) from
    hfold empty hempty
  induction statements with
  | nil => exact fun _ hs => hs
  | cons q statements ih => exact fun s hs => ih _ (h s q hs)

theorem filed_after (statements : List Statement) : (after statements).Filed :=
  after_holds filed_empty (fun _ q h => h.execute q) statements

theorem filed_events_after (statements : List Statement) : (after statements).events.Filed := by
  have hempty : empty.events.Filed := Table.filed_empty
  exact @after_holds (·.events.Filed) hempty (fun _ q h => filed_events_execute h q) statements

end Store
end RewardDesk
