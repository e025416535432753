import RewardDesk.Store.Table

/-!
# Looking things up in tables

What a table answers after each change: `get?_set` and `get?_erase` say it for single keys, and a
conditional change is one of the two or none (`update_of_some`, `update_of_none`). The values of a
table are the answers it gives (`mem_values`), and a change adds or exchanges one of them
(`values_set_of_vacant`, `exists_values_set`).
-/

namespace RewardDesk

/-! ## Sorted entries

Tables are sorted lists. Lookup and change both walk down the list and stop at the first key that is
not smaller, and the proofs follow them down. -/

namespace Keyed

section
variable {κ α : Type} [Ord κ]

/-- A key that comes before all others is not there. -/
theorem get?_eq_none_of_lt {key : κ} {entries : List (κ × α)}
    (h : ∀ e ∈ entries, compare key e.1 = .lt) : get? key entries = none := by
  cases entries with
  | nil => rfl
  | cons head rest =>
    obtain ⟨k, v⟩ := head
    have hk : compare key k = .lt := h (k, v) List.mem_cons_self
    simp only [get?, hk]

/-- There is nothing to take out for a key that is not there. -/
theorem erase_of_get?_eq_none {key : κ} {entries : List (κ × α)} (h : get? key entries = none) :
    erase key entries = entries := by
  induction entries with
  | nil => rfl
  | cons head rest ih =>
    obtain ⟨k, v⟩ := head
    rw [get?] at h
    rw [erase]
    cases hc : compare key k with
    | lt => rfl
    | eq =>
      rw [hc] at h
      cases h
    | gt =>
      rw [hc] at h
      show (k, v) :: erase key rest = _
      rw [ih h]

/-- A key that is not there is put somewhere between the others. -/
theorem exists_set_of_vacant {key : κ} {entries : List (κ × α)} (h : get? key entries = none)
    (value : α) :
    ∃ l r, entries = l ++ r ∧ set key value entries = l ++ (key, value) :: r := by
  induction entries with
  | nil => exact ⟨[], [], rfl, rfl⟩
  | cons head rest ih =>
    obtain ⟨k, v⟩ := head
    rw [get?] at h
    rw [set]
    cases hc : compare key k with
    | lt => exact ⟨[], (k, v) :: rest, rfl, rfl⟩
    | eq =>
      rw [hc] at h
      cases h
    | gt =>
      rw [hc] at h
      obtain ⟨l, r, hrest, hset⟩ := ih h
      exact ⟨(k, v) :: l, r, congrArg _ hrest, congrArg _ hset⟩

/-- A key that is there keeps its place. -/
theorem exists_set_of_found [Std.LawfulEqOrd κ] {key : κ} {entries : List (κ × α)} {old : α}
    (h : get? key entries = some old) (value : α) :
    ∃ l r, entries = l ++ (key, old) :: r ∧ set key value entries = l ++ (key, value) :: r := by
  induction entries with
  | nil => cases h
  | cons head rest ih =>
    obtain ⟨k, v⟩ := head
    rw [get?] at h
    rw [set]
    cases hc : compare key k with
    | lt =>
      rw [hc] at h
      cases h
    | eq =>
      rw [hc] at h
      obtain rfl : key = k := Std.LawfulEqCmp.eq_of_compare hc
      obtain rfl : v = old := Option.some.inj h
      exact ⟨[], rest, rfl, rfl⟩
    | gt =>
      rw [hc] at h
      obtain ⟨l, r, hrest, hset⟩ := ih h
      exact ⟨(k, v) :: l, r, congrArg _ hrest, congrArg _ hset⟩

end

variable {κ α : Type} [Ord κ] [Std.TransOrd κ] [Std.LawfulEqOrd κ]

omit [Std.TransOrd κ] in
theorem ne_of_compare_lt {a b : κ} (h : compare a b = .lt) : a ≠ b := by
  rintro rfl
  simp at h

omit [Std.TransOrd κ] in
theorem ne_of_compare_gt {a b : κ} (h : compare a b = .gt) : a ≠ b := by
  rintro rfl
  simp at h

variable [DecidableEq κ]

/-- In an ascending list a lookup finds what a search of the whole list would find. -/
theorem get?_cons {k : κ} {v : α} {rest : List (κ × α)} (h : Ascending ((k, v) :: rest)) (key : κ) :
    get? key ((k, v) :: rest) = if key = k then some v else get? key rest := by
  obtain ⟨hk, -⟩ := List.pairwise_cons.1 h
  rw [get?]
  cases hc : compare key k with
  | lt =>
    have hnone : get? key rest = none :=
      get?_eq_none_of_lt fun e he => Std.TransCmp.lt_trans hc (hk e he)
    rw [if_neg (ne_of_compare_lt hc), hnone]
  | eq => rw [if_pos (Std.LawfulEqCmp.eq_of_compare hc)]
  | gt => rw [if_neg (ne_of_compare_gt hc)]

/-- The entries of an ascending list are what lookups find. -/
theorem mem_iff_get?_eq_some {entries : List (κ × α)} (h : Ascending entries) {key : κ} {value : α} :
    (key, value) ∈ entries ↔ get? key entries = some value := by
  induction entries with
  | nil => simp [get?]
  | cons head rest ih =>
    obtain ⟨k, v⟩ := head
    obtain ⟨hk, hrest⟩ := List.pairwise_cons.1 h
    rw [List.mem_cons, ih hrest, get?_cons h]
    by_cases hkey : key = k
    · subst hkey
      have hnone : get? key rest = none := get?_eq_none_of_lt hk
      simp [hnone, eq_comm]
    · simp [hkey]

theorem get?_set {entries : List (κ × α)} (h : Ascending entries) (key other : κ) (value : α) :
    get? other (set key value entries) = if other = key then some value else get? other entries := by
  induction entries with
  | nil => exact get?_cons h.set other
  | cons head rest ih =>
    obtain ⟨k, v⟩ := head
    have hset : Ascending (set key value ((k, v) :: rest)) := h.set
    rw [set] at hset ⊢
    cases hc : compare key k with
    | lt =>
      rw [hc] at hset
      exact get?_cons hset other
    | eq =>
      have hkey : key = k := Std.LawfulEqCmp.eq_of_compare hc
      subst hkey
      rw [hc] at hset
      show get? other ((key, value) :: rest) = _
      rw [get?_cons hset, get?_cons h]
      by_cases hother : other = key
      · rw [if_pos hother, if_pos hother]
      · simp only [if_neg hother]
    | gt =>
      rw [hc] at hset
      show get? other ((k, v) :: set key value rest) = _
      rw [get?_cons hset, get?_cons h, ih (List.pairwise_cons.1 h).2]
      by_cases hother : other = k
      · have hne : other ≠ key := hother ▸ (ne_of_compare_gt hc).symm
        simp only [if_pos hother, if_neg hne]
      · simp only [if_neg hother]

theorem get?_erase {entries : List (κ × α)} (h : Ascending entries) (key other : κ) :
    get? other (erase key entries) = if other = key then none else get? other entries := by
  induction entries with
  | nil => simp [erase, get?]
  | cons head rest ih =>
    obtain ⟨k, v⟩ := head
    obtain ⟨hk, hrest⟩ := List.pairwise_cons.1 h
    have herase : Ascending (erase key ((k, v) :: rest)) := h.erase
    rw [erase] at herase ⊢
    cases hc : compare key k with
    | lt =>
      show get? other ((k, v) :: rest) = _
      by_cases hother : other = key
      · simp [hother, get?, hc]
      · rw [if_neg hother]
    | eq =>
      have hkey : key = k := Std.LawfulEqCmp.eq_of_compare hc
      subst hkey
      show get? other rest = _
      rw [get?_cons h]
      by_cases hother : other = key
      · rw [if_pos hother, hother]
        exact get?_eq_none_of_lt hk
      · simp only [if_neg hother]
    | gt =>
      rw [hc] at herase
      show get? other ((k, v) :: erase key rest) = _
      rw [get?_cons herase, get?_cons h, ih hrest]
      by_cases hother : other = k
      · have hne : other ≠ key := hother ▸ (ne_of_compare_gt hc).symm
        simp only [if_pos hother, if_neg hne]
      · simp only [if_neg hother]

end Keyed

/-! ## Tables

From here on a table is what lookups say of it, and nobody needs to know how it is kept. -/

namespace Table

section
variable {κ α : Type} [Ord κ]

@[simp] theorem get?_empty (key : κ) : (empty : Table κ α).get? key = none := rfl

theorem erase_of_get?_eq_none {t : Table κ α} {key : κ} (h : t.get? key = none) :
    t.erase key = t := by
  obtain ⟨entries, ascending⟩ := t
  simp only [erase, Keyed.erase_of_get?_eq_none (show Keyed.get? key entries = none from h)]

end

variable {κ α : Type} [Ord κ] [Std.TransOrd κ] [Std.LawfulEqOrd κ] [DecidableEq κ]

/-- A value of the table is the value of some key. -/
theorem mem_values {t : Table κ α} {value : α} :
    value ∈ t.values ↔ ∃ key, t.get? key = some value := by
  rw [values, List.mem_map]
  constructor
  · rintro ⟨⟨key, v⟩, hmem, rfl⟩
    exact ⟨key, (Keyed.mem_iff_get?_eq_some t.ascending).1 hmem⟩
  · rintro ⟨key, hget⟩
    exact ⟨(key, value), (Keyed.mem_iff_get?_eq_some t.ascending).2 hget, rfl⟩

@[simp] theorem get?_set (t : Table κ α) (key other : κ) (value : α) :
    (t.set key value).get? other = if other = key then some value else t.get? other :=
  Keyed.get?_set t.ascending key other value

/-- What is found after a change is the new value, or was there before. -/
theorem eq_or_get?_of_set {t : Table κ α} {key other : κ} {value found : α}
    (h : (t.set key value).get? other = some found) : other = key ∨ t.get? other = some found := by
  rw [get?_set] at h
  split at h
  · exact .inl ‹_›
  · exact .inr h

/-- A new key leaves what is there. -/
theorem get?_set_of_vacant {t : Table κ α} {key other : κ} {value found : α}
    (hvacant : t.get? key = none) (h : t.get? other = some found) :
    (t.set key value).get? other = some found := by
  have hne : other ≠ key := by
    rintro rfl
    rw [hvacant] at h
    exact absurd h nofun
  rw [get?_set, if_neg hne, h]

@[simp] theorem get?_erase (t : Table κ α) (key other : κ) :
    (t.erase key).get? other = if other = key then none else t.get? other :=
  Keyed.get?_erase t.ascending key other

/-- What is true of all entries stays so if it is true of the entry that is made. -/
theorem forall_set {t : Table κ α} {P : κ → α → Prop} {key : κ} {value : α}
    (h : ∀ k a, t.get? k = some a → P k a) (hvalue : P key value) :
    ∀ k a, (t.set key value).get? k = some a → P k a := by
  intro k a ha
  rw [get?_set] at ha
  split at ha
  · subst_vars
    rwa [← Option.some.inj ha]
  · exact h k a ha

theorem forall_erase {t : Table κ α} {P : κ → α → Prop} {key : κ}
    (h : ∀ k a, t.get? k = some a → P k a) : ∀ k a, (t.erase key).get? k = some a → P k a := by
  intro k a ha
  rw [get?_erase] at ha
  split at ha
  · exact absurd ha nofun
  · exact h k a ha

omit [DecidableEq κ] in
theorem update_of_some {t : Table κ α} {key : κ} {change : α → Option α} {value : α}
    (h : (t.get? key).bind change = some value) :
    t.update key change = (some value, t.set key value) := by
  rw [update, h]

omit [DecidableEq κ] in
theorem update_of_none {t : Table κ α} {key : κ} {change : α → Option α}
    (h : (t.get? key).bind change = none) : t.update key change = (none, t) := by
  rw [update, h]

/-! ### Values -/

omit [DecidableEq κ] in
/-- Under a new key one value more is stored. -/
theorem values_set_of_vacant {t : Table κ α} {key : κ} (h : t.get? key = none) (value : α) :
    (t.set key value).values.Perm (value :: t.values) := by
  obtain ⟨l, r, hentries, hset⟩ := Keyed.exists_set_of_vacant h value
  have hvalues : t.values = l.map (·.2) ++ r.map (·.2) := by
    rw [values, hentries, List.map_append]
  have hvalues' : (t.set key value).values = l.map (·.2) ++ value :: r.map (·.2) := by
    show (Keyed.set key value t.entries).map (·.2) = _
    rw [hset, List.map_append, List.map_cons]
  rw [hvalues, hvalues']
  exact List.perm_middle

omit [DecidableEq κ] in
/-- Under a key that is there one value takes the place of another. -/
theorem exists_values_set {t : Table κ α} {key : κ} {old : α} (h : t.get? key = some old)
    (value : α) :
    ∃ rest, t.values.Perm (old :: rest) ∧ (t.set key value).values.Perm (value :: rest) := by
  obtain ⟨l, r, hentries, hset⟩ := Keyed.exists_set_of_found h value
  have hvalues : t.values = l.map (·.2) ++ old :: r.map (·.2) := by
    rw [values, hentries, List.map_append, List.map_cons]
  have hvalues' : (t.set key value).values = l.map (·.2) ++ value :: r.map (·.2) := by
    show (Keyed.set key value t.entries).map (·.2) = _
    rw [hset, List.map_append, List.map_cons]
  rw [hvalues, hvalues']
  exact ⟨l.map (·.2) ++ r.map (·.2), List.perm_middle, List.perm_middle⟩

end Table
end RewardDesk
