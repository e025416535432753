/-!
# Entries in order of their keys

A list of keys and values whose keys ascend strictly. Such a list is the only one with its entries,
so two of them that answer every lookup alike are equal.
-/

namespace RewardDesk.Keyed

variable {κ : Type} {α : Type} [Ord κ]

/-- Do the keys ascend strictly? -/
def Ascending (entries : List (κ × α)) : Prop :=
  entries.Pairwise fun a b => compare a.1 b.1 = .lt

/-- The value of a key. -/
def get? (key : κ) : List (κ × α) → Option α
  | [] => none
  | (k, v) :: rest =>
    match compare key k with
    | .lt => none
    | .eq => some v
    | .gt => get? key rest

/-- Give a key a value, in place of the one it has. -/
def set (key : κ) (value : α) : List (κ × α) → List (κ × α)
  | [] => [(key, value)]
  | (k, v) :: rest =>
    match compare key k with
    | .lt => (key, value) :: (k, v) :: rest
    | .eq => (key, value) :: rest
    | .gt => (k, v) :: set key value rest

/-- Take a key out. -/
def erase (key : κ) : List (κ × α) → List (κ × α)
  | [] => []
  | (k, v) :: rest =>
    match compare key k with
    | .lt => (k, v) :: rest
    | .eq => rest
    | .gt => (k, v) :: erase key rest

/-- Enter one entry after the other; of equal keys the last one stays. -/
def ofList (entries : List (κ × α)) : List (κ × α) :=
  entries.foldl (fun sorted e => set e.1 e.2 sorted) []

theorem ascending_nil : Ascending ([] : List (κ × α)) := List.Pairwise.nil

/-- The keys of `set` are the old ones and the new one. -/
theorem mem_set {key : κ} {value : α} {entries : List (κ × α)} {e : κ × α}
    (h : e ∈ set key value entries) : e.1 = key ∨ e ∈ entries := by
  induction entries with
  | nil => simp_all [set]
  | cons head rest ih =>
    obtain ⟨k, v⟩ := head
    grind [set]

/-- What is left after `erase` was there before. -/
theorem mem_of_mem_erase {key : κ} {entries : List (κ × α)} {e : κ × α}
    (h : e ∈ erase key entries) : e ∈ entries := by
  induction entries with
  | nil => simp_all [erase]
  | cons head rest ih =>
    obtain ⟨k, v⟩ := head
    grind [erase]

theorem Ascending.erase {key : κ} {entries : List (κ × α)} (h : Ascending entries) :
    Ascending (erase key entries) := by
  induction entries with
  | nil => exact ascending_nil
  | cons head rest ih =>
    obtain ⟨k, v⟩ := head
    obtain ⟨hk, hrest⟩ := List.pairwise_cons.1 h
    unfold Keyed.erase
    split
    · exact h
    · exact hrest
    · exact List.pairwise_cons.2 ⟨fun e he => hk e (mem_of_mem_erase he), ih hrest⟩

section
variable [Std.TransOrd κ] [Std.LawfulEqOrd κ]

theorem Ascending.set {key : κ} {value : α} {entries : List (κ × α)} (h : Ascending entries) :
    Ascending (set key value entries) := by
  induction entries with
  | nil => simp [Keyed.set, Ascending]
  | cons head rest ih =>
    obtain ⟨k, v⟩ := head
    obtain ⟨hk, hrest⟩ := List.pairwise_cons.1 h
    unfold Keyed.set
    split
    · rename_i hlt
      refine List.pairwise_cons.2 ⟨fun e he => ?_, h⟩
      rcases List.mem_cons.1 he with rfl | he
      · exact hlt
      · exact Std.TransCmp.lt_trans hlt (hk e he)
    · rename_i heq
      have hkey : key = k := Std.LawfulEqCmp.eq_of_compare heq
      exact List.pairwise_cons.2 ⟨fun e he => hkey ▸ hk e he, hrest⟩
    · rename_i hgt
      refine List.pairwise_cons.2 ⟨fun e he => ?_, ih hrest⟩
      rcases mem_set he with h | he
      · simpa [h] using Std.OrientedCmp.lt_of_gt hgt
      · exact hk e he

theorem Ascending.ofList (entries : List (κ × α)) : Ascending (Keyed.ofList entries) := by
  suffices h : ∀ sorted, Ascending sorted →
      Ascending (entries.foldl (fun sorted e => Keyed.set e.1 e.2 sorted) sorted) from
    h [] ascending_nil
  induction entries with
  | nil => exact fun _ h => h
  | cons e rest ih => exact fun _ h => ih _ h.set

end
end RewardDesk.Keyed
