import Mathlib.Data.List.Basic

/-!
# What has happened

A history is a list, its earliest entry first. Something has happened (`History.Happened`) when it
was the case at one of the entries, in view of the ones before, and it holds since (`History.Since`)
when no entry behind that one has undone it. One entry more changes this only at the end
(`happened_concat`, `since_concat`), which is where a run is one step longer.
-/

namespace RewardDesk.History

variable {α : Type} {history : List α} {last : α}

/-- The ways to cut a history of one entry more at one of its entries. -/
theorem concat_eq_append_cons_iff {earlier later : List α} {x : α} :
    history ++ [last] = earlier ++ x :: later ↔
      (history = earlier ∧ last = x ∧ later = []) ∨
        ∃ rest, later = rest ++ [last] ∧ history = earlier ++ x :: rest := by
  constructor
  · intro h
    rcases later.eq_nil_or_concat with rfl | ⟨rest, y, rfl⟩
    · obtain ⟨rfl, heq⟩ := List.append_inj' h rfl
      exact .inl ⟨rfl, List.singleton_inj.1 heq, rfl⟩
    · rw [List.concat_eq_append, ← List.cons_append, ← List.append_assoc] at h
      obtain ⟨hhistory, heq⟩ := List.append_inj' h rfl
      obtain rfl := List.singleton_inj.1 heq
      exact .inr ⟨rest, List.concat_eq_append, hhistory⟩
  · rintro (⟨rfl, rfl, rfl⟩ | ⟨rest, rfl, rfl⟩)
    · rfl
    · simp

/-! ## Happened and since

Both are about some place in the list, but to follow a run nobody has to look for it: the two lemmas
about one more entry are all that later proofs use. -/

/-- At one of the entries it was the case, in view of what was there before. -/
def Happened (P : List α → α → Prop) (history : List α) : Prop :=
  ∃ earlier x, earlier ++ [x] <+: history ∧ P earlier x

/-- At one of the entries it was the case, and none of those behind has undone it. -/
def Since (P : List α → α → Prop) (undoes : α → Prop) (history : List α) : Prop :=
  ∃ earlier x later, history = earlier ++ x :: later ∧ P earlier x ∧ ∀ y ∈ later, ¬ undoes y

variable {P : List α → α → Prop} {undoes : α → Prop}

theorem not_happened_nil : ¬ Happened P [] := by
  rintro ⟨earlier, x, hsplit, -⟩
  simp at hsplit

theorem happened_concat : Happened P (history ++ [last]) ↔ Happened P history ∨ P history last := by
  constructor
  · rintro ⟨earlier, x, hsplit, hx⟩
    rcases List.prefix_concat_iff.1 hsplit with heq | hsplit
    · obtain ⟨rfl, hsame⟩ := List.append_inj' heq rfl
      obtain rfl := List.singleton_inj.1 hsame
      exact .inr hx
    · exact .inl ⟨earlier, x, hsplit, hx⟩
  · rintro (⟨earlier, x, hsplit, hx⟩ | hlast)
    · exact ⟨earlier, x, hsplit.trans (List.prefix_append _ _), hx⟩
    · exact ⟨history, last, List.prefix_rfl, hlast⟩

theorem not_since_nil : ¬ Since P undoes [] := by
  rintro ⟨earlier, x, later, hnil, -⟩
  simp at hnil

theorem since_concat : Since P undoes (history ++ [last]) ↔
    P history last ∨ (Since P undoes history ∧ ¬ undoes last) := by
  constructor
  · rintro ⟨earlier, x, later, hsplit, hx, hkept⟩
    rcases concat_eq_append_cons_iff.1 hsplit with ⟨rfl, rfl, rfl⟩ | ⟨rest, rfl, rfl⟩
    · exact .inl hx
    · refine .inr ⟨⟨earlier, x, rest, rfl, hx, fun y hy => hkept y ?_⟩, hkept last ?_⟩
      · exact List.mem_append_left _ hy
      · exact List.mem_append_right _ List.mem_cons_self
  · rintro (hlast | ⟨⟨earlier, x, later, rfl, hx, hkept⟩, hlast⟩)
    · exact ⟨history, last, [], rfl, hlast, fun _ hy => absurd hy List.not_mem_nil⟩
    · refine ⟨earlier, x, later ++ [last], by simp, hx, fun y hy => ?_⟩
      rcases List.mem_append.1 hy with hy | hy
      · exact hkept y hy
      · rwa [List.mem_singleton.1 hy]

end RewardDesk.History
