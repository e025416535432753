import Mathlib.Logic.Function.Basic
import RewardDesk.Session.World

/-!
# Ids in reserve

Whoever is going to create a record draws an id for it beforehand. As long as no id is given out
twice, the ids that are held for later are in nobody else's hands, and no record has them
(`Reserved`). To draw an id (`Reserved.draw`) and to use the one that is held (`Reserved.use`) keep
it so.
-/

namespace RewardDesk

variable {ι : Type} {supply : Supply} {taken taken' : String → Prop} {given : Nat}
  {held held' : ι → Option String}

/-! ## Reserves

Ids that were drawn count upwards, so the next one differs from all of them if no id is given out
twice. This is the one place at which that assumption is used. -/

/-- Ids that are taken or held were drawn, and those that are held are still to be used. -/
structure Reserved (supply : Supply) (taken : String → Prop) (given : Nat)
    (held : ι → Option String) : Prop where
  taken_drawn : ∀ id, taken id → ∃ n < given, id = supply.id n
  held_drawn : ∀ i id, held i = some id → ∃ n < given, id = supply.id n
  distinct : ∀ i j id, held i = some id → held j = some id → i = j
  unused : ∀ i id, held i = some id → ¬ taken id

namespace Reserved

theorem start (supply : Supply) (h : ∀ id, ¬ taken id) :
    Reserved supply taken 0 fun _ : ι => none where
  taken_drawn id hid := absurd hid (h id)
  held_drawn _ _ hi := absurd hi nofun
  distinct _ _ _ hi := absurd hi nofun
  unused _ _ hi := absurd hi nofun

/-- Nothing is lost when no id is taken or drawn. -/
theorem frame (h : Reserved supply taken given held) (htaken : ∀ id, taken' id → taken id)
    (hheld : ∀ i id, held' i = some id → held i = some id) :
    Reserved supply taken' given held' where
  taken_drawn id hid := h.taken_drawn id (htaken id hid)
  held_drawn i id hi := h.held_drawn i id (hheld i id hi)
  distinct i j id hi hj := h.distinct i j id (hheld i id hi) (hheld j id hj)
  unused i id hi hid := h.unused i id (hheld i id hi) (htaken id hid)

/-! ## One more id

Only one holder is concerned at a time, and what the others hold stays theirs. -/

variable [DecidableEq ι]

theorem update_eq_some {i j : ι} {entry : Option String} {id : String}
    (h : Function.update held i entry j = some id) :
    (j = i ∧ entry = some id) ∨ (j ≠ i ∧ held j = some id) := by
  by_cases hj : j = i
  · subst hj
    rw [Function.update_self] at h
    exact .inl ⟨rfl, h⟩
  · rw [Function.update_of_ne hj] at h
    exact .inr ⟨hj, h⟩

/-- The id that is drawn next is new. -/
theorem draw (hids : Function.Injective supply.id) (h : Reserved supply taken given held) (i : ι) :
    Reserved supply taken (given + 1) (Function.update held i (some (supply.id given))) := by
  -- What was drawn before, whether held or taken, is not drawn again.
  have hlater : ¬ ∃ n < given, supply.id given = supply.id n := by
    rintro ⟨n, hn, heq⟩
    exact Nat.ne_of_lt hn (hids heq).symm
  have hmore : ∀ {id}, (∃ n < given, id = supply.id n) → ∃ n < given + 1, id = supply.id n := by
    rintro _ ⟨n, hn, rfl⟩
    exact ⟨n, Nat.lt_succ_of_lt hn, rfl⟩
  constructor
  · exact fun id hid => hmore (h.taken_drawn id hid)
  · intro j id hj
    rcases update_eq_some hj with ⟨-, heq⟩ | ⟨-, hj⟩
    · exact ⟨given, Nat.lt_succ_self given, (Option.some.inj heq).symm⟩
    · exact hmore (h.held_drawn j id hj)
  · intro j k id hj hk
    rcases update_eq_some hj with ⟨rfl, heq⟩ | ⟨-, hj'⟩
    · obtain rfl := Option.some.inj heq
      rcases update_eq_some hk with ⟨rfl, -⟩ | ⟨-, hk'⟩
      · rfl
      · exact absurd (h.held_drawn k _ hk') hlater
    · rcases update_eq_some hk with ⟨rfl, heq⟩ | ⟨-, hk'⟩
      · obtain rfl := Option.some.inj heq
        exact absurd (h.held_drawn j _ hj') hlater
      · exact h.distinct j k id hj' hk'
  · intro j id hj hid
    rcases update_eq_some hj with ⟨-, heq⟩ | ⟨-, hj⟩
    · obtain rfl := Option.some.inj heq
      exact hlater (h.taken_drawn _ hid)
    · exact h.unused j id hj hid

/-- Whoever uses the id that is held has it no longer. -/
theorem use (h : Reserved supply taken given held) {i : ι} {id : String} (hi : held i = some id)
    (htaken : ∀ x, taken' x → taken x ∨ x = id) :
    Reserved supply taken' given (Function.update held i none) := by
  have hkeep : ∀ {j x}, Function.update held i none j = some x → j ≠ i ∧ held j = some x := by
    intro j x hj
    rcases update_eq_some hj with ⟨-, hnone⟩ | hj
    · exact absurd hnone nofun
    · exact hj
  constructor
  · intro x hx
    rcases htaken x hx with hx | rfl
    · exact h.taken_drawn x hx
    · exact h.held_drawn i x hi
  · exact fun j x hj => h.held_drawn j x (hkeep hj).2
  · exact fun j k x hj hk => h.distinct j k x (hkeep hj).2 (hkeep hk).2
  · intro j x hj hx
    obtain ⟨hji, hj⟩ := hkeep hj
    rcases htaken x hx with hx | rfl
    · exact h.unused j x hj hx
    -- Only `i` held this id.
    · exact hji (h.distinct j i x hj hi)

end Reserved
end RewardDesk
