import RewardDesk.Proofs.Text.LetterCase
import RewardDesk.Store.Basic

/-!
# The search for a part of a name

A name and the part that is sought in it are turned to lowercase each as a whole. A part of a name
is found therefore, unless a capital sigma next to one of its cuts becomes another letter than in
the name (`Reward.parts_found_unless_sigma_turns`): `ΑΣ` is not found in `ΑΣΑ`
(`Reward.part_not_found`).
-/

namespace RewardDesk
namespace Reward

open Text (SigmaTurns casedAhead lowercase lowerFrom lowerWithin)

/-- What a name becomes in lowercase, by its parts. -/
theorem toList_lowercase_append (before part after : String) :
    (lowercase (before ++ part ++ after)).toList =
      lowerWithin [] before.toList (part ++ after).toList ++
        (lowerWithin before.toList.reverse part.toList after.toList ++
          lowerFrom (before ++ part).toList.reverse after.toList) := by
  simp [lowercase, Text.lowerFrom_append]

/-- A part of a name that is sought as it stands there, among the rewards of all types or of its
own.

* It is found, and no store leaves the reward out of what it lists, unless a capital sigma turns
  where the part is cut out of the name.
* The lowercase of the part is what the lowercase of the name has in its place if and only if none
  does.
* None does in a part without a capital sigma, and none if there is no cased letter next to the
  part. -/
theorem parts_found_unless_sigma_turns (r : Reward) (type : Option RewardType)
    (before part after : String) (htype : type = none ∨ type = some r.type)
    (hname : r.name = before ++ part ++ after) :
    let f : RewardFilter := ⟨type, some part⟩
    let turns := SigmaTurns before.toList part.toList after.toList
    let place := lowerWithin before.toList.reverse part.toList after.toList
    (¬ turns → f.admits r = true ∧ ∀ s : Store, r ∈ s.rewards.values → r ∈ s.rewardsOf f) ∧
    ((lowercase r.name).toList = lowerWithin [] before.toList (part ++ after).toList ++
        (place ++ lowerFrom (before ++ part).toList.reverse after.toList) ∧
      (place = (lowercase part).toList ↔ ¬ turns)) ∧
    (turns → 'Σ' ∈ part.toList ∧ (casedAhead before.toList.reverse ∨ casedAhead after.toList)) := by
  intro f turns place
  have hwhole := toList_lowercase_append before part after
  rw [← hname] at hwhole
  have hplace : place = (lowercase part).toList ↔ ¬ turns := by
    rw [lowercase, String.toList_ofList]
    exact Text.lowerWithin_eq_iff
  refine ⟨?_, ⟨hwhole, hplace⟩, SigmaTurns.exposed⟩
  intro hturns
  have hfound : Text.occursIn (lowercase part).toList (lowercase r.name).toList = true := by
    rw [Text.occursIn_iff_infix, hwhole, ← hplace.2 hturns]
    exact ⟨_, _, List.append_assoc ..⟩
  have htyped : f.type.all (· = r.type) = true := by
    show type.all _ = true
    rcases htype with rfl | rfl <;> simp
  have hadmits : f.admits r = true := by
    rw [RewardFilter.admits, htyped]
    exact hfound
  refine ⟨hadmits, ?_⟩
  intro s hr
  exact List.mem_filter.2 ⟨hr, hadmits⟩

/-- A badge of the given name. -/
def named (name : String) : Reward := ⟨"r", name, none, .badge "b", default, default⟩

/-- A part with a sigma that ends a word of the name as it does in the part. -/
theorem parts_found_unless_sigma_turns_of_word :
    let r := named "ΟΔΟΣ ΑΒ"
    (some .badge : Option RewardType) = some r.type ∧ r.name = "Ο" ++ "ΔΟΣ" ++ " ΑΒ" ∧
      ¬ SigmaTurns "Ο".toList "ΔΟΣ".toList " ΑΒ".toList ∧
      RewardFilter.admits ⟨some .badge, some "ΔΟΣ"⟩ r = true := by
  intro r
  have hturns : ¬ SigmaTurns "Ο".toList "ΔΟΣ".toList " ΑΒ".toList := by decide +kernel
  obtain ⟨hfound, -, -⟩ :=
    parts_found_unless_sigma_turns r (some .badge) "Ο" "ΔΟΣ" " ΑΒ" (.inr rfl) rfl
  exact ⟨rfl, rfl, hturns, (hfound hturns).1⟩

/-- The part of a name that ends with the sigma of it is not found. -/
theorem part_not_found :
    let r := named "ΑΣΑ"
    r.name = "" ++ "ΑΣ" ++ "Α" ∧ RewardFilter.admits ⟨none, some "ΑΣ"⟩ r = false := by
  intro r
  exact ⟨rfl, by decide +kernel⟩

end Reward
end RewardDesk
