import RewardDesk.Proofs.Records.Lineage
import RewardDesk.Proofs.Rewards.Wire

/-!
# Rewards in rows

A row of the table keeps the type of a reward and its bare data apart, and the data are admitted
once more when the row is read. Data that were admitted are admitted again, as what they are and as
nothing else, so no row of a reward that was created is corrupt (`Reward.rows_return`).
-/

namespace RewardDesk

/-! ## Bare data

The type of bare data can be told from the names of their fields alone, which differ from type to
type. -/

/-- No two types have the same fields. -/
theorem RewardType.eq_of_perm {t t' : RewardType} (h : t.requiredFields.Perm t'.requiredFields) :
    t = t' := by
  revert h
  cases t <;> cases t' <;> decide

namespace RewardData

/-- What is legible and sound is admitted from its own bare data. -/
theorem parse_bare {d : RewardData} (hlegible : d.Legible) (hsound : d.Sound) :
    d.type.parse d.bare = .ok d := by
  obtain ⟨members, hbare, hnames, hcarries⟩ := d.exists_bare
  exact RewardType.parse_eq_ok.2 ⟨rfl, hsound, members, hbare, hnames, hcarries hlegible⟩

/-- Only as data of their own type are bare data admitted. -/
theorem eq_type_of_parse_bare {d d' : RewardData} {t : RewardType} (h : t.parse d.bare = .ok d') :
    t = d.type := by
  obtain ⟨members, hbare, hnames, -⟩ := d.exists_bare
  obtain ⟨-, -, members', hbare', hnames', -⟩ := RewardType.parse_eq_ok.1 h
  obtain rfl := Json.object.inj (hbare.symm.trans hbare')
  exact RewardType.eq_of_perm (hnames'.symm.trans hnames)

/-- What was admitted is legible. -/
theorem legible_of_parse {t : RewardType} {v : Json} {d : RewardData} (h : t.parse v = .ok d) :
    d.Legible := by
  obtain ⟨rfl, -, members, -, hnames, hcarries⟩ := RewardType.parse_eq_ok.1 h
  exact legible_of_carries hnames hcarries

end RewardData

/-! ## Rows

Rewards are only ever created from data that were admitted (`Errand.records_descend`). The row keeps
those data in the bare form, so reading it admits them a second time. -/

/-- A reward whose data were admitted is the reward of its row. -/
theorem Reward.Admitted.toReward_toRow {r : Reward} (h : r.Admitted) : r.toRow.toReward = .ok r := by
  obtain ⟨t, v, hparse⟩ := h
  have hdata : r.type.parse r.data.bare = .ok r.data :=
    RewardData.parse_bare (RewardData.legible_of_parse hparse) (RewardType.sound_of_parse hparse)
  rw [RewardRow.toReward]
  simp only [toRow, hdata]

/-- Admitted data are admitted again from their bare data, as data of their own type with the same
values and of no other type. So after any calls of any errands, in any order, every reward there is
the reward of its row. -/
theorem Reward.rows_return :
    (∀ t v d, RewardType.parse t v = .ok d →
      d.type.parse d.bare = .ok d ∧ ∀ t' d', t'.parse d.bare = .ok d' → t' = d.type) ∧
    ∀ {ι : Type} [DecidableEq ι] (supply : Supply) (channel : Channel StatusChange)
      (errands : ι → Errand) (schedule : List ι) (id : String) (r : Reward),
      (Errand.runAll supply channel errands schedule).state.storage.rewards.get? id = some r →
        r.toRow.toReward = .ok r := by
  constructor
  · intro t v d h
    exact ⟨RewardData.parse_bare (RewardData.legible_of_parse h) (RewardType.sound_of_parse h),
      fun t' d' h' => RewardData.eq_type_of_parse_bare h'⟩
  · intro ι _ supply channel errands schedule id r hr
    exact ((Errand.records_descend supply channel errands schedule).rewards id r hr).toReward_toRow

/-- A coupon that expires in a leap second of a late year, and is created with an offset. -/
theorem Reward.rows_return_of_coupon :
    let data := Json.object
      [("couponCode", .string " C "), ("expiry", .string "+12024-07-01T01:59:60.5+02:00")]
    let d := RewardData.coupon " C " ⟨317289311999, 1500000000⟩
    let errands : Unit → Errand := fun _ => .command "create_reward"
      (.object [("name", .string "R"), ("rewardData", data), ("type", .string "COUPON")])
    let s := (Errand.runAll .growing (.ofCapacity 1) errands (.replicate 12 ())).state.storage
    RewardType.coupon.parse data = .ok d ∧ RewardType.coupon.parse d.bare = .ok d ∧
      ∃ r, s.rewards.get? "x" = some r ∧ r.data = d ∧ r.toRow.toReward = .ok r := by
  intro data d errands s
  obtain ⟨hadmitted, hstored⟩ := rows_return
  have hparse : RewardType.coupon.parse data = .ok d := toOption_eq_some.1 (by decide +kernel)
  have hdata : (s.rewards.get? "x").map (·.data) = some d := by decide +kernel
  obtain ⟨r, hr, hd⟩ := Option.map_eq_some_iff.1 hdata
  exact ⟨hparse, (hadmitted _ _ _ hparse).1, r, hr, hd, hstored _ _ _ _ _ _ hr⟩

end RewardDesk
