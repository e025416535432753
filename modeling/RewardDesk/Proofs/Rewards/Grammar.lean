import RewardDesk.Proofs.Links.Pairs
import RewardDesk.Proofs.Rewards.Data
import RewardDesk.Proofs.Text.RoundTrip

/-!
# The grammar of reward data

What data of a type look like, without a word on how they are read: an object with the fields of
the type, amounts that are positive, identifiers that are more than blanks, and an expiry that is
a date and time (`RewardType.Grammar`). Exactly these data are admitted, and a reward is created
exactly if its data are (`RewardType.admission`).
-/

namespace RewardDesk

/-! ## Blanks

An identifier is refused if nothing is left of it without the blanks around it, that is, if it has
nothing but blanks. -/

namespace Text

theorem all_dropWhile {p : α → Bool} (as : List α) : (as.dropWhile p).all p = as.all p := by
  induction as with
  | nil => rfl
  | cons a as ih =>
    cases hp : p a with
    | true => rw [List.dropWhile_cons_of_pos hp, ih, List.all_cons, hp, Bool.true_and]
    | false => rw [List.dropWhile_cons_of_neg (by simp [hp])]

theorem dropWhile_eq_nil {p : α → Bool} {as : List α} : as.dropWhile p = [] ↔ as.all p := by
  induction as with
  | nil => exact iff_of_true rfl rfl
  | cons a as ih =>
    cases hp : p a with
    | true => rw [List.dropWhile_cons_of_pos hp, ih, List.all_cons, hp, Bool.true_and]
    | false => simp [hp]

/-- Nothing is left of a text of blanks, and of no other. -/
theorem trim_eq_empty {s : String} : trim s = "" ↔ isBlank s := by
  have hempty : ∀ cs : List Char, String.ofList cs = "" ↔ cs = [] := by
    intro cs
    rw [← String.toList_inj, String.toList_ofList]
    rfl
  rw [trim, hempty, trimEnd, List.reverse_eq_nil_iff, dropWhile_eq_nil, List.all_reverse, trimStart,
    all_dropWhile]
  rfl

end Text

/-! ## The grammar

The grammar speaks of JSON values only: of the names of members and of the values under them. That
it is followed exactly by the data that are admitted is shown in both directions, from what data
carry. -/

/-- The values that a field of reward data may have. -/
inductive RewardData.Permits : (field : String) → Json → Prop
  | amount (hfield : field = "points" ∨ field = "quantity") (hlow : 1 ≤ n)
      (hhigh : n ≤ Int.pow 2 63 - 1) : Permits field (.int n)
  | identifier (hfield : field = "itemId" ∨ field = "couponCode" ∨ field = "badgeId")
      (htrim : Text.trim s ≠ "") : Permits field (.string s)
  | time (hfield : field = "expiry") (hread : Rfc3339.read s = .ok t) : Permits field (.string s)

/-- Are these data of the type? -/
def RewardType.Grammar (t : RewardType) (v : Json) : Prop :=
  ∃ members, v = .object members ∧ (members.map (·.1)).Perm t.requiredFields ∧
    ∀ m ∈ members, RewardData.Permits m.1 m.2

namespace RewardData

variable {d : RewardData} {field : String} {v : Json}

/-- What sound data carry is permitted. -/
theorem Carries.permits (h : d.Carries field v) (hsound : d.Sound) : Permits field v := by
  cases d with
  | point points =>
    obtain ⟨rfl, rfl⟩ := h
    exact .amount (.inl rfl) hsound (Int.le_sub_one_of_lt points.toInt_lt)
  | item itemId quantity =>
    obtain ⟨hitem, hquantity⟩ := hsound
    rcases h with ⟨rfl, rfl⟩ | ⟨rfl, rfl⟩
    · exact .identifier (.inl rfl) (mt Text.trim_eq_empty.1 hitem)
    · exact .amount (.inr rfl) hquantity (Int.le_sub_one_of_lt quantity.toInt_lt)
  | coupon code expiry =>
    rcases h with ⟨rfl, rfl⟩ | ⟨rfl, s, rfl, hread⟩
    · exact .identifier (.inr (.inl rfl)) (mt Text.trim_eq_empty.1 hsound)
    · exact .time rfl hread
  | badge badgeId =>
    obtain ⟨rfl, rfl⟩ := h
    exact .identifier (.inr (.inr rfl)) (mt Text.trim_eq_empty.1 hsound)

/-- A permitted amount. -/
theorem Permits.amount_of (h : Permits field v) (hfield : field = "points" ∨ field = "quantity") :
    ∃ n : Int64, v = .int n.toInt ∧ 0 < n.toInt := by
  cases h with
  | @amount n _ hlow hhigh =>
    have hn : (Int64.ofInt n).toInt = n :=
      Int64.toInt_ofInt_of_le (Int.le_trans (by decide) hlow) (Int.lt_of_le_sub_one hhigh)
    exact ⟨.ofInt n, by rw [hn], by rw [hn]; exact hlow⟩
  | identifier h => rcases h with rfl | rfl | rfl <;> exact absurd hfield (by decide)
  | time h => exact absurd (h ▸ hfield) (by decide)

/-- A permitted identifier. -/
theorem Permits.identifier_of (h : Permits field v)
    (hfield : field = "itemId" ∨ field = "couponCode" ∨ field = "badgeId") :
    ∃ s, v = .string s ∧ ¬ Text.isBlank s := by
  cases h with
  | amount h => rcases h with rfl | rfl <;> exact absurd hfield (by decide)
  | identifier _ htrim => exact ⟨_, rfl, mt Text.trim_eq_empty.2 htrim⟩
  | time h => exact absurd (h ▸ hfield) (by decide)

/-- A permitted time. -/
theorem Permits.time_of (h : Permits "expiry" v) : ∃ s t, v = .string s ∧ Rfc3339.read s = .ok t := by
  cases h with
  | amount h => exact absurd h (by decide)
  | identifier h => exact absurd h (by decide)
  | time _ hread => exact ⟨_, _, rfl, hread⟩

end RewardData

namespace RewardType

variable {t : RewardType} {v : Json} {d : RewardData}

/-- Whatever follows the grammar is admitted. -/
theorem Grammar.exists_parse (h : t.Grammar v) : ∃ d, t.parse v = .ok d := by
  obtain ⟨members, rfl, hperm, hpermits⟩ := h
  have hadmitted : ∀ d : RewardData, d.type = t → d.Sound → (∀ m ∈ members, d.Carries m.1 m.2) →
      ∃ d, t.parse (.object members) = .ok d := fun d htype hsound hcarries =>
    ⟨d, parse_eq_ok.2 ⟨htype, hsound, members, rfl, hperm, hcarries⟩⟩
  cases t with
  | point =>
    obtain ⟨j, hmembers⟩ := exists_perm_one hperm
    simp only [hmembers.mem_iff, List.forall_mem_cons] at hpermits hadmitted
    obtain ⟨points, rfl, hpos⟩ := hpermits.1.amount_of (.inl rfl)
    exact hadmitted (.point points) rfl hpos ⟨⟨rfl, rfl⟩, nofun⟩
  | item =>
    obtain ⟨j, k, hmembers⟩ := exists_perm_two hperm
    simp only [hmembers.mem_iff, List.forall_mem_cons] at hpermits hadmitted
    obtain ⟨itemId, rfl, hblank⟩ := hpermits.1.identifier_of (.inl rfl)
    obtain ⟨quantity, rfl, hpos⟩ := hpermits.2.1.amount_of (.inr rfl)
    exact hadmitted (.item itemId quantity) rfl ⟨hblank, hpos⟩
      ⟨.inl ⟨rfl, rfl⟩, .inr ⟨rfl, rfl⟩, nofun⟩
  | coupon =>
    obtain ⟨j, k, hmembers⟩ := exists_perm_two hperm
    simp only [hmembers.mem_iff, List.forall_mem_cons] at hpermits hadmitted
    obtain ⟨code, rfl, hblank⟩ := hpermits.1.identifier_of (.inr (.inl rfl))
    obtain ⟨s, expiry, rfl, hread⟩ := hpermits.2.1.time_of
    exact hadmitted (.coupon code expiry) rfl hblank
      ⟨.inl ⟨rfl, rfl⟩, .inr ⟨rfl, s, rfl, hread⟩, nofun⟩
  | badge =>
    obtain ⟨j, hmembers⟩ := exists_perm_one hperm
    simp only [hmembers.mem_iff, List.forall_mem_cons] at hpermits hadmitted
    obtain ⟨badgeId, rfl, hblank⟩ := hpermits.1.identifier_of (.inr (.inr rfl))
    exact hadmitted (.badge badgeId) rfl hblank ⟨⟨rfl, rfl⟩, nofun⟩

theorem grammar_of_parse (h : t.parse v = .ok d) : t.Grammar v := by
  obtain ⟨-, hsound, members, rfl, hperm, hcarries⟩ := parse_eq_ok.1 h
  exact ⟨members, rfl, hperm, fun m hm => (hcarries m hm).permits hsound⟩

end RewardType

/-! ## Payloads

The data of a payload are the member of that name. A payload without one is treated like one with
null there. -/

/-- The data that a payload gives. Data that are left out count as null. -/
def CreateReward.dataOf : Json → Json
  | .object members => ((Json.object members).member? "rewardData").getD .null
  | .array items => items[3]?.getD .null
  | _ => .null

namespace Json

/-- A field of any JSON has the value of the member of its name, or its default. -/
theorem reads_any {name : String} {o : Origin} {members : List (String × Json)} {j default : Json}
    (hordered : (Json.object members).Ordered)
    (h : (Field.withDefault name .any default).Reads o
      (under name (Document.ofMemberList members)) j) :
    j = ((Json.object members).member? name).getD default := by
  obtain ⟨hascending, hmembers⟩ := hordered
  have hshown := membersShownBy_ofMemberList members
  cases hfind : members.find? (·.1 == name) with
  | none =>
    have habsent : name ∉ members.map (·.1) := by
      intro hname
      obtain ⟨e, he, rfl⟩ := List.mem_map.1 hname
      simpa using List.find?_eq_none.1 hfind e he
    rw [hshown.under_of_not_mem habsent] at h
    rw [member?, hfind]
    exact (Option.some.inj h).symm
  | some e =>
    obtain ⟨name', value⟩ := e
    have hname : name' = name := by simpa using List.find?_some hfind
    have hmem : (name, value) ∈ members := hname ▸ List.mem_of_find?_eq_some hfind
    obtain ⟨d, hunder, hd⟩ := hshown.under_of_mem (nodup_of_ascending hascending) hmem
    have hvalue := toJson_of_shownBy (orderedMembers_iff.1 hmembers _ hmem) hd
    rw [hunder] at h
    rw [member?, hfind]
    exact Except.ok.inj (h.1.symm.trans hvalue)

end Json

namespace CreateReward

variable {j : Json} {p : CreateReward}

open Json

/-- The fields of the payload. -/
def fields : Fields [String, Option String, RewardType, Json] :=
  .cons (.required "name" .string) <|
  .cons (.optional "description" .string) <|
  .cons (.required "type" RewardType.codec) <|
  .cons (.withDefault "rewardData" .any .null) .nil

/-- A payload has the data that it gives. -/
theorem rewardData_of_read (hordered : j.Ordered) (h : payload.read j = .ok p) :
    p.rewardData = dataOf j := by
  have hread := Payload.carries_of_read h
  cases j with
  | object members =>
    have hplain : fields.Plain := by decide
    obtain ⟨⟨row, more, place⟩, hobject, rfl⟩ := map_eq_ok.1 hread
    obtain ⟨⟨-, -, -, hdata, -⟩, -⟩ := (Fields.readObject_eq_ok hplain).1 hobject
    exact reads_any hordered hdata
  | array items =>
    obtain ⟨row, harray, rfl⟩ := map_eq_ok.1 hread
    obtain ⟨⟨⟨name, description, type, data, ⟨⟩⟩, left⟩, hitems, hend⟩ := bind_eq_ok.1 harray
    have hrow : row = (name, description, type, data, ()) := by
      cases left with
      | nil => exact (Except.ok.inj hend).symm
      | cons item left => exact absurd hend nofun
    rw [hrow]
    -- the first three fields must be there
    rcases items with _ | ⟨a, _ | ⟨b, _ | ⟨c, rest⟩⟩⟩
    · exact absurd hitems nofun
    · exact absurd (Fields.readItems_cons hitems).2 nofun
    · exact absurd (Fields.readItems_cons (Fields.readItems_cons hitems).2).2 nofun
    have hlast := (Fields.readItems_cons (Fields.readItems_cons (Fields.readItems_cons hitems).2).2).2
    cases rest with
    | nil =>
      obtain ⟨hrow, -⟩ := Prod.mk.inj (Except.ok.inj hlast)
      exact (Prod.mk.inj hrow).1.symm
    | cons d more =>
      have hd : d.Ordered := orderedItems_iff.1 hordered d (by simp)
      have hdata := (Fields.readItems_cons hlast).1
      exact Except.ok.inj (hdata.symm.trans (toJson_of_shownBy hd (shownBy_ofJson d)))
  | _ => exact absurd hread nofun

end CreateReward

/-! ## The command

With the data settled the command itself is short: it checks them, draws an id and the time, and
stores the reward. -/

namespace solo

variable {s : Store} {p : CreateReward}

/-- A reward is created if its data are admitted. -/
theorem obeys_createReward {d : RewardData} (h : p.type.parse p.rewardData = .ok d) :
    (Rewards.create p).run.Obeys solo s fun outcome s' => ∃ r : Reward,
      outcome = .ok r ∧ r.data = d ∧ s'.rewards.get? r.id = some r := by
  simp only [Rewards.create, Rewards.accept, h, Desk.obeys_within, Desk.obeys_bind,
    Desk.obeys_liftM, obeys_clock, obeys_freshId, obeys_perform, Desk.obeys_measure, Desk.obeys_note]
  intro time id
  refine ⟨_, rfl, rfl, ?_⟩
  simp [Store.execute]

/-- Data that are not admitted are refused, and nothing is created. -/
theorem refuses_createReward {problem : RewardData.Problem}
    (h : p.type.parse p.rewardData = .error problem) :
    (Rewards.create p).run.Obeys solo s fun outcome s' =>
      outcome = .error (.invalidRewardData p.type problem) ∧ s' = s := by
  simp [Rewards.create, Rewards.accept, h]

end solo

theorem Router.get?_createReward : standard.get? "create_reward" =
    some (.of "create_reward" CreateReward.payload Rewards.create Reward.codec.encode) := by rfl

/-- Data are admitted exactly if they follow the grammar of their type, and what they become is of
that type and carries what they give. So a reward is created exactly if the data of its payload,
null if there are none, follow the grammar; otherwise its type is refused with them and nothing
changes. -/
theorem RewardType.admission (t : RewardType) (v : Json) :
    ((∃ d, t.parse v = .ok d) ↔ t.Grammar v) ∧
    (∀ d, t.parse v = .ok d →
      d.type = t ∧ ∃ members, v = .object members ∧ ∀ m ∈ members, d.Carries m.1 m.2) ∧
    ∀ (supply : Supply) (w : World Store) (j : Json) (p : CreateReward), j.Ordered →
      CreateReward.payload.read j = .ok p → p.type = t → CreateReward.dataOf j = v →
        let served := w.served supply "create_reward" j
        (t.Grammar v → ∃ r : Reward, served.1 = .ok (Reward.codec.encode r) ∧
          t.parse v = .ok r.data ∧ served.2.storage.rewards.get? r.id = some r) ∧
        (¬ t.Grammar v → (∃ problem, served.1 = .error (.invalidRewardData t problem)) ∧
          served.2.storage = w.storage) := by
  have hgrammar : (∃ d, t.parse v = .ok d) ↔ t.Grammar v :=
    ⟨fun ⟨_, h⟩ => grammar_of_parse h, Grammar.exists_parse⟩
  refine ⟨hgrammar, fun d h => ?_, fun supply w j p hordered hread htype hdata => ?_⟩
  · obtain ⟨htype, -, members, hv, -, hcarries⟩ := parse_eq_ok.1 h
    exact ⟨htype, members, hv, hcarries⟩
  · obtain rfl : p.rewardData = v := (CreateReward.rewardData_of_read hordered hread).trans hdata
    obtain rfl := htype
    have hserved : ∀ post : Except DeskError Json → Store → Prop,
        (Rewards.create p).run.Obeys solo w.storage
          (fun outcome s => post (outcome.map Reward.codec.encode) s) →
        post (w.served supply "create_reward" j).1 (w.served supply "create_reward" j).2.storage := by
      intro post h
      have hobeys : (Router.standard.dispatch "create_reward" j).Obeys solo w.storage post := by
        rw [solo.obeys_dispatch Router.get?_createReward, hread]
        exact h
      exact solo.run hobeys
    cases hparse : p.type.parse p.rewardData with
    | ok d =>
      refine ⟨fun _ => ?_, fun hnot => absurd (hgrammar.1 ⟨d, hparse⟩) hnot⟩
      refine hserved (fun outcome s => ∃ r : Reward, outcome = .ok (Reward.codec.encode r) ∧
        Except.ok d = .ok r.data ∧ s.rewards.get? r.id = some r)
        ((solo.obeys_createReward hparse).mono ?_)
      rintro _ _ ⟨r, rfl, hr, hstored⟩
      exact ⟨r, rfl, congrArg Except.ok hr.symm, hstored⟩
    | error problem =>
      refine ⟨fun h => ?_, fun _ => ?_⟩
      · obtain ⟨d, hd⟩ := hgrammar.2 h
        exact absurd (hparse.symm.trans hd) nofun
      · refine hserved (fun outcome s => (∃ problem, outcome =
          .error (.invalidRewardData p.type problem)) ∧ s = w.storage)
          ((solo.refuses_createReward hparse).mono ?_)
        rintro _ _ ⟨rfl, rfl⟩
        exact ⟨⟨problem, rfl⟩, rfl⟩

/-- A badge with an identifier is created. -/
theorem RewardType.admission_of_badge :
    let data := Json.object [("badgeId", .string "b")]
    let payload := Json.object [("name", .string "B"), ("rewardData", data), ("type", .string "BADGE")]
    let served := World.served .growing { storage := .empty, channel := .ofCapacity 1 }
      "create_reward" payload
    RewardType.badge.Grammar data ∧
      CreateReward.payload.read payload = .ok ⟨"B", none, .badge, data⟩ ∧
      ∃ r : Reward, served.1 = .ok (Reward.codec.encode r) ∧
        RewardType.badge.parse data = .ok r.data ∧ served.2.storage.rewards.get? r.id = some r := by
  intro data payload served
  have hgrammar : RewardType.badge.Grammar data := by
    refine ⟨_, rfl, .refl _, fun m hm => ?_⟩
    obtain rfl := List.mem_singleton.1 hm
    exact .identifier (.inr (.inr rfl)) (by decide)
  have hread : CreateReward.payload.read payload = .ok ⟨"B", none, .badge, data⟩ := rfl
  have hordered : payload.Ordered := by
    simp [payload, data, Json.Ordered, Json.OrderedMembers, Keyed.Ascending]
    decide
  exact ⟨hgrammar, hread, ((admission .badge data).2.2 _ _ _ _ hordered hread rfl rfl).1 hgrammar⟩

end RewardDesk
