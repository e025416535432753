import RewardDesk.Proofs.Json.Returns
import RewardDesk.Proofs.Records.Soundness

/-!
# What reward data consist of

Bare data are an object that has the fields of its type, each once, and no others
(`RewardData.decodeBare_eq_ok`). `RewardData.Carries` says which values these have, and
`RewardType.parse_eq_ok` that data are admitted if they are sound besides.
-/

namespace RewardDesk

/-! ## Rearranged members -/

/-- Items whose images are rearranged can be rearranged themselves. -/
theorem exists_perm_of_map_perm {f : α → β} {as : List α} {bs : List β}
    (h : (as.map f).Perm bs) : ∃ as', as.Perm as' ∧ as'.map f = bs := by
  generalize hmap : as.map f = cs at h
  induction h generalizing as with
  | nil => exact ⟨as, .refl _, hmap⟩
  | cons b _ ih =>
    obtain ⟨a, rest, rfl, rfl, hrest⟩ := List.map_eq_cons_iff.1 hmap
    obtain ⟨as', hperm, hmap'⟩ := ih hrest
    exact ⟨a :: as', hperm.cons a, by rw [List.map_cons, hmap']⟩
  | swap b c bs =>
    obtain ⟨a, rest, rfl, rfl, hrest⟩ := List.map_eq_cons_iff.1 hmap
    obtain ⟨a', rest', rfl, rfl, rfl⟩ := List.map_eq_cons_iff.1 hrest
    exact ⟨a' :: a :: rest', .swap .., rfl⟩
  | trans _ _ ih ih' =>
    obtain ⟨as', hperm, hmap'⟩ := ih hmap
    obtain ⟨as'', hperm', hmap''⟩ := ih' hmap'
    exact ⟨as'', hperm.trans hperm', hmap''⟩

section
variable {members : List (String × Json)} {field field' : String}

/-- The member of an object with one name. -/
theorem exists_perm_one (h : (members.map (·.1)).Perm [field]) :
    ∃ j, members.Perm [(field, j)] := by
  obtain ⟨as, hperm, has⟩ := exists_perm_of_map_perm h
  obtain ⟨⟨_, j⟩, rfl, hfield⟩ := List.map_eq_singleton_iff.1 has
  exact ⟨j, hfield ▸ hperm⟩

/-- The members of an object with two names. -/
theorem exists_perm_two (h : (members.map (·.1)).Perm [field, field']) :
    ∃ j k, members.Perm [(field, j), (field', k)] := by
  obtain ⟨as, hperm, has⟩ := exists_perm_of_map_perm h
  obtain ⟨⟨_, j⟩, rest, rfl, hfield, hrest⟩ := List.map_eq_cons_iff.1 has
  obtain ⟨⟨_, k⟩, rfl, hfield'⟩ := List.map_eq_singleton_iff.1 hrest
  exact ⟨j, k, hfield ▸ hfield' ▸ hperm⟩

end

namespace Json

/-! ## Objects with nothing but their fields

If every field must be there and others are refused, the members of an object are exactly the
fields, in some order. -/

namespace Fields

/-- Must every field be there? -/
def Demanding : Fields αs → Prop
  | .nil => True
  | .cons f rest => f.absent.inObject? = none ∧ rest.Demanding

theorem nodup_names {fs : Fields αs} (hplain : fs.Plain) : fs.names.Nodup := by
  induction fs with
  | nil => exact List.nodup_nil
  | cons f rest ih => exact List.nodup_cons.2 ⟨hplain.2.1, ih hplain.2.2⟩

theorem length_under {fs : Fields αs} {o : Origin} {shown : List (Key × Document)} {row : Row αs}
    {name : String} (hdemanding : fs.Demanding) (hreads : fs.Reads o shown row)
    (hname : name ∈ fs.names) : (under name shown).length = 1 := by
  induction fs with
  | nil => exact absurd hname List.not_mem_nil
  | cons f rest ih =>
    obtain ⟨a, row⟩ := row
    obtain ⟨hfield, hmore⟩ := hreads
    rcases List.mem_cons.1 hname with rfl | hname
    · cases hunder : under f.name shown with
      | nil =>
        rw [hunder, Field.Reads, hdemanding.1] at hfield
        cases hfield
      | cons d ds =>
        rw [hunder] at hfield
        rw [hfield.2]
        rfl
    · exact ih hdemanding.2 hmore hname

/-- An object that has all the fields and no others has each of them once. -/
theorem names_perm {fs : Fields αs} {o : Origin} {shown : List (Key × Document)} {row : Row αs}
    (hplain : fs.Plain) (hdemanding : fs.Demanding) (hreads : fs.Reads o shown row)
    (hnames : ∀ m ∈ shown, m.1.name ∈ fs.names) : (shown.map (·.1.name)).Perm fs.names := by
  refine List.perm_iff_count.2 fun name => ?_
  rw [(nodup_names hplain).count]
  split
  case isTrue hname =>
    rw [← length_under hdemanding hreads hname, under, List.length_map, List.count_eq_countP,
      List.countP_map, List.countP_eq_length_filter]
    rfl
  case isFalse hname =>
    refine List.count_eq_zero_of_not_mem fun hmem => hname ?_
    obtain ⟨m, hm, rfl⟩ := List.mem_map.1 hmem
    exact hnames m hm

end Fields

/-! ## Which values are read

One lemma for each kind of value: which JSON it is read from, and as what. -/

section
variable {j : Json} {d : Document} {o : Origin}

theorem Codec.string_eq_ok {s : String} (h : j.ShownBy d) :
    string.decode o d = .ok s ↔ j = .string s := by
  cases j with
  | string s' =>
    obtain ⟨spot, rfl⟩ := h
    exact ⟨fun heq => congrArg _ (Except.ok.inj heq), fun heq => congrArg _ (Json.string.inj heq)⟩
  | array items => obtain ⟨_, _, _, rfl, -⟩ := h; exact ⟨nofun, nofun⟩
  | object members => obtain ⟨_, _, _, rfl, -⟩ := h; exact ⟨nofun, nofun⟩
  | _ => obtain ⟨spot, rfl⟩ := h; exact ⟨nofun, nofun⟩

theorem Codec.int64_eq_ok {n : Int64} (h : j.ShownBy d) :
    int64.decode o d = .ok n ↔ j = .int n.toInt := by
  constructor
  · intro hdecode
    obtain ⟨m, hm, rfl⟩ := map_eq_ok.1 hdecode
    cases j with
    | int m' =>
      obtain ⟨spot, rfl⟩ := h
      obtain ⟨⟨hlow, hhigh⟩, rfl⟩ : (-Int.pow 2 63 ≤ m' ∧ m' ≤ Int.pow 2 63 - 1) ∧ m' = m := by
        simp only [integer] at hm
        split at hm
        · exact ⟨‹_›, Except.ok.inj hm⟩
        · cases hm
      rw [Int64.toInt_ofInt_of_le hlow (Int.lt_of_le_sub_one hhigh)]
    | array items => obtain ⟨_, _, _, rfl, -⟩ := h; cases hm
    | object members => obtain ⟨_, _, _, rfl, -⟩ := h; cases hm
    | _ => obtain ⟨spot, rfl⟩ := h; cases hm
  · rintro rfl
    exact returns_int64 n o d h

theorem Codec.instant_eq_ok {t : Instant} (h : j.ShownBy d) :
    instant.decode o d = .ok t ↔ ∃ s, j = .string s ∧ Rfc3339.read s = .ok t := by
  cases j with
  | string s =>
    obtain ⟨spot, rfl⟩ := h
    have hread : instant.decode o (.leaf (.string s) spot) = .ok t ↔ Rfc3339.read s = .ok t := by
      simp only [instant]
      cases Rfc3339.read s with
      | ok t' => simp only [Except.ok.injEq]
      | error problem => simp only [reduceCtorEq]
    simp [hread]
  | array items => obtain ⟨_, _, _, rfl, -⟩ := h; simp [instant]
  | object members => obtain ⟨_, _, _, rfl, -⟩ := h; simp [instant]
  | _ => obtain ⟨spot, rfl⟩ := h; simp [instant]

/-- What a field is read from, when an object shows the member of its name. -/
theorem Field.reads_iff {f : Field α} {a : α} {P : Json → Prop} {members : List (String × Json)}
    {shown : List (Key × Document)} (hshown : MembersShownBy members shown)
    (hnodup : (members.map (·.1)).Nodup) (hmem : (f.name, j) ∈ members)
    (hread : ∀ {d}, j.ShownBy d → (f.codec.decode o d = .ok a ↔ P j)) :
    f.Reads o (under f.name shown) a ↔ P j := by
  obtain ⟨d, hunder, hd⟩ := hshown.under_of_mem hnodup hmem
  rw [hunder, ← hread hd]
  exact and_iff_left rfl

end
end Json

namespace RewardData

open Json

/-! ## Bare data

Types have one field or two. Both cases come from one theorem on any number of them
(`exactly_eq_ok`). -/

/-- Is this the value that the data have in this field? -/
def Carries (d : RewardData) (field : String) (value : Json) : Prop :=
  match d with
  | .point points => field = "points" ∧ value = .int points.toInt
  | .item itemId quantity =>
    (field = "itemId" ∧ value = .string itemId) ∨ (field = "quantity" ∧ value = .int quantity.toInt)
  | .coupon code expiry => (field = "couponCode" ∧ value = .string code) ∨
      (field = "expiry" ∧ ∃ s, value = .string s ∧ Rfc3339.read s = .ok expiry)
  | .badge badgeId => field = "badgeId" ∧ value = .string badgeId

section
variable {αs : List Type} {name : String} {fs : Fields αs} {o : Origin} {spot : Spot} {stop : Place}
  {members : List (String × Json)} {shown : List (Key × Document)} {row : Row αs}

/-- An object is read exactly if it has the fields and no others. -/
theorem exactly_eq_ok (hplain : fs.Plain) (hdemanding : fs.Demanding)
    (hshown : MembersShownBy members shown) :
    (exactly name fs).decode o (.record spot shown (.ok stop)) = .ok row ↔
      (members.map (·.1)).Perm fs.names ∧ fs.Reads o shown row := by
  rw [← hshown.names_eq]
  constructor
  · intro h
    obtain ⟨⟨row', more, place⟩, hobject, rfl⟩ := map_eq_ok.1 h
    obtain ⟨hreads, ⟨hnames, -⟩, -⟩ := (Fields.readObject_eq_ok hplain).1 hobject
    exact ⟨Fields.names_perm hplain hdemanding hreads hnames, hreads⟩
  · rintro ⟨hperm, hreads⟩
    have hnames : ∀ m ∈ shown, m.1.name ∈ fs.names := fun m hm =>
      hperm.mem_iff.1 (List.mem_map_of_mem (f := fun m => m.1.name) hm)
    exact map_eq_ok.2 ⟨(row, [], stop), (Fields.readObject_eq_ok hplain).2 ⟨hreads, ⟨hnames, rfl⟩, rfl⟩,
      rfl⟩

end

section
variable {o : Origin} {members : List (String × Json)} {shown : List (Key × Document)} {spot : Spot}
  {stop : Place} {name field field' : String} {c : Codec α} {c' : Codec β} {a : α} {b : β}
  {P Q : Json → Prop} (hshown : MembersShownBy members shown)
  (hread : ∀ {j d}, j.ShownBy d → (c.decode o d = .ok a ↔ P j))
  (hread' : ∀ {j d}, j.ShownBy d → (c'.decode o d = .ok b ↔ Q j))

include hshown hread

/-- An object with a single field. -/
theorem exactly_one_eq_ok :
    (exactly name (.cons (.required field c) .nil)).decode o (.record spot shown (.ok stop)) =
        .ok (a, ()) ↔
      (members.map (·.1)).Perm [field] ∧ ∀ m ∈ members, m.1 = field ∧ P m.2 := by
  have hplain : (Fields.cons (.required field c) .nil).Plain := ⟨rfl, List.not_mem_nil, trivial⟩
  refine (exactly_eq_ok hplain ⟨rfl, trivial⟩ hshown).trans (and_congr_right fun hperm => ?_)
  obtain ⟨j, hmembers⟩ : ∃ j, members.Perm [(field, j)] := exists_perm_one hperm
  have hnodup := (hperm.nodup_iff).2 (Fields.nodup_names hplain)
  have hj : (field, j) ∈ members := hmembers.mem_iff.2 List.mem_cons_self
  have hreads := Field.reads_iff (f := .required field c) (o := o) hshown hnodup hj hread
  refine (and_congr hreads Iff.rfl).trans ?_
  simp [Fields.Reads, hmembers.mem_iff]

include hread'

/-- An object with two fields. -/
theorem exactly_two_eq_ok (hne : field ≠ field') :
    (exactly name (.cons (.required field c) (.cons (.required field' c') .nil))).decode o
        (.record spot shown (.ok stop)) = .ok (a, b, ()) ↔
      (members.map (·.1)).Perm [field, field'] ∧
        ∀ m ∈ members, (m.1 = field ∧ P m.2) ∨ (m.1 = field' ∧ Q m.2) := by
  have hplain : (Fields.cons (.required field c) (.cons (.required field' c') .nil)).Plain :=
    ⟨rfl, by simpa [Fields.names, Field.required] using hne, rfl, List.not_mem_nil, trivial⟩
  refine (exactly_eq_ok hplain ⟨rfl, rfl, trivial⟩ hshown).trans (and_congr_right fun hperm => ?_)
  obtain ⟨j, k, hmembers⟩ : ∃ j k, members.Perm [(field, j), (field', k)] := exists_perm_two hperm
  have hnodup := hperm.nodup_iff.2 (Fields.nodup_names hplain)
  have hj : (field, j) ∈ members := hmembers.mem_iff.2 List.mem_cons_self
  have hk : (field', k) ∈ members := hmembers.mem_iff.2 (by simp)
  have hfirst := Field.reads_iff (f := .required field c) (o := o) hshown hnodup hj hread
  have hsecond := Field.reads_iff (f := .required field' c') (o := o) hshown hnodup hk hread'
  refine (and_congr hfirst (and_congr hsecond Iff.rfl)).trans ?_
  simp [Fields.Reads, hmembers.mem_iff, hne, hne.symm]

end

section
variable {o : Origin} {members : List (String × Json)} {shown : List (Key × Document)} {spot : Spot}
  {stop : Place} {t : RewardType} {d : RewardData} (hshown : MembersShownBy members shown)

include hshown

theorem decodeBare_self : decodeBare d.type o (.record spot shown (.ok stop)) = .ok d ↔
    (members.map (·.1)).Perm d.type.requiredFields ∧ ∀ m ∈ members, d.Carries m.1 m.2 := by
  cases d with
  | point points =>
    have hrow : decodeBare .point o (.record spot shown (.ok stop)) = .ok (.point points) ↔
        pointCodec.decode o (.record spot shown (.ok stop)) = .ok (points, ()) :=
      map_eq_ok.trans
        ⟨fun ⟨(_, ()), h, heq⟩ => RewardData.point.inj heq ▸ h, fun h => ⟨_, h, rfl⟩⟩
    exact hrow.trans (exactly_one_eq_ok hshown Codec.int64_eq_ok)
  | item itemId quantity =>
    have hrow : decodeBare .item o (.record spot shown (.ok stop)) = .ok (.item itemId quantity) ↔
        itemCodec.decode o (.record spot shown (.ok stop)) = .ok (itemId, quantity, ()) := by
      refine map_eq_ok.trans ⟨fun ⟨(_, _, ()), h, heq⟩ => ?_, fun h => ⟨_, h, rfl⟩⟩
      obtain ⟨rfl, rfl⟩ := RewardData.item.inj heq
      exact h
    exact hrow.trans
      (exactly_two_eq_ok hshown Codec.string_eq_ok Codec.int64_eq_ok (by decide))
  | coupon code expiry =>
    have hrow : decodeBare .coupon o (.record spot shown (.ok stop)) = .ok (.coupon code expiry) ↔
        couponCodec.decode o (.record spot shown (.ok stop)) = .ok (code, expiry, ()) := by
      refine map_eq_ok.trans ⟨fun ⟨(_, _, ()), h, heq⟩ => ?_, fun h => ⟨_, h, rfl⟩⟩
      obtain ⟨rfl, rfl⟩ := RewardData.coupon.inj heq
      exact h
    exact hrow.trans
      (exactly_two_eq_ok hshown Codec.string_eq_ok Codec.instant_eq_ok (by decide))
  | badge badgeId =>
    have hrow : decodeBare .badge o (.record spot shown (.ok stop)) = .ok (.badge badgeId) ↔
        badgeCodec.decode o (.record spot shown (.ok stop)) = .ok (badgeId, ()) :=
      map_eq_ok.trans
        ⟨fun ⟨(_, ()), h, heq⟩ => RewardData.badge.inj heq ▸ h, fun h => ⟨_, h, rfl⟩⟩
    exact hrow.trans (exactly_one_eq_ok hshown Codec.string_eq_ok)

omit hshown in
/-- Data that are read as the data of a type are of that type. -/
theorem type_of_decodeBare {doc : Document} (h : decodeBare t o doc = .ok d) : d.type = t := by
  cases t <;> (obtain ⟨row, -, rfl⟩ := map_eq_ok.1 h; rfl)

/-- Bare data of a type are read from the objects that have the fields of the type and no others. -/
theorem decodeBare_eq_ok : decodeBare t o (.record spot shown (.ok stop)) = .ok d ↔
    d.type = t ∧ (members.map (·.1)).Perm t.requiredFields ∧ ∀ m ∈ members, d.Carries m.1 m.2 := by
  constructor
  · intro h
    obtain rfl := type_of_decodeBare h
    exact ⟨rfl, (decodeBare_self hshown).1 h⟩
  · rintro ⟨rfl, h⟩
    exact (decodeBare_self hshown).2 h

end
end RewardData

/-! ## Admitted data

Data that can be read are checked once more: amounts must be positive, and identifiers more than
blanks. -/

theorem RewardType.parse_object_eq_ok {t : RewardType} {members : List (String × Json)}
    {d : RewardData} : t.parse (.object members) = .ok d ↔
      RewardData.decodeBare t .value (.ofJson (.object members)) = .ok d ∧ d.Sound := by
  rw [parse]
  cases RewardData.decodeBare t .value (.ofJson (.object members)) with
  | error fault => exact ⟨nofun, fun h => absurd h.1 nofun⟩
  | ok d' =>
    have hcheck := RewardData.check_eq_ok (d := d') (u := ())
    refine bind_eq_ok.trans ⟨?_, ?_⟩
    · rintro ⟨_, hd', heq⟩
      obtain rfl := Except.ok.inj heq
      exact ⟨rfl, hcheck.1 hd'⟩
    · rintro ⟨heq, hsound⟩
      obtain rfl := Except.ok.inj heq
      exact ⟨(), hcheck.2 hsound, rfl⟩

/-- Data are admitted if they have the fields of their type and no others, and are sound. -/
theorem RewardType.parse_eq_ok {t : RewardType} {v : Json} {d : RewardData} :
    t.parse v = .ok d ↔ d.type = t ∧ d.Sound ∧ ∃ members, v = .object members ∧
      (members.map (·.1)).Perm t.requiredFields ∧ ∀ m ∈ members, d.Carries m.1 m.2 := by
  have hobject : ∀ members, t.parse (.object members) = .ok d ↔ (d.type = t ∧
      (members.map (·.1)).Perm t.requiredFields ∧ ∀ m ∈ members, d.Carries m.1 m.2) ∧ d.Sound :=
    fun members => parse_object_eq_ok.trans (and_congr_left' (RewardData.decodeBare_eq_ok
      (Json.membersShownBy_ofMemberList members)))
  constructor
  · intro h
    cases v with
    | object members =>
      obtain ⟨⟨htype, hfields⟩, hsound⟩ := (hobject members).1 h
      exact ⟨htype, hsound, members, rfl, hfields⟩
    | _ => exact absurd h nofun
  · rintro ⟨htype, hsound, members, rfl, hfields⟩
    exact (hobject members).2 ⟨⟨htype, hfields⟩, hsound⟩

end RewardDesk
