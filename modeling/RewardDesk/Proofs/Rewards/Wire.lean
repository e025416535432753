import RewardDesk.Proofs.Rewards.Data

/-!
# Rewards in JSON

A reward is one object, in which its own members and those of its data stand side by side in any
order. Its own members are taken out first, then the tag, and what is left must be the data of that
type and nothing else (`RewardData.decodeMembers_eq_ok`, `Reward.decodeMembers_eq_ok`). So a reward
is read from what is written of it (`Reward.returns`), and an object that is read as a reward hides
no foreign field (`Reward.nothing_foreign`).
-/

namespace RewardDesk

open Json

/-! ## Tags

The tag may stand anywhere among the members and may be a name or an object with the name for its
only key. Taking it out is the same as reading a field and keeping the other members
(`splitTag_eq_ok`). -/

/-- A type is found by its name alone. -/
theorem RewardType.name_of_lookup {name : String} {place : Place} {t : RewardType}
    (h : Codec.lookup names name place = .ok t) : t.name = name := by
  unfold Codec.lookup at h
  split at h
  · rename_i name' t' hfind
    obtain rfl := Except.ok.inj h
    obtain ⟨t, -, heq⟩ := List.mem_map.1 (List.mem_of_find?_eq_some hfind)
    obtain ⟨rfl, rfl⟩ := Prod.mk.inj heq
    simpa using List.find?_some hfind
  · cases h

namespace RewardData

/-- The tag of data as a field. -/
def tagField : Json.Field RewardType where
  name := "type"
  codec := { decode := Codec.tag RewardType.names, encode := RewardType.codec.encode }

section
variable {o : Origin} {members : List (Key × Document)} {found t : Option RewardType}
  {bare : List (String × Json)}

/-- To take the tag out is to read it as a field and to collect what else there is. -/
theorem splitTag_eq_ok : splitTag o found members = .ok (t, bare) ↔
    tagField.Takes o found (under "type" members) t ∧
      Document.toMembers (members.filter fun m => m.1.name ≠ "type") = .ok bare := by
  induction members generalizing found bare with
  | nil => simp [splitTag, under, Field.Takes, Document.toMembers, eq_comm]
  | cons m members ih =>
    obtain ⟨key, value⟩ := m
    by_cases hkey : key.name = "type"
    · have hunder : under "type" ((key, value) :: members) = value :: under "type" members :=
        hkey ▸ under_cons_self key value members
      have hfilter : ((key, value) :: members).filter (fun m => m.1.name ≠ "type") =
          members.filter fun m => m.1.name ≠ "type" := by simp [hkey]
      rw [splitTag, if_pos hkey, hunder, hfilter]
      cases found with
      | some t' => simp [Field.Takes]
      | none => simp only [Option.isSome, Bool.false_eq_true, if_false, bind_eq_ok, ih,
          Field.takes_cons, ← and_assoc, exists_and_right]; exact Iff.rfl
    · have hfilter : ((key, value) :: members).filter (fun m => m.1.name ≠ "type") =
          (key, value) :: members.filter fun m => m.1.name ≠ "type" := by simp [hkey]
      rw [splitTag, if_neg hkey, under_cons_of_ne hkey, hfilter, Document.toMembers]
      simp only [bind_eq_ok]
      constructor
      · rintro ⟨j, hj, ⟨t', more⟩, hmore, heq⟩
        obtain ⟨rfl, rfl⟩ := Prod.mk.inj (Except.ok.inj heq)
        obtain ⟨htakes, hrest⟩ := ih.1 hmore
        exact ⟨htakes, j, hj, more, hrest, rfl⟩
      · rintro ⟨htakes, j, hj, more, hrest, heq⟩
        obtain rfl := Except.ok.inj heq
        exact ⟨j, hj, (t, more), ih.2 ⟨htakes, hrest⟩, rfl⟩

end

/-- Tagged data are read from the members that have one tag and besides it the fields of its type
and no others. -/
theorem decodeMembers_eq_ok {o : Origin} {members : List (Key × Document)} {stop : Place}
    {d : RewardData} : decodeMembers o members (.ok stop) = .ok d ↔
      (∃ tag, under "type" members = [tag] ∧ Codec.tag RewardType.names o tag = .ok d.type) ∧
      ∃ bare, Document.toMembers (members.filter fun m => m.1.name ≠ "type") = .ok bare ∧
        (bare.map (·.1)).Perm d.type.requiredFields ∧ ∀ m ∈ bare, d.Carries m.1 m.2 := by
  rw [decodeMembers, bind_eq_ok]
  constructor
  · rintro ⟨⟨t, bare⟩, hsplit, hbare⟩
    obtain ⟨htakes, hrest⟩ := splitTag_eq_ok.1 hsplit
    cases t with
    | none => exact absurd hbare nofun
    | some t =>
      obtain ⟨rfl, hnames, hcarries⟩ := (decodeBare_eq_ok (membersShownBy_ofMemberList bare)).1 hbare
      refine ⟨?_, bare, hrest, hnames, hcarries⟩
      cases hunder : under "type" members with
      | nil =>
        rw [hunder] at htakes
        exact absurd htakes nofun
      | cons tag more =>
        rw [hunder] at htakes
        obtain ⟨t, htag, rfl, heq⟩ := htakes
        exact ⟨tag, rfl, Option.some.inj heq ▸ htag⟩
  · rintro ⟨⟨tag, hunder, htag⟩, bare, hrest, hnames, hcarries⟩
    refine ⟨(some d.type, bare), splitTag_eq_ok.2 ⟨?_, hrest⟩, ?_⟩
    · rw [hunder]
      exact ⟨d.type, htag, rfl, rfl⟩
    · exact (decodeBare_eq_ok (membersShownBy_ofMemberList bare)).2 ⟨rfl, hnames, hcarries⟩

section
variable {o : Origin} {members : List (String × Json)} {shown : List (Key × Document)} {stop : Place}
  {d : RewardData} {tag : String}

/-- An object that tagged data are read from has a tag and the fields of their type. -/
theorem names_of_decodeMembers (hshown : MembersShownBy members shown)
    (h : decodeMembers o shown (.ok stop) = .ok d) :
    (members.map (·.1)).Perm ("type" :: d.type.requiredFields) := by
  obtain ⟨⟨tag, hunder, -⟩, bare, hbare, hnames, -⟩ := decodeMembers_eq_ok.1 h
  obtain ⟨m, hfilter, -⟩ := List.map_eq_singleton_iff.1 hunder
  have hm : m.1.name = "type" := by
    have hmem : m ∈ shown.filter fun m => m.1.name = "type" := hfilter ▸ List.mem_cons_self
    simpa using (List.mem_filter.1 hmem).2
  have hsplit := (List.filter_append_perm (fun m => m.1.name = "type") shown).map (·.1.name)
  rw [hfilter, List.map_append, hshown.names_eq] at hsplit
  rw [Document.names_toMembers hbare] at hnames
  refine hsplit.symm.trans ?_
  simpa [hm] using hnames

/-- A tag that is a text names the type. -/
theorem tag_of_decodeMembers (hshown : MembersShownBy members shown)
    (h : decodeMembers o shown (.ok stop) = .ok d) (htag : ("type", .string tag) ∈ members) :
    tag = d.type.name := by
  have hnodup : (members.map (·.1)).Nodup :=
    (names_of_decodeMembers hshown h).nodup_iff.2 (by cases d.type <;> decide)
  obtain ⟨⟨doc, hunder, hdecode⟩, -⟩ := decodeMembers_eq_ok.1 h
  obtain ⟨doc', hunder', spot, hdoc⟩ := hshown.under_of_mem hnodup htag
  obtain rfl : doc = doc' := List.singleton_inj.1 (hunder.symm.trans hunder')
  rw [hdoc] at hdecode
  exact (RewardType.name_of_lookup hdecode).symm

end

/-! ## Members of the data

The same data can be read from a bare object and from the members that stand beside a tag. What they
carry is the same in both, so both are told through `RewardData.Carries`. -/

/-- Can the times in the data be read? -/
def Legible : RewardData → Prop
  | .coupon _ expiry => expiry.Legible
  | _ => True

/-- Data are legible if something was read as what they carry. -/
theorem legible_of_carries {d : RewardData} {members : List (String × Json)}
    (hnames : (members.map (·.1)).Perm d.type.requiredFields)
    (hcarries : ∀ m ∈ members, d.Carries m.1 m.2) : d.Legible := by
  cases d with
  | coupon code expiry =>
    obtain ⟨j, k, hmembers⟩ : ∃ j k, members.Perm [("couponCode", j), ("expiry", k)] :=
      exists_perm_two hnames
    have hexpiry := hcarries ("expiry", k) (hmembers.mem_iff.2 (by simp))
    rcases hexpiry with ⟨hname, -⟩ | ⟨-, s, -, hread⟩
    · exact absurd hname (by simp)
    · exact ⟨s, hread⟩
  | _ => trivial

/-- An object of two members that are in order. -/
theorem ofMembers_pair {field field' : String} {j k : Json} (h : compare field field' = .lt) :
    Json.ofMembers [(field, j), (field', k)] = .object [(field, j), (field', k)] :=
  congrArg Json.object (Keyed.ofList_of_ascending (List.pairwise_pair.2 h))

/-- The bare data are an object that has the fields of the type and no others, and carries them. -/
theorem exists_bare (d : RewardData) : ∃ members, d.bare = .object members ∧
    (members.map (·.1)).Perm d.type.requiredFields ∧
    (d.Legible → ∀ m ∈ members, d.Carries m.1 m.2) := by
  cases d with
  | point points =>
    refine ⟨_, rfl, .refl _, fun _ => ?_⟩
    exact List.forall_mem_cons.2 ⟨⟨rfl, rfl⟩, nofun⟩
  | item itemId quantity =>
    have hbare : (item itemId quantity).bare =
        .object [("itemId", .string itemId), ("quantity", .int quantity.toInt)] :=
      ofMembers_pair (by decide)
    refine ⟨_, hbare, .refl _, fun _ => ?_⟩
    simp [Carries]
  | coupon code expiry =>
    have hbare : (coupon code expiry).bare =
        .object [("couponCode", .string code), ("expiry", .string expiry.iso8601)] :=
      ofMembers_pair (by decide)
    refine ⟨_, hbare, .refl _, fun hlegible => ?_⟩
    have hexpiry : expiry.Legible := hlegible
    simp [Carries, hexpiry.read_iso8601]
  | badge badgeId =>
    refine ⟨_, rfl, .refl _, fun _ => ?_⟩
    exact List.forall_mem_cons.2 ⟨⟨rfl, rfl⟩, nofun⟩

theorem exists_members (d : RewardData) : ∃ bare,
    d.members = ("type", .string d.type.name) :: bare ∧
    (bare.map (·.1)).Perm d.type.requiredFields ∧
    (d.Legible → ∀ m ∈ bare, d.Carries m.1 m.2) := by
  obtain ⟨bare, hbare, h⟩ := d.exists_bare
  exact ⟨bare, by rw [members, hbare]; rfl, h⟩

theorem Carries.ordered {d : RewardData} {field : String} {value : Json}
    (h : d.Carries field value) : value.Ordered := by
  cases d with
  | point points => rw [h.2]; trivial
  | item itemId quantity => rcases h with ⟨-, rfl⟩ | ⟨-, rfl⟩ <;> trivial
  | coupon code expiry => rcases h with ⟨-, rfl⟩ | ⟨-, s, rfl, -⟩ <;> trivial
  | badge badgeId => rw [h.2]; trivial

theorem names_members (d : RewardData) :
    (d.members.map (·.1)).Perm ("type" :: d.type.requiredFields) := by
  obtain ⟨bare, hmembers, hnames, -⟩ := d.exists_members
  rw [hmembers]
  exact hnames.cons _

theorem nodup_members (d : RewardData) : (d.members.map (·.1)).Nodup :=
  d.names_members.nodup_iff.2 (by cases d.type <;> decide)

theorem ordered_of_mem_members {d : RewardData} {e : String × Json} (h : d.Legible)
    (he : e ∈ d.members) : e.2.Ordered := by
  obtain ⟨bare, hmembers, -, hcarries⟩ := d.exists_members
  rw [hmembers] at he
  rcases List.mem_cons.1 he with rfl | he
  · trivial
  · exact (hcarries h e he).ordered

/-- Legible data are read from their members in any order. -/
theorem decodeMembers_of_shown {d : RewardData} {o : Origin} {members : List (String × Json)}
    {shown : List (Key × Document)} {stop : Place} (hlegible : d.Legible)
    (hperm : members.Perm d.members) (hshown : MembersShownBy members shown) :
    decodeMembers o shown (.ok stop) = .ok d := by
  have hnodup : (members.map (·.1)).Nodup := (hperm.map _).nodup_iff.2 d.nodup_members
  have hordered : ∀ e ∈ members, e.2.Ordered := fun e he =>
    ordered_of_mem_members hlegible (hperm.mem_iff.1 he)
  obtain ⟨bare, hmembers, hnames, hcarries⟩ := d.exists_members
  have hfresh : "type" ∉ bare.map (·.1) := by
    have hkeys := d.nodup_members
    rw [hmembers] at hkeys
    exact (List.nodup_cons.1 hkeys).1
  rw [hmembers] at hperm
  have hrest : (members.filter fun m => m.1 ≠ "type").Perm bare := by
    have hkept : bare.filter (fun m => m.1 ≠ "type") = bare :=
      List.filter_eq_self.2 fun m hm => decide_eq_true fun heq =>
        hfresh (heq ▸ List.mem_map_of_mem hm)
    have hfilter := hperm.filter fun m => m.1 ≠ "type"
    rwa [List.filter_cons_of_neg (by simp), hkept] at hfilter
  refine decodeMembers_eq_ok.2 ⟨?_, _, toMembers_of_shownBy ?_ (hshown.filter (· ≠ "type")),
    (hrest.map _).trans hnames, fun m hm => hcarries hlegible m (hrest.mem_iff.1 hm)⟩
  · obtain ⟨tag, hunder, spot, rfl⟩ :=
      hshown.under_of_mem hnodup (hperm.mem_iff.2 List.mem_cons_self)
    exact ⟨_, hunder, by cases d.type <;> rfl⟩
  · exact orderedMembers_iff.2 fun m hm => hordered m ((List.mem_filter.1 hm).1)

end RewardData

/-! ## Rewards

The own fields of a reward come first and ignore what they do not know; the rest goes to the data,
which tolerate nothing foreign. So nothing foreign is left in between. -/

namespace Reward

/-- The values of a reward apart from its data. -/
def own (r : Reward) : Row [String, String, Option String, Instant, Instant] :=
  (r.id, r.name, r.description, r.createdAt, r.updatedAt, ())

theorem plain_ownFields : ownFields.Plain := by decide

/-- A reward is read from the members that give values to its own fields, if its data are read from
the others. -/
theorem decodeMembers_eq_ok {o : Origin} {members : List (Key × Document)} {stop : Place}
    {r : Reward} : decodeMembers o members (.ok stop) = .ok r ↔
      ownFields.Reads o members r.own ∧
      ∃ others, Document.toMembers (members.filter fun m => m.1.name ∉ ownFields.names) = .ok others ∧
        RewardData.decodeMembers .buffer (Document.ofMemberList others) (.ok .nowhere) =
          .ok r.data := by
  rw [decodeMembers, bind_eq_ok]
  constructor
  · rintro ⟨⟨⟨id, name, description, createdAt, updatedAt, ⟨⟩⟩, others, place⟩, hobject, hdata⟩
    obtain ⟨hreads, hothers, -⟩ := (Fields.readObject_eq_ok plain_ownFields).1 hobject
    simp only at hdata
    split at hdata
    · obtain rfl := Except.ok.inj hdata
      exact ⟨hreads, others, hothers, ‹_›⟩
    · cases hdata
  · rintro ⟨hreads, others, hothers, hdata⟩
    refine ⟨(r.own, others, stop),
      (Fields.readObject_eq_ok plain_ownFields).2 ⟨hreads, hothers, rfl⟩, ?_⟩
    simp only [own, hdata, pure_eq_ok]

/-- Can all times of the reward be read? -/
structure Legible (r : Reward) : Prop where
  data : r.data.Legible
  createdAt : r.createdAt.Legible
  updatedAt : r.updatedAt.Legible

theorem return_own {r : Reward} (h : r.Legible) : ownFields.Return r.own := by
  refine ⟨Codec.returns_string _, Codec.returns_string _, ?_, Codec.returns_instant h.createdAt,
    Codec.returns_instant h.updatedAt, trivial⟩
  -- a description that is left out is absent
  cases hdescription : r.description with
  | none => rfl
  | some text => exact Codec.returns_optional fun _ _ => ⟨Codec.returns_string _, nofun⟩

/-- No member of the data has the name of a field of the reward itself. -/
theorem not_mem_ownFields (t : RewardType) : ∀ name ∈ "type" :: t.requiredFields,
    name ∉ ownFields.names := by
  cases t <;> decide

/-- A legible reward is read from what was written of it. -/
theorem returns {r : Reward} (h : r.Legible) : codec.Returns r := by
  rintro o _ ⟨spot, shown, stop, rfl, hshown⟩
  have hshown : MembersShownBy (Keyed.ofList (ownFields.members r.own ++ r.data.members)) shown :=
    hshown
  have hown : ∀ e ∈ ownFields.members r.own, e.1 ∈ ownFields.names := fun _ =>
    Fields.name_mem_of_mem_members
  have hforeign : ∀ e ∈ r.data.members, e.1 ∉ ownFields.names := fun e he =>
    not_mem_ownFields r.type e.1 (r.data.names_members.mem_iff.1 (List.mem_map_of_mem he))
  have hkeys : ((ownFields.members r.own ++ r.data.members).map (·.1)).Nodup := by
    rw [List.map_append]
    refine List.nodup_append.2 ⟨Fields.nodup_members plain_ownFields, r.data.nodup_members, ?_⟩
    rintro name hname _ hname' rfl
    obtain ⟨e, he, rfl⟩ := List.mem_map.1 hname
    obtain ⟨e', he', heq⟩ := List.mem_map.1 hname'
    exact hforeign e' he' (heq ▸ hown e he)
  have hperm := Keyed.ofList_perm hkeys
  have hnodup := (hperm.map (·.1)).nodup_iff.2 hkeys
  -- the members that are not its own are those of the data
  have hothers : ((Keyed.ofList (ownFields.members r.own ++ r.data.members)).filter
      fun e => e.1 ∉ ownFields.names).Perm r.data.members := by
    have hnone : (ownFields.members r.own).filter (fun e => e.1 ∉ ownFields.names) = [] :=
      List.filter_eq_nil_iff.2 fun e he => by simpa using hown e he
    have hall : r.data.members.filter (fun e => e.1 ∉ ownFields.names) = r.data.members :=
      List.filter_eq_self.2 fun e he => decide_eq_true (hforeign e he)
    have hfilter := hperm.filter fun e => e.1 ∉ ownFields.names
    rwa [List.filter_append, hnone, hall, List.nil_append] at hfilter
  refine decodeMembers_eq_ok.2 ⟨?_, _, toMembers_of_shownBy ?_ (hshown.filter (· ∉ ownFields.names)),
    RewardData.decodeMembers_of_shown h.data hothers (membersShownBy_ofMemberList _)⟩
  · refine Fields.reads_of_shown o plain_ownFields (return_own h) hshown hnodup fun name hname j => ?_
    rw [hperm.mem_iff, List.mem_append]
    exact or_iff_left fun hmem => hforeign _ hmem hname
  · exact orderedMembers_iff.2 fun e he =>
      RewardData.ordered_of_mem_members h.data (hothers.mem_iff.1 he)

/-- What is read as a reward is legible. -/
theorem legible_of_decodeMembers {o : Origin} {members : List (Key × Document)} {stop : Place}
    {r : Reward} (h : decodeMembers o members (.ok stop) = .ok r) : r.Legible := by
  obtain ⟨⟨-, -, -, hcreated, hupdated, -⟩, others, -, hdata⟩ := decodeMembers_eq_ok.1 h
  obtain ⟨-, bare, -, hnames, hcarries⟩ := RewardData.decodeMembers_eq_ok.1 hdata
  exact ⟨RewardData.legible_of_carries hnames hcarries, Codec.legible_of_reads hcreated,
    Codec.legible_of_reads hupdated⟩

/-- Every value that is read as a reward is an object. Its members are those of the reward itself,
the tag, and the fields of the type, each once, and no others; a tag that is a text is the name of
the type. And the reward is read again from what is written of it. -/
theorem nothing_foreign (v : Json) (r : Reward) (h : codec.ofValue v = .ok r) :
    (∃ members, v = .object members ∧
      ((members.filter fun m =>
          m.1 ∉ ["id", "name", "description", "createdAt", "updatedAt"]).map (·.1)).Perm
        ("type" :: r.type.requiredFields) ∧
      ∀ tag, ("type", .string tag) ∈ members → tag = r.type.name) ∧
    codec.ofValue (codec.encode r) = .ok r := by
  obtain ⟨members, rfl⟩ : ∃ members, v = .object members := by
    cases v with
    | object members => exact ⟨members, rfl⟩
    | _ => exact absurd h nofun
  have hread : decodeMembers .value (Document.ofMemberList members) (.ok .nowhere) = .ok r := h
  have hshown := membersShownBy_ofMemberList members
  obtain ⟨-, others, hothers, hdata⟩ := decodeMembers_eq_ok.1 hread
  refine ⟨⟨members, rfl, ?_, fun tag htag => ?_⟩, (returns (legible_of_decodeMembers hread)).ofValue⟩
  · have hnames := RewardData.names_of_decodeMembers (membersShownBy_ofMemberList others) hdata
    rwa [Document.names_toMembers hothers, (hshown.filter (· ∉ ownFields.names)).names_eq] at hnames
  · obtain ⟨key, d, hmem, hkey, hd⟩ := hshown.exists_mem htag
    have hkept : (key, d) ∈ (Document.ofMemberList members).filter
        fun m => m.1.name ∉ ownFields.names :=
      List.mem_filter.2 ⟨hmem, by simp [hkey, ownFields, Fields.names, Field.required, Field.optional]⟩
    have hother :=
      Document.mem_toMembers hothers hkept (toJson_of_shownBy (j := .string tag) trivial hd)
    rw [hkey] at hother
    exact RewardData.tag_of_decodeMembers (membersShownBy_ofMemberList others) hdata hother

/-- A coupon that expires in a leap second of a late year. -/
theorem nothing_foreign_of_coupon :
    let v := Json.object [
      ("couponCode", .string "C"), ("createdAt", .string "2024-01-01T01:00:00+01:00"),
      ("expiry", .string "+12024-06-30 23:59:60.5Z"), ("id", .string "x"), ("name", .string "N"),
      ("type", .string "COUPON"), ("updatedAt", .string "2024-01-01t00:00:00z")]
    ∃ r, codec.ofValue v = .ok r ∧ r.data = .coupon "C" ⟨317289311999, 1500000000⟩ ∧
      codec.ofValue (codec.encode r) = .ok r := by
  intro v
  let r : Reward :=
    { id := "x", name := "N", description := none, data := .coupon "C" ⟨317289311999, 1500000000⟩,
      createdAt := ⟨1704067200, 0⟩, updatedAt := ⟨1704067200, 0⟩ }
  have hread : codec.ofValue v = .ok r := toOption_eq_some.1 (by decide +kernel)
  exact ⟨r, hread, rfl, (nothing_foreign v r hread).2⟩

end Reward

end RewardDesk
