import RewardDesk.Proofs.Json.Shown

/-!
# What the values of a record stem from

A record is read from an object or from an array. Either way, each of its fields has a value that
was decoded from some document inside or stands for an absent one (`Fields.Stem`,
`Codec.stem_of_record`).

So an optional field of any JSON never holds null, and what it holds has its objects in order
(`stem_optional_any`).
-/

namespace RewardDesk

namespace Json

/-! ## Values of documents

A document gives its value back with the members of all objects sorted, in whatever order they were
read. -/

theorem ordered_ofMembers {members : List (String × Json)} (h : OrderedMembers members) :
    (ofMembers members).Ordered :=
  ⟨Keyed.Ascending.ofList members, orderedMembers_iff.2 fun e he =>
    orderedMembers_iff.1 h e (Keyed.mem_of_mem_ofList he)⟩

mutual

/-- What a document gives back has its objects in order, even if it shows a value that has not. -/
theorem ordered_of_toJson {d : Document} {j' : Json} :
    {j : Json} → j.ShownBy d → d.toJson = .ok j' → j'.Ordered
  | .null, ⟨_, hd⟩, h | .bool _, ⟨_, hd⟩, h | .int _, ⟨_, hd⟩, h | .float _, ⟨_, hd⟩, h
  | .string _, ⟨_, hd⟩, h => by
    rw [hd, Document.toJson] at h
    rw [← Except.ok.inj h]
    trivial
  | .array _, ⟨_, _, _, hd, hshown⟩, h => by
    rw [hd, Document.toJson] at h
    obtain ⟨values, hvalues, heq⟩ := bind_eq_ok.1 h
    rw [← Except.ok.inj heq]
    exact ordered_of_toItems hshown hvalues
  | .object _, ⟨_, _, _, hd, hshown⟩, h => by
    rw [hd, Document.toJson] at h
    obtain ⟨values, hvalues, heq⟩ := bind_eq_ok.1 h
    rw [← Except.ok.inj heq]
    exact ordered_ofMembers (ordered_of_toMembers hshown hvalues)

theorem ordered_of_toItems {shown : List (Place × Document)} {values : List Json} :
    {items : List Json} → ItemsShownBy items shown → Document.toItems shown = .ok values →
      OrderedItems values
  | [], hshown, h => by
    rw [show shown = [] from hshown] at h
    rw [← Except.ok.inj h]
    trivial
  | _ :: _, ⟨_, _, _, hshown, hd, hmore⟩, h => by
    rw [hshown, Document.toItems] at h
    obtain ⟨value, hvalue, hrest⟩ := bind_eq_ok.1 h
    obtain ⟨rest, hrest, heq⟩ := bind_eq_ok.1 hrest
    rw [← Except.ok.inj heq]
    exact ⟨ordered_of_toJson hd hvalue, ordered_of_toItems hmore hrest⟩

theorem ordered_of_toMembers {shown : List (Key × Document)} {values : List (String × Json)} :
    {members : List (String × Json)} → MembersShownBy members shown →
      Document.toMembers shown = .ok values → OrderedMembers values
  | [], hshown, h => by
    rw [show shown = [] from hshown] at h
    rw [← Except.ok.inj h]
    trivial
  | _ :: _, ⟨_, _, _, hshown, _, hd, hmore⟩, h => by
    rw [hshown, Document.toMembers] at h
    obtain ⟨value, hvalue, hrest⟩ := bind_eq_ok.1 h
    obtain ⟨rest, hrest, heq⟩ := bind_eq_ok.1 hrest
    rw [← Except.ok.inj heq]
    exact ⟨ordered_of_toJson hd hvalue, ordered_of_toMembers hmore hrest⟩

end

/-! ## Values of fields

Where exactly the document of a field was found is forgotten here. It is enough that it is one of
those inside. -/

/-- Was the value decoded from one of these documents, or does it stand for an absent one? -/
def Field.Stems (f : Field α) (o : Origin) (docs : Document → Prop) (a : α) : Prop :=
  f.absent.inObject? = some a ∨ ∃ d, docs d ∧ f.codec.decode o d = .ok a

namespace Fields

/-- Is this so of the values of all fields? -/
def Stem (o : Origin) (docs : Document → Prop) : (fs : Fields αs) → Row αs → Prop
  | .nil, _ => True
  | .cons f rest, (a, row) => f.Stems o docs a ∧ rest.Stem o docs row

variable {αs : List Type} {fs : Fields αs} {o : Origin} {docs : Document → Prop} {row : Row αs}

theorem stem_of_reads {members : List (Key × Document)} (hdocs : ∀ m ∈ members, docs m.2)
    (h : fs.Reads o members row) : fs.Stem o docs row := by
  induction fs with
  | nil => trivial
  | cons f rest ih =>
    obtain ⟨a, row⟩ := row
    obtain ⟨hfield, hrest⟩ := h
    refine ⟨?_, ih hrest⟩
    cases hunder : under f.name members with
    | nil =>
      rw [hunder] at hfield
      exact .inl hfield
    | cons d more =>
      rw [hunder] at hfield
      have hd : d ∈ under f.name members := hunder ▸ List.mem_cons_self
      obtain ⟨m, hm, rfl⟩ := List.mem_map.1 hd
      exact .inr ⟨m.2, hdocs m (List.mem_filter.1 hm).1, hfield.1⟩

theorem stem_of_readItems {expected : String} {ending : Ending} {index : Nat}
    {items left : List (Place × Document)} (hdocs : ∀ i ∈ items, docs i.2)
    (h : fs.readItems o expected ending index items = .ok (row, left)) : fs.Stem o docs row := by
  induction fs generalizing index items with
  | nil => trivial
  | cons f rest ih =>
    obtain ⟨a, row⟩ := row
    cases items with
    | cons item items =>
      obtain ⟨place, d⟩ := item
      obtain ⟨ha, hrest⟩ := readItems_cons h
      obtain ⟨hd, hmore⟩ := List.forall_mem_cons.1 hdocs
      exact ⟨.inr ⟨d, hd, ha⟩, ih hmore hrest⟩
    | nil =>
      rw [readItems.eq_def] at h
      simp only at h
      split at h
      · cases h
      · rename_i habsent
        obtain ⟨⟨row', left'⟩, hrest, heq⟩ := bind_eq_ok.1 h
        obtain ⟨hpair, rfl⟩ := Prod.mk.inj (Except.ok.inj heq)
        obtain ⟨rfl, rfl⟩ := Prod.mk.inj hpair
        exact ⟨.inl (by rw [habsent]; rfl), ih hdocs hrest⟩
      · cases h

end Fields

/-- The values of a record stem from documents that show something. -/
theorem Codec.stem_of_record {name : String} {fs : Fields αs} {build : Row αs → α}
    {view : α → Row αs} {others : Fields.Others} {o : Origin} {j : Json} {d : Document} {a : α}
    (hplain : fs.Plain) (hd : j.ShownBy d) (h : (record name fs build view others).decode o d = .ok a) :
    ∃ row, build row = a ∧ fs.Stem o (fun d => ∃ j : Json, j.ShownBy d) row := by
  cases j with
  | object members =>
    obtain ⟨spot, shown, stop, rfl, hshown⟩ := hd
    obtain ⟨⟨row, more, place⟩, hobject, hbuild⟩ := map_eq_ok.1 h
    obtain ⟨hreads, -⟩ := (Fields.readObject_eq_ok hplain).1 hobject
    exact ⟨row, hbuild, Fields.stem_of_reads hshown.shown_of_mem hreads⟩
  | array items =>
    obtain ⟨spot, shown, stop, rfl, hshown⟩ := hd
    obtain ⟨row, harray, hbuild⟩ := map_eq_ok.1 h
    obtain ⟨⟨row', left⟩, hitems, hend⟩ := bind_eq_ok.1 harray
    obtain rfl : row' = row := by
      cases left with
      | nil => exact Except.ok.inj hend
      | cons item left => exact absurd hend nofun
    exact ⟨row', hbuild, Fields.stem_of_readItems hshown.shown_of_mem hitems⟩
  | _ =>
    obtain ⟨spot, rfl⟩ := hd
    exact absurd h nofun

theorem Codec.stem_of_ofValue {name : String} {fs : Fields αs} {build : Row αs → α}
    {view : α → Row αs} {others : Fields.Others} {j : Json} {a : α}
    (h : (record name fs build view others).ofValue j = .ok a) (hplain : fs.Plain) :
    ∃ row, build row = a ∧ fs.Stem .value (fun d => ∃ j : Json, j.ShownBy d) row :=
  stem_of_record hplain (shownBy_ofJson j) h

theorem Codec.decode_of_optional {c : Codec α} {o : Origin} {d : Document} {a : α}
    (h : c.optional.decode o d = .ok (some a)) :
    c.decode o d = .ok a ∧ ∀ spot, d ≠ .leaf .null spot := by
  simp only [optional] at h
  split at h
  · cases h
  · obtain ⟨a', ha, heq⟩ := map_eq_ok.1 h
    exact ⟨Option.some.inj heq ▸ ha, ‹_›⟩

theorem Document.eq_leaf_of_toJson {d : Document} (h : d.toJson = .ok .null) :
    ∃ spot, d = .leaf .null spot := by
  cases d with
  | broken f => cases h
  | leaf v spot => exact ⟨spot, by rw [toJson] at h; rw [Except.ok.inj h]⟩
  | list spot items ending =>
    obtain ⟨values, -, hend⟩ := bind_eq_ok.1 h
    cases ending <;> cases hend
  | record spot members ending =>
    obtain ⟨values, -, hend⟩ := bind_eq_ok.1 h
    cases ending <;> cases hend

/-- Optional JSON that stems from documents is never null and has its objects in order. -/
theorem stem_optional_any {name : String} {o : Origin} {j? : Option Json}
    (h : (Field.optional name .any).Stems o (fun d => ∃ j : Json, j.ShownBy d) j?) :
    ∀ j, j? = some j → j ≠ .null ∧ j.Ordered := by
  rintro j rfl
  rcases h with habsent | ⟨d, ⟨j', hd⟩, hdecode⟩
  · cases habsent
  · obtain ⟨hvalue, hleaf⟩ := Codec.decode_of_optional hdecode
    refine ⟨?_, ordered_of_toJson hd hvalue⟩
    rintro rfl
    obtain ⟨spot, heq⟩ := Document.eq_leaf_of_toJson hvalue
    exact hleaf spot heq

end Json
end RewardDesk
