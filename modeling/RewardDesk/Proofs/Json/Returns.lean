import RewardDesk.Proofs.Json.Shown
import RewardDesk.Proofs.Time.RoundTrip

/-!
# Codecs that return what they wrote

A codec returns a value if it reads the value from every document of what it writes of it
(`Codec.Returns`). That is a property of the value as much as of the codec: null is not returned by
a codec of optional JSON, which reads it as absent, and an instant is returned only if some text
stands for it.

A record is returned if each of its fields is (`Codec.returns_record`).
-/

namespace RewardDesk
namespace Json

/-- Is the value read from every document of what is written of it? -/
def Codec.Returns (c : Codec α) (a : α) : Prop :=
  ∀ o d, (c.encode a).ShownBy d → c.decode o d = .ok a

/-- A value that is returned is read from what was written. -/
theorem Codec.Returns.ofValue {c : Codec α} {a : α} (h : c.Returns a) :
    c.ofValue (c.encode a) = .ok a :=
  h .value _ (shownBy_ofJson _)

namespace Codec

/-! ## Single values

Numbers are returned within the bounds of their words, and instants if they can be written at
all. -/

theorem returns_string (s : String) : string.Returns s := by
  rintro o d ⟨spot, rfl⟩
  rfl

theorem returns_bool (b : Bool) : bool.Returns b := by
  rintro o d ⟨spot, rfl⟩
  rfl

theorem returns_integer {name : String} {low high n : Int} (hlow : low ≤ n) (hhigh : n ≤ high) :
    (integer name low high).Returns n := by
  rintro o d ⟨spot, rfl⟩
  exact if_pos ⟨hlow, hhigh⟩

theorem returns_iso {c : Codec α} {forth : α → β} {back : β → α} {b : β} (h : c.Returns (back b))
    (hback : forth (back b) = b) : (c.iso forth back).Returns b := fun o d hd =>
  map_eq_ok.2 ⟨back b, h o d hd, hback⟩

theorem returns_int64 (n : Int64) : int64.Returns n :=
  returns_iso (returns_integer n.le_toInt (Int.le_sub_one_of_lt n.toInt_lt)) (Int64.ofInt_toInt n)

theorem returns_uint64 (n : UInt64) : uint64.Returns n :=
  returns_iso (returns_integer (Int.natCast_nonneg _)
    (Int.le_sub_one_of_lt (Int.ofNat_lt.2 n.toNat_lt))) (UInt64.ofNat_toNat)

theorem returns_uint32 (n : UInt32) : uint32.Returns n :=
  returns_iso (returns_integer (Int.natCast_nonneg _)
    (Int.le_sub_one_of_lt (Int.ofNat_lt.2 n.toNat_lt))) (UInt32.ofNat_toNat)

theorem returns_instant {t : Instant} (h : t.Legible) : instant.Returns t := by
  rintro o d ⟨spot, rfl⟩
  simp only [instant, h.read_iso8601]

/-- An instant that is read as a field is legible. -/
theorem legible_of_reads {name : String} {o : Origin} {docs : List Document} {t : Instant}
    (h : (Field.required name instant).Reads o docs t) : t.Legible := by
  cases docs with
  | nil => cases h
  | cons d more =>
    have hdecode : instant.decode o d = .ok t := h.1
    simp only [instant] at hdecode
    split at hdecode
    · rename_i s spot
      cases hread : Rfc3339.read s with
      | ok t' =>
        rw [hread] at hdecode
        exact ⟨s, by rw [hread, Except.ok.inj hdecode]⟩
      | error problem =>
        rw [hread] at hdecode
        cases hdecode
    · cases hdecode

theorem returns_any {j : Json} (h : j.Ordered) : any.Returns j := fun _ _ =>
  toJson_of_shownBy h

theorem returns_choice {names : List (String × α)} {name : α → String} {a : α}
    (h : names.find? (·.1 == name a) = some (name a, a)) : (choice names name).Returns a := by
  rintro o d ⟨spot, rfl⟩
  simp only [choice, lookup, h]

/-! ## Optional values and lists

An optional value that is there is written as the value itself, so it must not look like one that is
not. -/

theorem eq_null_of_shownBy {j : Json} {spot : Spot} (h : j.ShownBy (.leaf .null spot)) :
    j = .null := by
  cases j with
  | array items => obtain ⟨_, _, _, heq, -⟩ := h; cases heq
  | object members => obtain ⟨_, _, _, heq, -⟩ := h; cases heq
  | _ => obtain ⟨_, heq⟩ := h; cases heq <;> rfl

/-- What is there is returned unless it is written as null. -/
theorem returns_optional {c : Codec α} {a? : Option α}
    (h : ∀ a, a? = some a → c.Returns a ∧ c.encode a ≠ .null) : c.optional.Returns a? := by
  intro o d hd
  cases a? with
  | none =>
    obtain ⟨spot, rfl⟩ := hd
    rfl
  | some a =>
    obtain ⟨hreturns, hnull⟩ := h a rfl
    have hdecode := hreturns o d hd
    have hleaf : ∀ spot, d ≠ .leaf .null spot := fun spot heq =>
      hnull (eq_null_of_shownBy (heq ▸ hd))
    have hmap : (c.decode o d).map some = .ok (some a) := by
      rw [hdecode]
      rfl
    cases d with
    | leaf v spot =>
      cases v with
      | null => exact absurd rfl (hleaf spot)
      | _ => exact hmap
    | _ => exact hmap

theorem returns_list {c : Codec α} {as : List α} (h : ∀ a ∈ as, c.Returns a) :
    c.list.Returns as := by
  have hitems : ∀ o shown, ItemsShownBy (as.map c.encode) shown → decodeItems c o shown = .ok as := by
    intro o
    induction as with
    | nil =>
      rintro shown rfl
      rfl
    | cons a as ih =>
      rintro _ ⟨place, d, more, rfl, hd, hmore⟩
      obtain ⟨ha, has⟩ := List.forall_mem_cons.1 h
      rw [decodeItems, ha o d hd, ok_bind, ih has more hmore]
      rfl
  rintro o _ ⟨spot, shown, stop, rfl, hshown⟩
  simp only [list, hitems o shown hshown, ok_bind, pure_eq_ok]

end Codec

/-! ## Records -/

/-- Is the value of the field read back, or does it stand for the absent one when it is left out? -/
def Field.Returns (f : Field α) (a : α) : Prop :=
  if f.omits a then f.absent.inObject? = some a else f.codec.Returns a

namespace Fields

/-- Is every field returned? -/
def Return : (fs : Fields αs) → Row αs → Prop
  | .nil, _ => True
  | .cons f rest, (a, row) => f.Returns a ∧ rest.Return row

theorem mem_members_cons {f : Field α} {rest : Fields αs} {a : α} {row : Row αs}
    {e : String × Json} : e ∈ (cons f rest).members (a, row) ↔
      (f.omits a = false ∧ e = (f.name, f.codec.encode a)) ∨ e ∈ rest.members row := by
  cases homits : f.omits a with
  | true => simp [members, homits]
  | false => simp [members, homits]

theorem name_mem_of_mem_members {fs : Fields αs} {row : Row αs} {e : String × Json}
    (h : e ∈ fs.members row) : e.1 ∈ fs.names := by
  induction fs with
  | nil => exact absurd h nofun
  | cons f rest ih =>
    obtain ⟨a, row⟩ := row
    rcases mem_members_cons.1 h with ⟨-, rfl⟩ | hmem
    · exact List.mem_cons_self
    · exact List.mem_cons_of_mem _ (ih hmem)

theorem nodup_members {fs : Fields αs} {row : Row αs} (hplain : fs.Plain) :
    ((fs.members row).map (·.1)).Nodup := by
  induction fs with
  | nil => exact List.nodup_nil
  | cons f rest ih =>
    obtain ⟨a, row⟩ := row
    obtain ⟨-, hfresh, hrest⟩ := hplain
    cases homits : f.omits a with
    | true =>
      simp only [members, homits, if_true]
      exact ih hrest
    | false =>
      simp only [members, homits, Bool.false_eq_true, if_false]
      refine List.nodup_cons.2 ⟨fun hmem => hfresh ?_, ih hrest⟩
      obtain ⟨e, he, heq⟩ := List.mem_map.1 hmem
      have heq : e.1 = f.name := heq
      exact heq ▸ name_mem_of_mem_members he

/-- Fields that are returned are read from every object that holds their members. -/
theorem reads_of_shown {fs : Fields αs} {row : Row αs} {all : List (String × Json)}
    {shown : List (Key × Document)} (o : Origin) (hplain : fs.Plain) (hreturn : fs.Return row)
    (hshown : MembersShownBy all shown) (hnodup : (all.map (·.1)).Nodup)
    (hall : ∀ name ∈ fs.names, ∀ j, (name, j) ∈ all ↔ (name, j) ∈ fs.members row) :
    fs.Reads o shown row := by
  induction fs with
  | nil => trivial
  | cons f rest ih =>
    obtain ⟨a, row⟩ := row
    obtain ⟨-, hfresh, hrest⟩ := hplain
    obtain ⟨hfield, hreturn⟩ := hreturn
    have hfirst : ∀ j, (f.name, j) ∈ all ↔ f.omits a = false ∧ j = f.codec.encode a := by
      intro j
      have hnone : (f.name, j) ∉ rest.members row := fun h => hfresh (name_mem_of_mem_members h)
      rw [hall f.name List.mem_cons_self, mem_members_cons]
      simp [hnone]
    refine ⟨?_, ih hrest hreturn fun name hname j => ?_⟩
    · cases homits : f.omits a with
      | true =>
        have habsent : f.name ∉ all.map (·.1) := fun h => by
          obtain ⟨⟨_, j⟩, hmem, rfl⟩ := List.mem_map.1 h
          obtain ⟨hkept, -⟩ := (hfirst j).1 hmem
          rw [homits] at hkept
          cases hkept
        rw [hshown.under_of_not_mem habsent]
        exact (if_pos homits).mp hfield
      | false =>
        obtain ⟨d, hunder, hd⟩ := hshown.under_of_mem hnodup ((hfirst _).2 ⟨homits, rfl⟩)
        rw [hunder]
        rw [Field.Returns, homits] at hfield
        exact ⟨hfield o d hd, rfl⟩
    · have hne : name ≠ f.name := fun heq => hfresh (heq ▸ hname)
      rw [hall name (List.mem_cons_of_mem _ hname), mem_members_cons]
      simp [hne]

end Fields

/-- A record is returned if its fields are. -/
theorem Codec.returns_record {name : String} {fs : Fields αs} {build : Row αs → α}
    {view : α → Row αs} {others : Fields.Others} {a : α} (hplain : fs.Plain)
    (hothers : others ≠ .collected) (hreturn : fs.Return (view a)) (hbuild : build (view a) = a) :
    (Codec.record name fs build view others).Returns a := by
  rintro o _ ⟨spot, shown, stop, rfl, hshown⟩
  have hkeys : ((fs.members (view a)).map (·.1)).Nodup := Fields.nodup_members hplain
  have hperm := Keyed.ofList_perm hkeys
  have hnodup := (hperm.map (·.1)).nodup_iff.2 hkeys
  have hreads : fs.Reads o shown (view a) :=
    Fields.reads_of_shown o hplain hreturn hshown hnodup fun _ _ _ => hperm.mem_iff
  have hleave : others.Leave fs.names shown [] := by
    cases others with
    | refused =>
      refine ⟨fun m hm => ?_, rfl⟩
      have hname := List.mem_map_of_mem (f := fun m => m.1.name) hm
      rw [hshown.names_eq] at hname
      obtain ⟨e, he, heq⟩ := List.mem_map.1 hname
      exact heq ▸ Fields.name_mem_of_mem_members (hperm.mem_iff.1 he)
    | ignored => exact ⟨fun m hm _ => hshown.barrier_eq_none m hm, rfl⟩
    | collected => exact absurd rfl hothers
  exact map_eq_ok.2 ⟨_, (Fields.readObject_eq_ok hplain).2 ⟨hreads, hleave, rfl⟩, hbuild⟩

end Json
end RewardDesk
