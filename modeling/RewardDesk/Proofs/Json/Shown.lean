import RewardDesk.Proofs.Json.Fields
import RewardDesk.Proofs.Store.Table

/-!
# The documents of a value

A value has many documents: its own, and one for every text that it is written in. They differ in
the places that they name and in nothing else (`Json.ShownBy`), and each of them gives the value
back (`Json.toJson_of_shownBy`).

A record is read from the documents under the names of its fields, so the last section says which
these are when a document shows an object.
-/

namespace RewardDesk

/-! ## Entries in order

Objects keep their members sorted by name. Members with different names make the same object in
whatever sequence they come. -/

namespace Keyed

variable {κ α : Type} [Ord κ] {key : κ} {value : α} {entries : List (κ × α)}
  {e : κ × α}

theorem set_perm [Std.LawfulEqOrd κ] (h : key ∉ entries.map (·.1)) :
    (set key value entries).Perm ((key, value) :: entries) := by
  induction entries with
  | nil => exact .refl _
  | cons head rest ih =>
    obtain ⟨k, v⟩ := head
    obtain ⟨hne, hrest⟩ := not_or.1 (mt List.mem_cons.2 h)
    cases hcompare : compare key k with
    | lt =>
      simp only [set, hcompare]
      exact .refl _
    | eq => exact absurd (Std.LawfulEqCmp.eq_of_compare hcompare) hne
    | gt =>
      simp only [set, hcompare]
      exact ((ih hrest).cons _).trans (.swap ..)

/-- Entries with different keys are all there once they are in order. -/
theorem ofList_perm [Std.LawfulEqOrd κ] (h : (entries.map (·.1)).Nodup) :
    (ofList entries).Perm entries := by
  suffices hall : ∀ sorted : List (κ × α), ((sorted ++ entries).map (·.1)).Nodup →
      (entries.foldl (fun sorted e => set e.1 e.2 sorted) sorted).Perm (sorted ++ entries) from
    hall [] h
  clear h
  induction entries with
  | nil =>
    intro sorted _
    rw [List.append_nil]
    exact .refl _
  | cons e rest ih =>
    intro sorted hnodup
    have hmiddle : (sorted ++ e :: rest).Perm (e :: sorted ++ rest) := List.perm_middle
    have hnodup' := (hmiddle.map (·.1)).nodup_iff.1 hnodup
    have hset : (set e.1 e.2 sorted).Perm (e :: sorted) := set_perm fun hmem => by
      obtain ⟨hfresh, -⟩ := List.nodup_cons.1 hnodup'
      exact hfresh (List.map_append ▸ List.mem_append_left _ hmem)
    have hwhole := hset.append_right rest
    exact (ih _ ((hwhole.map _).nodup_iff.2 hnodup')).trans (hwhole.trans hmiddle.symm)

theorem set_of_last [Std.OrientedOrd κ] (h : ∀ e ∈ entries, compare e.1 key = .lt) :
    set key value entries = entries ++ [(key, value)] := by
  induction entries with
  | nil => rfl
  | cons head rest ih =>
    obtain ⟨k, v⟩ := head
    have hgt : compare key k = .gt := Std.OrientedCmp.gt_of_lt (h _ List.mem_cons_self)
    simp only [set, hgt, ih fun e he => h e (List.mem_cons_of_mem _ he), List.cons_append]

/-- Entries that are in order stay as they are. -/
theorem ofList_of_ascending [Std.OrientedOrd κ] (h : Ascending entries) :
    ofList entries = entries := by
  suffices hall : ∀ sorted : List (κ × α), Ascending (sorted ++ entries) →
      entries.foldl (fun sorted e => set e.1 e.2 sorted) sorted = sorted ++ entries from
    hall [] h
  clear h
  induction entries with
  | nil => exact fun sorted _ => (List.append_nil sorted).symm
  | cons e rest ih =>
    intro sorted hascending
    have hlast : ∀ e' ∈ sorted, compare e'.1 e.1 = .lt := fun e' he' =>
      (List.pairwise_append.1 hascending).2.2 e' he' e List.mem_cons_self
    rw [List.foldl_cons, set_of_last hlast, ih, List.append_assoc, List.singleton_append]
    rwa [List.append_assoc, List.singleton_append]

theorem eq_or_mem_of_mem_set (h : e ∈ set key value entries) : e = (key, value) ∨ e ∈ entries := by
  induction entries with
  | nil => exact .inl (List.mem_singleton.1 h)
  | cons head rest ih =>
    obtain ⟨k, v⟩ := head
    unfold set at h
    split at h
    · exact List.mem_cons.1 h
    · exact (List.mem_cons.1 h).imp_right (List.mem_cons_of_mem _)
    · rcases List.mem_cons.1 h with rfl | h
      · exact .inr List.mem_cons_self
      · exact (ih h).imp_right (List.mem_cons_of_mem _)

theorem mem_of_mem_ofList (h : e ∈ ofList entries) : e ∈ entries := by
  suffices hall : ∀ sorted, e ∈ entries.foldl (fun sorted e => set e.1 e.2 sorted) sorted →
      e ∈ sorted ∨ e ∈ entries from
    (hall [] h).resolve_left List.not_mem_nil
  clear h
  induction entries with
  | nil => exact fun _ h => .inl h
  | cons head rest ih =>
    intro sorted h
    rcases ih _ h with h | h
    · rcases eq_or_mem_of_mem_set h with rfl | h
      · exact .inr List.mem_cons_self
      · exact .inl h
    · exact .inr (List.mem_cons_of_mem _ h)

end Keyed

namespace Json

/-! ## Documents that show a value

A document may show a value whose objects are not in order, as a text may. What it gives back is in
order, so the value is given back only if it was so already. -/

mutual

/-- Is this the value with its places, and without a fault? -/
def ShownBy : Json → Document → Prop
  | .array items, d =>
    ∃ spot shown stop, d = .list spot shown (.closed stop) ∧ ItemsShownBy items shown
  | .object members, d =>
    ∃ spot shown stop, d = .record spot shown (.ok stop) ∧ MembersShownBy members shown
  | j, d => ∃ spot, d = .leaf j spot

def ItemsShownBy : List Json → List (Place × Document) → Prop
  | [], shown => shown = []
  | item :: rest, shown =>
    ∃ place d more, shown = (place, d) :: more ∧ ShownBy item d ∧ ItemsShownBy rest more

def MembersShownBy : List (String × Json) → List (Key × Document) → Prop
  | [], shown => shown = []
  | (name, value) :: rest, shown => ∃ key d more, shown = (key, d) :: more ∧
      (key.name = name ∧ key.barrier = none) ∧ ShownBy value d ∧ MembersShownBy rest more

end

mutual

/-- The document of a value shows it. -/
theorem shownBy_ofJson : (j : Json) → j.ShownBy (.ofJson j)
  | .null => ⟨_, rfl⟩
  | .bool _ => ⟨_, rfl⟩
  | .int _ => ⟨_, rfl⟩
  | .float _ => ⟨_, rfl⟩
  | .string _ => ⟨_, rfl⟩
  | .array items => ⟨_, _, _, rfl, itemsShownBy_ofItems items⟩
  | .object members => ⟨_, _, _, rfl, membersShownBy_ofMemberList members⟩

theorem itemsShownBy_ofItems : (items : List Json) → ItemsShownBy items (Document.ofItems items)
  | [] => rfl
  | item :: rest => ⟨_, _, _, rfl, shownBy_ofJson item, itemsShownBy_ofItems rest⟩

theorem membersShownBy_ofMemberList :
    (members : List (String × Json)) → MembersShownBy members (Document.ofMemberList members)
  | [] => rfl
  | (_, value) :: rest =>
    ⟨_, _, _, rfl, ⟨rfl, rfl⟩, shownBy_ofJson value, membersShownBy_ofMemberList rest⟩

end

mutual

/-- A value is what its documents give back. -/
theorem toJson_of_shownBy {d : Document} : {j : Json} → j.Ordered → j.ShownBy d → d.toJson = .ok j
  | .null, _, ⟨_, h⟩ | .bool _, _, ⟨_, h⟩ | .int _, _, ⟨_, h⟩ | .float _, _, ⟨_, h⟩
  | .string _, _, ⟨_, h⟩ => by rw [h, Document.toJson]
  | .array _, hordered, ⟨_, _, _, h, hitems⟩ => by
    rw [h, Document.toJson, toItems_of_shownBy hordered hitems]
    rfl
  | .object _, hordered, ⟨_, _, _, h, hmembers⟩ => by
    obtain ⟨hascending, hvalues⟩ := hordered
    rw [h, Document.toJson, toMembers_of_shownBy hvalues hmembers, ok_bind]
    exact congrArg (fun members => Except.ok (Json.object members))
      (Keyed.ofList_of_ascending hascending)

theorem toItems_of_shownBy {shown : List (Place × Document)} : {items : List Json} →
    OrderedItems items → ItemsShownBy items shown → Document.toItems shown = .ok items
  | [], _, h => by
    rw [h]
    rfl
  | _ :: _, ⟨hitem, hrest⟩, ⟨_, _, _, h, hd, hmore⟩ => by
    rw [h, Document.toItems, toJson_of_shownBy hitem hd, ok_bind, toItems_of_shownBy hrest hmore]
    rfl

theorem toMembers_of_shownBy {shown : List (Key × Document)} : {members : List (String × Json)} →
    OrderedMembers members → MembersShownBy members shown → Document.toMembers shown = .ok members
  | [], _, h => by
    rw [h]
    rfl
  | _ :: _, ⟨hvalue, hrest⟩, ⟨_, _, _, h, ⟨hname, _⟩, hd, hmore⟩ => by
    rw [h, Document.toMembers, toJson_of_shownBy hvalue hd, ok_bind,
      toMembers_of_shownBy hrest hmore, ok_bind, hname]
    rfl

end

/-! ## Members of a document

What was read of the members of a document comes from its members, and nothing is added. -/

namespace Document

variable {shown : List (Key × Document)} {members : List (String × Json)}

theorem names_toMembers (h : toMembers shown = .ok members) :
    members.map (·.1) = shown.map (·.1.name) := by
  induction shown generalizing members with
  | nil => rw [← Except.ok.inj h]; rfl
  | cons m shown ih =>
    obtain ⟨key, d⟩ := m
    obtain ⟨j, -, hmore⟩ := bind_eq_ok.1 h
    obtain ⟨more, hrest, heq⟩ := bind_eq_ok.1 hmore
    rw [← Except.ok.inj heq, List.map_cons, List.map_cons, ih hrest]

theorem mem_toMembers {key : Key} {d : Document} {j : Json} (h : toMembers shown = .ok members)
    (hmem : (key, d) ∈ shown) (hd : d.toJson = .ok j) : (key.name, j) ∈ members := by
  induction shown generalizing members with
  | nil => exact absurd hmem List.not_mem_nil
  | cons m shown ih =>
    obtain ⟨key', d'⟩ := m
    obtain ⟨j', hj', hmore⟩ := bind_eq_ok.1 h
    obtain ⟨more, hrest, heq⟩ := bind_eq_ok.1 hmore
    obtain rfl := Except.ok.inj heq
    rcases List.mem_cons.1 hmem with heq | hmem
    · obtain ⟨rfl, rfl⟩ := Prod.mk.inj heq
      obtain rfl := Except.ok.inj (hd.symm.trans hj')
      exact List.mem_cons_self
    · exact List.mem_cons_of_mem _ (ih hrest hmem)

end Document

/-! ## Parts of ordered values

The definitions follow the value by recursion; later proofs ask for its parts. -/

theorem orderedItems_iff {items : List Json} : OrderedItems items ↔ ∀ j ∈ items, j.Ordered := by
  induction items with
  | nil => exact iff_of_true trivial nofun
  | cons item rest ih => rw [OrderedItems, ih, List.forall_mem_cons]

theorem orderedMembers_iff {members : List (String × Json)} :
    OrderedMembers members ↔ ∀ e ∈ members, e.2.Ordered := by
  induction members with
  | nil => exact iff_of_true trivial nofun
  | cons e rest ih => rw [OrderedMembers, ih, List.forall_mem_cons]

theorem nodup_of_ascending {members : List (String × Json)} (h : Keyed.Ascending members) :
    (members.map (·.1)).Nodup :=
  List.pairwise_map.2 (h.imp Keyed.ne_of_compare_lt)

theorem ItemsShownBy.shown_of_mem {items : List Json} {shown : List (Place × Document)}
    (h : ItemsShownBy items shown) : ∀ i ∈ shown, ∃ j : Json, j.ShownBy i.2 := by
  induction items generalizing shown with
  | nil => rw [show shown = [] from h]; exact nofun
  | cons item rest ih =>
    obtain ⟨place, d, more, rfl, hd, hmore⟩ := h
    exact List.forall_mem_cons.2 ⟨⟨_, hd⟩, ih hmore⟩

/-! ## Members by their names

Readers look for the members of a name. A document that shows an object has one for each name of the
object. -/

namespace MembersShownBy

variable {members : List (String × Json)} {shown : List (Key × Document)} {name : String} {j : Json}

theorem names_eq (h : MembersShownBy members shown) :
    shown.map (·.1.name) = members.map (·.1) := by
  induction members generalizing shown with
  | nil => rw [show shown = [] from h]; rfl
  | cons e rest ih =>
    obtain ⟨key, d, more, rfl, ⟨hname, -⟩, -, hmore⟩ := h
    rw [List.map_cons, List.map_cons, ih hmore, hname]

theorem barrier_eq_none (h : MembersShownBy members shown) : ∀ m ∈ shown, m.1.barrier = none := by
  induction members generalizing shown with
  | nil => rw [show shown = [] from h]; exact nofun
  | cons e rest ih =>
    obtain ⟨key, d, more, rfl, ⟨-, hbarrier⟩, -, hmore⟩ := h
    exact List.forall_mem_cons.2 ⟨hbarrier, ih hmore⟩

theorem filter (h : MembersShownBy members shown) (p : String → Bool) :
    MembersShownBy (members.filter fun e => p e.1) (shown.filter fun m => p m.1.name) := by
  induction members generalizing shown with
  | nil => rw [show shown = [] from h]; rfl
  | cons e rest ih =>
    obtain ⟨name, value⟩ := e
    obtain ⟨key, d, more, rfl, ⟨rfl, hbarrier⟩, hd, hmore⟩ := h
    by_cases hp : p key.name
    · simp only [List.filter_cons, hp, if_true]
      exact ⟨key, d, _, rfl, ⟨rfl, hbarrier⟩, hd, ih hmore⟩
    · simp only [List.filter_cons, hp, Bool.false_eq_true, if_false]
      exact ih hmore

theorem shown_of_mem (h : MembersShownBy members shown) : ∀ m ∈ shown, ∃ j : Json, j.ShownBy m.2 := by
  induction members generalizing shown with
  | nil => rw [show shown = [] from h]; exact nofun
  | cons e rest ih =>
    obtain ⟨key, d, more, rfl, -, hd, hmore⟩ := h
    exact List.forall_mem_cons.2 ⟨⟨_, hd⟩, ih hmore⟩

theorem exists_mem (h : MembersShownBy members shown) (hmem : (name, j) ∈ members) :
    ∃ key d, (key, d) ∈ shown ∧ key.name = name ∧ j.ShownBy d := by
  induction members generalizing shown with
  | nil => exact absurd hmem List.not_mem_nil
  | cons e rest ih =>
    obtain ⟨first, value⟩ := e
    obtain ⟨key, d, more, rfl, ⟨hname, -⟩, hd, hmore⟩ := h
    rcases List.mem_cons.1 hmem with heq | hmem
    · obtain ⟨rfl, rfl⟩ := Prod.mk.inj heq
      exact ⟨key, d, List.mem_cons_self, hname, hd⟩
    · obtain ⟨key', d', hmem', h'⟩ := ih hmore hmem
      exact ⟨key', d', List.mem_cons_of_mem _ hmem', h'⟩

theorem under_of_not_mem (h : MembersShownBy members shown) (hname : name ∉ members.map (·.1)) :
    under name shown = [] := by
  rw [← h.names_eq] at hname
  refine List.map_eq_nil_iff.2 (List.filter_eq_nil_iff.2 fun m hm heq => hname ?_)
  exact of_decide_eq_true heq ▸ List.mem_map_of_mem hm

/-- The document of a member is the only one under its name. -/
theorem under_of_mem (h : MembersShownBy members shown) (hnodup : (members.map (·.1)).Nodup)
    (hmem : (name, j) ∈ members) : ∃ d, under name shown = [d] ∧ j.ShownBy d := by
  induction members generalizing shown with
  | nil => exact absurd hmem nofun
  | cons e rest ih =>
    obtain ⟨first, value⟩ := e
    obtain ⟨key, d, more, rfl, ⟨rfl, -⟩, hd, hmore⟩ := h
    obtain ⟨hfresh, hrest⟩ := List.nodup_cons.1 hnodup
    rcases List.mem_cons.1 hmem with heq | hmem
    · obtain ⟨rfl, rfl⟩ := Prod.mk.inj heq
      exact ⟨d, by rw [under_cons_self, under_of_not_mem hmore hfresh], hd⟩
    · have hne : key.name ≠ name := fun heq =>
        hfresh (List.mem_map.2 ⟨_, hmem, heq.symm⟩)
      rw [under_cons_of_ne hne]
      exact ih hmore hrest hmem

end MembersShownBy
end Json
end RewardDesk
