import RewardDesk.Json.Record
import RewardDesk.Proofs.Outcome

/-!
# Reading objects field by field

An object is read member by member, in the order in which the members stand. What comes of it does
not depend on the order: there is a value for every field, read from the one member of its name or
standing for an absent one (`Fields.Reads`), and the other members are refused, ignored or collected
(`Others.Leave`). `Fields.readObject_eq_ok` says that reading succeeds exactly then.

The fields are taken to have one name each, and no two the same one (`Fields.Plain`).
-/

namespace RewardDesk
namespace Json

/-- The documents of the members with a name. -/
def under (name : String) (members : List (Key × Document)) : List Document :=
  (members.filter fun m => m.1.name = name).map (·.2)

theorem under_cons_self (key : Key) (d : Document) (members : List (Key × Document)) :
    under key.name ((key, d) :: members) = d :: under key.name members := by
  simp [under]

theorem under_cons_of_ne {name : String} {key : Key} (h : key.name ≠ name) (d : Document)
    (members : List (Key × Document)) :
    under name ((key, d) :: members) = under name members := by
  simp [under, h]

/-! ## What is read

The relational side: which values a field may have, given the members of its name. The order of
members and the moment at which a fault is found play no part in it. -/

/-- What stands for a field that an object leaves out. -/
def Absent.inObject? : Absent α → Option α
  | .refused => none
  | .inObject a | .everywhere a => some a

/-- Is this the value of a field of which there are such members? -/
def Field.Reads (f : Field α) (o : Origin) : List Document → α → Prop
  | [], a => f.absent.inObject? = some a
  | d :: more, a => f.codec.decode o d = .ok a ∧ more = []

/-- Are these the values of a field before and behind such members? -/
def Field.Takes (f : Field α) (o : Origin) : Option α → List Document → Option α → Prop
  | seen, [], seen' => seen' = seen
  | some _, _ :: _, _ => False
  | none, d :: more, seen' => ∃ a, f.codec.decode o d = .ok a ∧ more = [] ∧ seen' = some a

theorem Field.takes_cons {f : Field α} {o : Origin} {d : Document} {ds : List Document}
    {seen' : Option α} : f.Takes o none (d :: ds) seen' ↔
      ∃ a, f.codec.decode o d = .ok a ∧ f.Takes o (some a) ds seen' := by
  cases ds with
  | nil => simp [Takes]
  | cons d' ds => simp [Takes]

namespace Fields

/-- Every field has one name, which no other field has. -/
def Plain : Fields αs → Prop
  | .nil => True
  | .cons f rest => f.otherName = none ∧ f.name ∉ rest.names ∧ rest.Plain

instance decidablePlain : (fs : Fields αs) → Decidable fs.Plain
  | .nil => inferInstanceAs (Decidable True)
  | .cons f rest =>
    have := rest.decidablePlain
    inferInstanceAs (Decidable (f.otherName = none ∧ f.name ∉ rest.names ∧ rest.Plain))

/-- Are these the values of the fields of an object with such members? -/
def Reads (o : Origin) (members : List (Key × Document)) : (fs : Fields αs) → Row αs → Prop
  | .nil, _ => True
  | .cons f rest, (a, row) => f.Reads o (under f.name members) a ∧ rest.Reads o members row

/-- Are these the values of the fields before and behind such members? -/
def Takes (o : Origin) (members : List (Key × Document)) :
    (fs : Fields αs) → Draft αs → Draft αs → Prop
  | .nil, _, _ => True
  | .cons f rest, (seen, draft), (seen', draft') =>
    f.Takes o seen (under f.name members) seen' ∧ rest.Takes o members draft draft'

/-- Is this what is left of the members that are no fields? -/
def Others.Leave (names : List String) (members : List (Key × Document)) :
    Others → List (String × Json) → Prop
  | .refused, more => (∀ m ∈ members, m.1.name ∈ names) ∧ more = []
  | .ignored, more => (∀ m ∈ members, m.1.name ∉ names → m.1.barrier = none) ∧ more = []
  | .collected, more =>
    Document.toMembers (members.filter fun m => m.1.name ∉ names) = .ok more

/-! ## Single members

The reader keeps a draft, with the value of each field that it has met. These lemmas say how one
member changes the draft. -/

section
variable {αs : List Type} {fs : Fields αs} {o : Origin} {key : Key} {value : Document}
  {members : List (Key × Document)} {draft draft' : Draft αs}

theorem takes_nil : fs.Takes o [] draft draft' ↔ draft' = draft := by
  induction fs with
  | nil => exact iff_of_true trivial rfl
  | cons f rest ih =>
    obtain ⟨seen, draft⟩ := draft
    obtain ⟨seen', draft'⟩ := draft'
    show seen' = seen ∧ rest.Takes o [] draft draft' ↔ (seen', draft') = (seen, draft)
    rw [ih, Prod.mk.injEq]

theorem takes_cons_of_not_mem (h : key.name ∉ fs.names) :
    fs.Takes o ((key, value) :: members) draft draft' ↔ fs.Takes o members draft draft' := by
  induction fs with
  | nil => exact Iff.rfl
  | cons f rest ih =>
    obtain ⟨hne, hrest⟩ := not_or.1 (mt List.mem_cons.2 h)
    obtain ⟨seen, draft⟩ := draft
    obtain ⟨seen', draft'⟩ := draft'
    simp only [Takes, under_cons_of_ne hne, ih hrest]

theorem find_eq_none (hplain : fs.Plain) : fs.find key.name draft = none ↔ key.name ∉ fs.names := by
  induction fs with
  | nil => simp [find, names]
  | cons f rest ih =>
    obtain ⟨hother, -, hrest⟩ := hplain
    obtain ⟨seen, draft⟩ := draft
    by_cases hname : f.name = key.name
    · simp [find, names, Field.answersTo, hname]
    · simp [find, names, Field.answersTo, hother, hname, ih hrest, Ne.symm hname]

/-- A member is passed over, or refused, or read as the value of its field. -/
theorem takes_cons (hplain : fs.Plain) :
    fs.Takes o ((key, value) :: members) draft draft' ↔
      match fs.find key.name draft with
      | none => fs.Takes o members draft draft'
      | some (_, true) => False
      | some (_, false) => ∃ draft₁, fs.put key.name o value draft = .ok draft₁ ∧
          fs.Takes o members draft₁ draft' := by
  induction fs with
  | nil => exact Iff.rfl
  | cons f rest ih =>
    obtain ⟨hother, hfresh, hrest⟩ := hplain
    obtain ⟨seen, draft⟩ := draft
    obtain ⟨seen', draft'⟩ := draft'
    by_cases hname : f.name = key.name
    · have hanswers : f.answersTo key.name := by simp [Field.answersTo, hname]
      have hothers : rest.Takes o ((key, value) :: members) draft draft' ↔
          rest.Takes o members draft draft' := takes_cons_of_not_mem (hname ▸ hfresh)
      simp only [Takes, find, put, hanswers, if_true, hname, under_cons_self, hothers]
      cases seen with
      | some a => exact iff_of_false (fun h => h.1) id
      | none =>
        constructor
        · rintro ⟨hfirst, hmore⟩
          obtain ⟨a, hdecode, hfirst⟩ := Field.takes_cons.1 hfirst
          exact ⟨(some a, draft), map_eq_ok.2 ⟨a, hdecode, rfl⟩, hname ▸ hfirst, hmore⟩
        · rintro ⟨draft₁, hput, htakes⟩
          obtain ⟨a, hdecode, rfl⟩ := map_eq_ok.1 hput
          exact ⟨Field.takes_cons.2 ⟨a, hdecode, hname ▸ htakes.1⟩, htakes.2⟩
    · have hanswers : f.answersTo key.name = false := by simp [Field.answersTo, hother, hname]
      simp only [Takes, find, put, hanswers, under_cons_of_ne (Ne.symm hname), ih hrest,
        Bool.false_eq_true, if_false]
      cases rest.find key.name draft with
      | none => exact Iff.rfl
      | some found =>
        obtain ⟨name, isTaken⟩ := found
        cases isTaken with
        | true => exact iff_of_eq (and_false _)
        | false =>
          constructor
          · rintro ⟨hfirst, draft₁, hput, htakes⟩
            refine ⟨(seen, draft₁), ?_, hfirst, htakes⟩
            exact map_eq_ok.2 ⟨draft₁, hput, rfl⟩
          · rintro ⟨_, hput, htakes⟩
            obtain ⟨draft₁, hmore, rfl⟩ := map_eq_ok.1 hput
            exact ⟨htakes.1, draft₁, hmore, htakes.2⟩

end

/-! ## All members

Read from a blank draft to its end, an object has given every field its value once. A field that
comes twice is refused on its second member, and one that never comes may stand for something
(`Absent.inObject?`). -/

/-- Reading the members succeeds if they give values to the fields and the others are left. -/
theorem readMembers_eq_ok {fs : Fields αs} {others : Others} {o : Origin}
    {members : List (Key × Document)} {draft draft' : Draft αs} {more : List (String × Json)}
    (hplain : fs.Plain) :
    fs.readMembers others o draft members = .ok (draft', more) ↔
      fs.Takes o members draft draft' ∧ others.Leave fs.names members more := by
  induction members generalizing draft more with
  | nil =>
    have hleave : others.Leave fs.names [] more ↔ more = [] := by
      cases others with
      | refused => simp [Others.Leave]
      | ignored => simp [Others.Leave]
      | collected => simp [Others.Leave, Document.toMembers, eq_comm]
    rw [readMembers, takes_nil, hleave]
    simp [eq_comm]
  | cons m members ih =>
    obtain ⟨key, value⟩ := m
    have hnone : fs.find key.name draft = none ↔ key.name ∉ fs.names := find_eq_none hplain
    rw [readMembers.eq_def, takes_cons hplain]
    cases hfind : fs.find key.name draft with
    | some found =>
      obtain ⟨name, isTaken⟩ := found
      have hmem : key.name ∈ fs.names := by
        rw [hfind] at hnone
        simpa using hnone
      have hleave : others.Leave fs.names ((key, value) :: members) more ↔
          others.Leave fs.names members more := by
        cases others with
        | refused => simp [Others.Leave, hmem]
        | ignored => simp [Others.Leave, hmem]
        | collected => simp [Others.Leave, hmem]
      rw [hleave]
      cases isTaken with
      | true => simp [hfind]
      | false => simp only [hfind, bind_eq_ok, ih, ← and_assoc, exists_and_right]
    | none =>
      have hnotMem : key.name ∉ fs.names := hnone.1 hfind
      cases others with
      | refused => simp [hfind, Others.Leave, hnotMem]
      | ignored =>
        cases hbarrier : key.barrier with
        | some f => simp [hfind, Others.Leave, hnotMem, hbarrier]
        | none => simp [hfind, ih, Others.Leave, hnotMem, hbarrier]
      | collected =>
        simp only [hfind, bind_eq_ok, Others.Leave, hnotMem, not_false_eq_true, List.filter_cons,
          decide_true, if_true, Document.toMembers]
        constructor
        · rintro ⟨j, hj, ⟨draft₁, rest⟩, hrest, heq⟩
          obtain ⟨rfl, rfl⟩ := Prod.mk.inj (Except.ok.inj heq)
          obtain ⟨htakes, hleave⟩ := ih.1 hrest
          exact ⟨htakes, j, hj, rest, hleave, rfl⟩
        · rintro ⟨htakes, j, hj, rest, hleave, heq⟩
          obtain rfl := Except.ok.inj heq
          exact ⟨j, hj, (draft', rest), ih.2 ⟨htakes, hleave⟩, rfl⟩

theorem complete_cons {f : Field α} {rest : Fields αs} {seen : Option α} {draft : Draft αs} {a : α}
    {row : Row αs} : (cons f rest).complete (seen, draft) = .ok (a, row) ↔
      (seen = some a ∨ seen = none ∧ f.absent.inObject? = some a) ∧
        rest.complete draft = .ok row := by
  have hpair : ∀ b, (do return (b, ← rest.complete draft) : Except Fault (α × Row αs)) =
      .ok (a, row) ↔ b = a ∧ rest.complete draft = .ok row := by
    intro b
    rw [bind_eq_ok]
    constructor
    · rintro ⟨row', hrow, heq⟩
      obtain ⟨rfl, rfl⟩ := Prod.mk.inj (Except.ok.inj heq)
      exact ⟨rfl, hrow⟩
    · rintro ⟨rfl, hrow⟩
      exact ⟨row, hrow, rfl⟩
  obtain ⟨name, codec, absent, otherName, omits⟩ := f
  cases seen with
  | some b => exact (hpair b).trans (by simp)
  | none =>
    cases absent with
    | refused => exact iff_of_false nofun (by simp [Absent.inObject?])
    | inObject b => exact (hpair b).trans (by simp [Absent.inObject?])
    | everywhere b => exact (hpair b).trans (by simp [Absent.inObject?])

/-- What nothing was read of before is read from the members or stands for an absent one. -/
theorem complete_blank {fs : Fields αs} {o : Origin} {members : List (Key × Document)}
    {row : Row αs} :
    (∃ draft, fs.Takes o members (blank αs) draft ∧ fs.complete draft = .ok row) ↔
      fs.Reads o members row := by
  induction fs with
  | nil => exact ⟨fun _ => trivial, fun _ => ⟨(), trivial, rfl⟩⟩
  | cons f rest ih =>
    obtain ⟨a, row⟩ := row
    have hfield : f.Reads o (under f.name members) a ↔
        ∃ seen, f.Takes o none (under f.name members) seen ∧
          (seen = some a ∨ seen = none ∧ f.absent.inObject? = some a) := by
      cases under f.name members with
      | nil => simp [Field.Reads, Field.Takes]
      | cons d more =>
        constructor
        · rintro ⟨hdecode, hmore⟩
          exact ⟨some a, ⟨a, hdecode, hmore, rfl⟩, .inl rfl⟩
        · rintro ⟨_, ⟨a', hdecode, hmore, rfl⟩, hseen⟩
          rcases hseen with hsome | ⟨hnone, -⟩
          · obtain rfl := Option.some.inj hsome
            exact ⟨hdecode, hmore⟩
          · cases hnone
    rw [Reads, ← ih, hfield]
    constructor
    · rintro ⟨⟨seen, draft⟩, ⟨hfirst, hmore⟩, hcomplete⟩
      obtain ⟨hseen, hrow⟩ := complete_cons.1 hcomplete
      exact ⟨⟨seen, hfirst, hseen⟩, draft, hmore, hrow⟩
    · rintro ⟨⟨seen, hfirst, hseen⟩, draft, hmore, hrow⟩
      exact ⟨(seen, draft), ⟨hfirst, hmore⟩, complete_cons.2 ⟨hseen, hrow⟩⟩

/-- An object is read if its members give values to the fields and the others are left. -/
theorem readObject_eq_ok {fs : Fields αs} {others : Others} {o : Origin}
    {members : List (Key × Document)} {stop place : Place} {row : Row αs}
    {more : List (String × Json)} (hplain : fs.Plain) :
    fs.readObject others o members (.ok stop) = .ok (row, more, place) ↔
      fs.Reads o members row ∧ others.Leave fs.names members more ∧ place = stop := by
  rw [← complete_blank, readObject]
  constructor
  · intro h
    obtain ⟨⟨draft, more'⟩, hmembers, hend⟩ := bind_eq_ok.1 h
    obtain ⟨htakes, hleave⟩ := (readMembers_eq_ok hplain).1 hmembers
    simp only at hend
    split at hend
    · obtain ⟨rfl, heq⟩ := Prod.mk.inj (Except.ok.inj hend)
      obtain ⟨rfl, rfl⟩ := Prod.mk.inj heq
      exact ⟨⟨draft, htakes, ‹_›⟩, hleave, rfl⟩
    · cases hend
  · rintro ⟨⟨draft, htakes, hcomplete⟩, hleave, rfl⟩
    rw [(readMembers_eq_ok hplain).2 ⟨htakes, hleave⟩]
    simp only [ok_bind, hcomplete, pure_eq_ok]

/-! ## Arrays

Records may be given as arrays as well, with the fields in the order of their declaration. -/

/-- What an array gives to the first of some fields. -/
theorem readItems_cons {f : Field α} {rest : Fields αs} {o : Origin} {expected : String}
    {ending : Ending} {index : Nat} {place : Place} {item : Document}
    {items left : List (Place × Document)} {a : α} {row : Row αs}
    (h : (cons f rest).readItems o expected ending index ((place, item) :: items) =
      .ok ((a, row), left)) :
    f.codec.decode o item = .ok a ∧
      rest.readItems o expected ending (index + 1) items = .ok (row, left) := by
  obtain ⟨a', ha, hrest⟩ := bind_eq_ok.1 h
  obtain ⟨⟨row', left'⟩, hrow, heq⟩ := bind_eq_ok.1 hrest
  obtain ⟨hpair, rfl⟩ := Prod.mk.inj (Except.ok.inj heq)
  obtain ⟨rfl, rfl⟩ := Prod.mk.inj hpair
  exact ⟨ha, hrow⟩

end Fields
end Json
end RewardDesk
