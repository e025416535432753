import RewardDesk.Proofs.Json.Returns
import RewardDesk.Proofs.Json.Text

/-!
# Codecs whose texts are read back

What is written as a text is read back as long as its numbers are whole ones of 64 bits and it is
not nested too deeply (`Codec.Returns.ofText`). `Codec.Writes` says this of what a codec writes of a
value; a record adds one bracket to what its fields write (`Codec.writes_record`).
-/

namespace RewardDesk
namespace Json

/-! ## Values in texts -/

/-- All numbers inside are whole ones of 64 bits, and it has at most so many brackets around its
innermost value. -/
structure Writable (n : Nat) (j : Json) : Prop where
  exact : j.Exact
  depth : j.depth ≤ n

theorem exactItems_iff {items : List Json} : ExactItems items ↔ ∀ j ∈ items, j.Exact := by
  induction items with
  | nil => exact iff_of_true trivial nofun
  | cons item rest ih => rw [ExactItems, ih, List.forall_mem_cons]

theorem exactMembers_iff {members : List (String × Json)} :
    ExactMembers members ↔ ∀ e ∈ members, e.2.Exact := by
  induction members with
  | nil => exact iff_of_true trivial nofun
  | cons e rest ih => rw [ExactMembers, ih, List.forall_mem_cons]

theorem depthItems_le {n : Nat} {items : List Json} :
    depthItems items ≤ n ↔ ∀ j ∈ items, j.depth ≤ n := by
  induction items with
  | nil => exact iff_of_true (Nat.zero_le n) nofun
  | cons item rest ih => rw [depthItems, Nat.max_le, ih, List.forall_mem_cons]

theorem depthMembers_le {n : Nat} {members : List (String × Json)} :
    depthMembers members ≤ n ↔ ∀ e ∈ members, e.2.depth ≤ n := by
  induction members with
  | nil => exact iff_of_true (Nat.zero_le n) nofun
  | cons e rest ih => rw [depthMembers, Nat.max_le, ih, List.forall_mem_cons]

namespace Writable

variable {n : Nat}

theorem null : Writable n .null := ⟨trivial, Nat.zero_le n⟩

theorem bool (b : Bool) : Writable n (.bool b) := ⟨trivial, Nat.zero_le n⟩

theorem string (s : String) : Writable n (.string s) := ⟨trivial, Nat.zero_le n⟩

theorem int {m : Int} (h : IsWord m) : Writable n (.int m) := ⟨h, Nat.zero_le n⟩

theorem array {items : List Json} (h : ∀ j ∈ items, j.Writable n) : Writable (n + 1) (.array items) :=
  ⟨exactItems_iff.2 fun j hj => (h j hj).exact,
    Nat.succ_le_succ (depthItems_le.2 fun j hj => (h j hj).depth)⟩

theorem ofMembers {members : List (String × Json)} (h : ∀ e ∈ members, e.2.Writable n) :
    Writable (n + 1) (ofMembers members) :=
  ⟨exactMembers_iff.2 fun e he => (h e (Keyed.mem_of_mem_ofList he)).exact,
    Nat.succ_le_succ (depthMembers_le.2 fun e he => (h e (Keyed.mem_of_mem_ofList he)).depth)⟩

end Writable

/-! ## Codecs -/

namespace Codec

/-- Can a text hold what is written of the value? -/
def Writes (c : Codec α) (n : Nat) (a : α) : Prop := (c.encode a).Writable n

variable {n : Nat}

/-- A value that is returned is returned from texts as well. -/
theorem Returns.ofText_of_writes {c : Codec α} {a : α} (h : c.Returns a) (hwrites : c.Writes n a)
    (hn : n ≤ depthLimit) : c.ofText (Text.bytes (c.encode a).compact) = .ok a :=
  h.ofText hwrites.exact (Nat.le_trans hwrites.depth hn)

theorem writes_string (s : String) : string.Writes n s := .string s

theorem writes_bool (b : Bool) : bool.Writes n b := .bool b

theorem writes_instant (t : Instant) : instant.Writes n t := .string _

theorem writes_choice {names : List (String × α)} {name : α → String} (a : α) :
    (choice names name).Writes n a := .string _

theorem writes_int64 (m : Int64) : int64.Writes n m :=
  .int ⟨m.le_toInt, Int.lt_of_lt_of_le m.toInt_lt (by decide)⟩

theorem writes_uint64 (m : UInt64) : uint64.Writes n m :=
  .int ⟨Int.le_trans (by decide) (Int.natCast_nonneg _), Int.ofNat_lt.2 m.toNat_lt⟩

theorem writes_uint32 (m : UInt32) : uint32.Writes n m :=
  .int ⟨Int.le_trans (by decide) (Int.natCast_nonneg _),
    Int.ofNat_lt.2 (Nat.lt_trans m.toNat_lt (by decide))⟩

theorem writes_optional {c : Codec α} {a? : Option α} (h : ∀ a, a? = some a → c.Writes n a) :
    c.optional.Writes n a? := by
  cases a? with
  | none => exact .null
  | some a => exact h a rfl

theorem writes_list {c : Codec α} {as : List α} (h : ∀ a ∈ as, c.Writes n a) :
    c.list.Writes (n + 1) as :=
  .array fun j hj => by
    obtain ⟨a, ha, rfl⟩ := List.mem_map.1 hj
    exact h a ha

end Codec

/-- Can a text hold what is written of each field? -/
def Fields.Write (n : Nat) : (fs : Fields αs) → Row αs → Prop
  | .nil, _ => True
  | .cons f rest, (a, row) => f.codec.Writes n a ∧ rest.Write n row

theorem Fields.Write.forall_members {n : Nat} {fs : Fields αs} {row : Row αs} (h : fs.Write n row) :
    ∀ e ∈ fs.members row, e.2.Writable n := by
  induction fs with
  | nil => exact nofun
  | cons f rest ih =>
    obtain ⟨a, row⟩ := row
    intro e he
    rcases mem_members_cons.1 he with ⟨-, rfl⟩ | he
    · exact h.1
    · exact ih h.2 e he

/-- A record adds one bracket. -/
theorem Codec.writes_record {name : String} {fs : Fields αs} {build : Row αs → α}
    {view : α → Row αs} {others : Fields.Others} {n : Nat} {a : α} (h : fs.Write n (view a)) :
    (record name fs build view others).Writes (n + 1) a :=
  .ofMembers h.forall_members

end Json
end RewardDesk
