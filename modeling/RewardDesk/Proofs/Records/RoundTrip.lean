import RewardDesk.Proofs.Json.Stems
import RewardDesk.Proofs.Json.Writes
import RewardDesk.Proofs.Links.Pairs
import RewardDesk.Proofs.Records.Lineage
import RewardDesk.Proofs.Rewards.Wire

/-!
# Records in JSON and back

    record ──encode──▶ JSON ──compact──▶ text
       ▲                 │                 │
       ├─────ofValue─────┘                 │
       └─────ofText────────────────────────┘

Rewards, requests, notices and events are read from what is written of them, alone and on pages, as
values and as texts (`Errand.wire_forms_return`). Their times have to be legible for that, and an
event must not have null as its condition, which is read as no condition. No event that payloads
make has (`Event.Lineage.stated`).
-/

namespace RewardDesk

open Json

/-! ## Single records

The codecs are built from the same parts, so that a record returns is said part by part. What
remains of it are the conditions on times and on the condition of an event. -/

/-- Can all times of the request be read? -/
structure Request.Legible (r : Request) : Prop where
  createdAt : r.createdAt.Legible
  updatedAt : r.updatedAt.Legible

/-- Can all times of the event be read? -/
structure Event.Legible (e : Event) : Prop where
  startDate : e.startDate.Legible
  endDate : e.endDate.Legible
  createdAt : e.createdAt.Legible
  updatedAt : e.updatedAt.Legible

/-- The condition of an event, if it has one, is not null, and objects inside are in order. -/
def Event.Stated (e : Event) : Prop := ∀ j, e.condition = some j → j ≠ .null ∧ j.Ordered

/-- The condition of an event, if it has one, has no floating-point numbers and is nested at most a
hundred levels deep. -/
def Event.Plain (e : Event) : Prop := ∀ j, e.condition = some j → j.Writable 100

theorem RequestStatus.returns (s : RequestStatus) : codec.Returns s :=
  Codec.returns_choice (by cases s <;> rfl)

theorem EventStatus.returns (s : EventStatus) : codec.Returns s :=
  Codec.returns_choice (by cases s <;> rfl)

theorem Request.returns {r : Request} (h : r.Legible) : codec.Returns r :=
  Codec.returns_record (by decide) nofun
    ⟨Codec.returns_string _, Codec.returns_string _, Codec.returns_string _,
      RequestStatus.returns _, Codec.returns_instant h.createdAt, Codec.returns_instant h.updatedAt,
      trivial⟩ rfl

theorem Request.writes (r : Request) : codec.Writes 1 r :=
  Codec.writes_record ⟨Codec.writes_string _, Codec.writes_string _, Codec.writes_string _,
    Codec.writes_choice _, Codec.writes_instant _, Codec.writes_instant _, trivial⟩

theorem StatusChange.returns {c : StatusChange} (h : c.changedAt.Legible) : codec.Returns c :=
  Codec.returns_record (by decide) nofun
    ⟨Codec.returns_string _, Codec.returns_string _, Codec.returns_string _,
      RequestStatus.returns _, RequestStatus.returns _, Codec.returns_instant h, trivial⟩ rfl

theorem StatusChange.writes (c : StatusChange) : codec.Writes 1 c :=
  Codec.writes_record ⟨Codec.writes_string _, Codec.writes_string _, Codec.writes_string _,
    Codec.writes_choice _, Codec.writes_choice _, Codec.writes_instant _, trivial⟩

theorem Event.returns {e : Event} (h : e.Legible) (hstated : e.Stated) : codec.Returns e :=
  Codec.returns_record (by decide) nofun
    ⟨Codec.returns_string _, Codec.returns_string _,
      Codec.returns_optional fun _ _ => ⟨Codec.returns_string _, nofun⟩,
      Codec.returns_optional fun j hj => ⟨Codec.returns_any (hstated j hj).2, (hstated j hj).1⟩,
      Codec.returns_instant h.startDate, Codec.returns_instant h.endDate, EventStatus.returns _,
      Codec.returns_instant h.createdAt, Codec.returns_instant h.updatedAt, trivial⟩ rfl

theorem Event.writes {e : Event} (h : e.Plain) : codec.Writes 101 e :=
  Codec.writes_record ⟨Codec.writes_string _, Codec.writes_string _,
    Codec.writes_optional fun _ _ => Codec.writes_string _, Codec.writes_optional h,
    Codec.writes_instant _, Codec.writes_instant _, Codec.writes_choice _, Codec.writes_instant _,
    Codec.writes_instant _, trivial⟩

theorem RewardData.Carries.writable {d : RewardData} {field : String} {value : Json} {n : Nat}
    (h : d.Carries field value) : value.Writable n := by
  cases d with
  | point points => rw [h.2]; exact Codec.writes_int64 points
  | item itemId quantity =>
    rcases h with ⟨-, rfl⟩ | ⟨-, rfl⟩
    · exact .string _
    · exact Codec.writes_int64 quantity
  | coupon code expiry => rcases h with ⟨-, rfl⟩ | ⟨-, s, rfl, -⟩ <;> exact .string _
  | badge badgeId => rw [h.2]; exact .string _

theorem RewardData.writable_of_mem_members {d : RewardData} {e : String × Json} {n : Nat}
    (h : d.Legible) (he : e ∈ d.members) : e.2.Writable n := by
  obtain ⟨bare, hmembers, -, hcarries⟩ := d.exists_members
  rw [hmembers] at he
  rcases List.mem_cons.1 he with rfl | he
  · exact .string _
  · exact (hcarries h e he).writable

theorem Reward.writes {r : Reward} (h : r.Legible) : codec.Writes 1 r := by
  refine .ofMembers fun e he => ?_
  rcases List.mem_append.1 he with he | he
  · have hown : ownFields.Write 0 r.own :=
      ⟨Codec.writes_string _, Codec.writes_string _, Codec.writes_optional fun _ _ =>
        Codec.writes_string _, Codec.writes_instant _, Codec.writes_instant _, trivial⟩
    exact hown.forall_members e he
  · exact RewardData.writable_of_mem_members h.data he

/-! ## Conditions

The condition of an event may be any JSON. It is an optional field, and null in such a field is read
as nothing, so no payload gives null for a condition. -/

/-- The condition that a payload gives, if it gives one, is not null. -/
theorem CreateEvent.condition_of_read {j : Json} {p : CreateEvent} (h : payload.read j = .ok p) :
    ∀ c, p.condition = some c → c ≠ .null ∧ c.Ordered := by
  have hread := Payload.carries_of_read h
  dsimp only [Payload.Carries, payload] at hread
  obtain ⟨row, rfl, -, -, hcondition, -⟩ := Codec.stem_of_ofValue hread (by decide)
  exact stem_optional_any hcondition

theorem UpdateEvent.condition_of_read {j : Json} {p : UpdateEvent} (h : payload.read j = .ok p) :
    ∀ c, p.condition = some c → c ≠ .null ∧ c.Ordered := by
  have hread := Payload.carries_of_read h
  dsimp only [Payload.Carries, payload] at hread
  obtain ⟨row, rfl, -, -, -, hcondition, -⟩ := Codec.stem_of_ofValue hread (by decide)
  exact stem_optional_any hcondition

/-- No event that payloads make has null as its condition. -/
theorem Event.Lineage.stated {e : Event} (h : e.Lineage) : e.Stated := by
  induction h with
  | described hread => exact CreateEvent.condition_of_read hread
  | @changed j p e time hread _ ih =>
    intro c hc
    have hc : p.condition.or e.condition = some c := hc
    rcases Option.or_eq_some_iff.1 hc with hgiven | ⟨-, hold⟩
    · exact UpdateEvent.condition_of_read hread c hgiven
    · exact ih c hold

/-! ## Pages

A page is written with its items in an array and with numbers or a cursor beside it. It returns if
its items do. -/

section
variable {n : Nat} {item : Codec α}

theorem OffsetPage.returns {p : OffsetPage α} (h : ∀ a ∈ p.items, item.Returns a) :
    (codec item).Returns p :=
  Codec.returns_record (by simp [Fields.Plain, Fields.names, Field.required]) nofun
    ⟨Codec.returns_list h, Codec.returns_uint64 _, Codec.returns_uint32 _,
      Codec.returns_uint32 _, Codec.returns_uint64 _, Codec.returns_bool _, Codec.returns_bool _,
      trivial⟩ rfl

theorem OffsetPage.writes {p : OffsetPage α} (h : ∀ a ∈ p.items, item.Writes n a) :
    (codec item).Writes (n + 2) p :=
  Codec.writes_record ⟨Codec.writes_list h, Codec.writes_uint64 _, Codec.writes_uint32 _,
    Codec.writes_uint32 _, Codec.writes_uint64 _, Codec.writes_bool _, Codec.writes_bool _, trivial⟩

theorem CursorPage.returns {p : CursorPage α} (h : ∀ a ∈ p.items, item.Returns a) :
    (codec item).Returns p :=
  Codec.returns_record
    (by simp [Fields.Plain, Fields.names, Field.required, Field.optional]) nofun
    ⟨Codec.returns_list h, Codec.returns_optional fun _ _ => ⟨Codec.returns_string _, nofun⟩,
      Codec.returns_bool _, trivial⟩ rfl

theorem CursorPage.writes {p : CursorPage α} (h : ∀ a ∈ p.items, item.Writes n a) :
    (codec item).Writes (n + 2) p :=
  Codec.writes_record ⟨Codec.writes_list h, Codec.writes_optional fun _ _ => Codec.writes_string _,
    Codec.writes_bool _, trivial⟩

end

/-! ## Both ways

From a value more comes back than from a text: the text of a floating-point number may be read as
another number, and brackets can be nested too deeply for the reader. -/

namespace Json.Codec

/-- Is the value read from what is written of it? -/
def RestoresValue (c : Codec α) (a : α) : Prop := c.ofValue (c.encode a) = .ok a

/-- Is the value read from the text of what is written of it? -/
def RestoresText (c : Codec α) (a : α) : Prop :=
  c.ofText (Text.bytes (c.encode a).compact) = .ok a

/-- Do values with one property come back from JSON, and those with another one besides from texts
as well, alone and on pages? -/
structure Restores (c : Codec α) (P Q : α → Prop) : Prop where
  value : ∀ a, P a → c.RestoresValue a
  text : ∀ a, P a → Q a → c.RestoresText a
  offsetPage : ∀ p : OffsetPage α, (∀ a ∈ p.items, P a) → (OffsetPage.codec c).RestoresValue p
  offsetPageText : ∀ p : OffsetPage α, (∀ a ∈ p.items, P a ∧ Q a) →
    (OffsetPage.codec c).RestoresText p
  cursorPage : ∀ p : CursorPage α, (∀ a ∈ p.items, P a) → (CursorPage.codec c).RestoresValue p
  cursorPageText : ∀ p : CursorPage α, (∀ a ∈ p.items, P a ∧ Q a) →
    (CursorPage.codec c).RestoresText p

/-- A page adds two brackets to its items. -/
theorem restores_of_returns {c : Codec α} {P Q : α → Prop} {n : Nat}
    (hreturns : ∀ a, P a → c.Returns a) (hwrites : ∀ a, P a → Q a → c.Writes n a)
    (hn : n + 2 ≤ depthLimit) : c.Restores P Q where
  value a ha := (hreturns a ha).ofValue
  text a ha ha' := (hreturns a ha).ofText_of_writes (hwrites a ha ha') (by omega)
  offsetPage p hp := (OffsetPage.returns fun a ha => hreturns a (hp a ha)).ofValue
  offsetPageText p hp := (OffsetPage.returns fun a ha => hreturns a (hp a ha).1).ofText_of_writes
    (OffsetPage.writes fun a ha => hwrites a (hp a ha).1 (hp a ha).2) hn
  cursorPage p hp := (CursorPage.returns fun a ha => hreturns a (hp a ha)).ofValue
  cursorPageText p hp := (CursorPage.returns fun a ha => hreturns a (hp a ha).1).ofText_of_writes
    (CursorPage.writes fun a ha => hwrites a (hp a ha).1 (hp a ha).2) hn

end Json.Codec

/-- Rewards, requests and notices whose times can be read come back from their JSON and from its
text. So do events whose condition is not null, from the text if the condition has no floating-point
numbers and at most a hundred brackets around each value. The same is true of pages of them. And the
condition of an event is never null, whatever errands have made of it. -/
theorem Errand.wire_forms_return :
    Reward.codec.Restores Reward.Legible (fun _ => True) ∧
    Request.codec.Restores Request.Legible (fun _ => True) ∧
    StatusChange.codec.Restores (fun c => c.changedAt.Legible) (fun _ => True) ∧
    Event.codec.Restores (fun e => e.Legible ∧ e.Stated) Event.Plain ∧
    ∀ {ι : Type} [DecidableEq ι] (supply : Supply) (channel : Channel StatusChange)
      (errands : ι → Errand) (schedule : List ι) (id : String) (e : Event),
      (runAll supply channel errands schedule).state.storage.events.get? id = some e → e.Stated := by
  refine ⟨?_, ?_, ?_, ?_, ?_⟩
  · exact Codec.restores_of_returns (fun _ h => Reward.returns h) (fun _ h _ => Reward.writes h)
      (by decide)
  · exact Codec.restores_of_returns (fun _ h => Request.returns h) (fun r _ _ => r.writes) (by decide)
  · exact Codec.restores_of_returns (fun _ h => StatusChange.returns h) (fun c _ _ => c.writes)
      (by decide)
  · exact Codec.restores_of_returns (fun _ h => Event.returns h.1 h.2) (fun _ _ h => Event.writes h)
      (by decide)
  · intro ι _ supply channel errands schedule id e he
    exact ((records_descend supply channel errands schedule).events id e he).stated

/-- A coupon that expires in a leap second of a late year, an event with a condition, and the event
that is left when one with that condition is created and null is given for its condition
afterwards. -/
theorem Errand.wire_forms_return_of_condition :
    let coupon : Reward :=
      { id := "x", name := "N", description := none,
        data := .coupon "C" ⟨317289311999, 1500000000⟩, createdAt := ⟨0, 0⟩, updatedAt := ⟨0, 1⟩ }
    let condition := Json.object [("all", .array [.null, .int (-5)]), ("any", .string "\n\"")]
    let event : Event :=
      { id := "x", name := "E", description := some "", condition, startDate := ⟨-1, 0⟩,
        endDate := ⟨0, 0⟩, status := .inactive, createdAt := ⟨0, 0⟩, updatedAt := ⟨0, 0⟩ }
    let page : OffsetPage Event := .of [event, event] 2 ⟨0, .standard⟩
    let errands : Bool → Errand
      | false => .command "create_event" (.object [("name", .string "E"), ("condition", condition),
          ("startDate", .string "2024-01-01T00:00:00Z"), ("endDate", .string "2024-02-01T00:00:00Z")])
      | true => .command "update_event" (.object [("id", .string "x"), ("condition", .null)])
    let s := (runAll .ticking (.ofCapacity 1) errands
      (.replicate 12 false ++ .replicate 12 true)).state.storage
    Reward.codec.RestoresText coupon ∧ (OffsetPage.codec Event.codec).RestoresText page ∧
      ∃ e, s.events.get? "x" = some e ∧ e.condition.isSome ∧ e.Stated := by
  intro coupon condition event page errands s
  obtain ⟨hrewards, -, -, hevents, hstored⟩ := wire_forms_return
  have hzero : (⟨0, 0⟩ : Instant).Legible :=
    Instant.legible_iff.2 ⟨by decide, by decide, by decide, by decide⟩
  have hcoupon : coupon.Legible :=
    ⟨Instant.legible_iff.2 ⟨by decide, by decide, by decide, by decide⟩, hzero,
      Instant.legible_iff.2 ⟨by decide, by decide, by decide, by decide⟩⟩
  have hevent : event.Legible :=
    ⟨Instant.legible_iff.2 ⟨by decide, by decide, by decide, by decide⟩, hzero, hzero, hzero⟩
  have hstated : event.Stated := by
    rintro _ ⟨⟩
    refine ⟨nofun, ?_⟩
    simp [condition, Ordered, OrderedItems, OrderedMembers, Keyed.Ascending]
    decide
  have hplain : event.Plain := by
    rintro _ ⟨⟩
    have hword : IsWord (-5) := ⟨by decide, by decide⟩
    exact ⟨by simpa [condition, Exact, ExactItems, ExactMembers] using hword, by decide⟩
  refine ⟨hrewards.text coupon hcoupon trivial, hevents.offsetPageText page ?_, ?_⟩
  · intro e he
    obtain rfl : e = event := by simpa [page, OffsetPage.of] using he
    exact ⟨⟨hevent, hstated⟩, hplain⟩
  · have hsome : (s.events.get? "x").any (·.condition.isSome) := by decide +kernel
    obtain ⟨e, he, hcondition⟩ := (Option.any_eq_true _ _).1 hsome
    exact ⟨e, he, hcondition, hstored _ _ _ _ _ _ he⟩

end RewardDesk
