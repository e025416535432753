import RewardDesk.Proofs.Records.Deeds
import RewardDesk.Proofs.Time.Order

/-!
# Sound records

What is expected of every record in itself (`Event.Sound`, `Reward.Sound`, `Request.Sound`), of all
records together (`Store.WellFormed`) and of the times at which they were created and last changed
(`Store.Dated`). A deed keeps the store so if it is proper itself (`Deed.Proper.wellFormed`,
`Deed.dated`).
-/

namespace RewardDesk

/-! ## Single records

What a check lets pass is sound, and nothing else is. -/

/-- A text of one to a hundred characters. -/
def Text.IsLabel (text : String) : Prop := 1 ≤ text.length ∧ text.length ≤ 100

/-- An event has a name and does not end before it starts. -/
structure Event.Sound (e : Event) : Prop where
  name : Text.IsLabel e.name
  period : e.startDate ≤ e.endDate

/-- Amounts are positive and identifiers are not blank. -/
def RewardData.Sound : RewardData → Prop
  | .point points => 0 < points.toInt
  | .item itemId quantity => ¬ Text.isBlank itemId ∧ 0 < quantity.toInt
  | .coupon code _ => ¬ Text.isBlank code
  | .badge badgeId => ¬ Text.isBlank badgeId

/-- A reward has a name and sound data. -/
structure Reward.Sound (r : Reward) : Prop where
  name : Text.IsLabel r.name
  data : r.data.Sound

/-- A request names its user. -/
def Request.Sound (r : Request) : Prop := Text.IsLabel r.userId

theorem Events.checkPeriod_eq_ok {startDate endDate : Instant} {u : Unit}
    (h : checkPeriod startDate endDate = .ok u) : startDate ≤ endDate := by
  unfold checkPeriod at h
  split at h
  · exact absurd h nofun
  · exact Instant.not_lt.1 ‹_›

theorem fromOneToHundred_eq_nil {field message text : String} :
    fromOneToHundred field message text = [] ↔ Text.IsLabel text := by
  simp [fromOneToHundred, Text.IsLabel]

namespace RewardData

theorem checkAmount_eq_ok {field : String} {amount : Int64} {u : Unit} :
    checkAmount field amount = .ok u ↔ 0 < amount.toInt := by
  have hle : amount ≤ 0 ↔ amount.toInt ≤ 0 := Int64.le_iff_toInt_le
  unfold checkAmount
  split
  · simp_all
  · simp_all

theorem checkName_eq_ok {field value : String} {u : Unit} :
    checkName field value = .ok u ↔ ¬ Text.isBlank value := by
  unfold checkName
  split
  · simp_all
  · simp_all

/-- Sound data are those that pass the check. -/
theorem check_eq_ok {d : RewardData} {u : Unit} : d.check = .ok u ↔ d.Sound := by
  cases d with
  | point points => exact checkAmount_eq_ok
  | item itemId quantity =>
    show (checkName "itemId" itemId).bind (fun _ => checkAmount "quantity" quantity) = _ ↔ _
    have hitem := @checkName_eq_ok "itemId" itemId ()
    have hquantity := @checkAmount_eq_ok "quantity" quantity ()
    rw [Sound, ← hitem, ← hquantity]
    cases checkName "itemId" itemId with
    | error problem => simp [Except.bind]
    | ok v => simp [Except.bind]
  | coupon code expiry => exact checkName_eq_ok
  | badge badgeId => exact checkName_eq_ok

end RewardData

/-- Only sound data are admitted. -/
theorem RewardType.sound_of_parse {t : RewardType} {j : Json} {d : RewardData}
    (h : t.parse j = .ok d) : d.Sound := by
  unfold parse at h
  split at h
  · split at h
    · exact absurd h nofun
    · rename_i d' _
      cases hcheck : d'.check with
      | error problem =>
        rw [hcheck] at h
        exact absurd h nofun
      | ok u =>
        rw [hcheck] at h
        obtain rfl := Except.ok.inj h
        exact RewardData.check_eq_ok.1 hcheck
  · exact absurd h nofun

/-! ## All records

Events and rewards are found by their ids in requests and links, so these are the references that
must lead somewhere. -/

namespace Store

/-- Is there an event with the id? -/
def HasEvent (s : Store) (id : String) : Prop := ∃ e, s.events.get? id = some e ∧ e.id = id

/-- Is there a reward with the id? -/
def HasReward (s : Store) (id : String) : Prop := ∃ r, s.rewards.get? id = some r ∧ r.id = id

/-- Every record is sound in itself, and what requests and links refer to is there. -/
structure WellFormed (s : Store) : Prop where
  events : ∀ id e, s.events.get? id = some e → e.Sound
  rewards : ∀ id r, s.rewards.get? id = some r → r.Sound
  requests : ∀ id r, s.requests.requests.get? id = some r → r.Sound ∧ s.HasEvent r.eventId
  links : ∀ key l, s.links.links.get? key = some l → s.HasEvent l.eventId ∧ s.HasReward l.rewardId

/-- Are the times at which every record was created and last changed as `P` says? -/
structure Dated (P : Instant → Instant → Prop) (s : Store) : Prop where
  events : ∀ id e, s.events.get? id = some e → P e.createdAt e.updatedAt
  rewards : ∀ id r, s.rewards.get? id = some r → P r.createdAt r.updatedAt
  requests : ∀ id r, s.requests.requests.get? id = some r → P r.createdAt r.updatedAt

variable {s s' : Store} {id : String} {P Q : Instant → Instant → Prop}

theorem wellFormed_empty : empty.WellFormed := ⟨nofun, nofun, nofun, nofun⟩

theorem dated_empty : empty.Dated P := ⟨nofun, nofun, nofun⟩

theorem Dated.mono (h : s.Dated P) (hPQ : ∀ {created updated}, P created updated → Q created updated) :
    s.Dated Q :=
  ⟨fun id e he => hPQ (h.events id e he), fun id r hr => hPQ (h.rewards id r hr),
    fun id r hr => hPQ (h.requests id r hr)⟩

theorem Ages.hasEvent (h : s.Ages s') (hevent : s.HasEvent id) : s'.HasEvent id := by
  obtain ⟨e, he, hid⟩ := hevent
  obtain ⟨e', he', hid', -⟩ := h.events id e he
  exact ⟨e', he', hid'.trans hid⟩

theorem Ages.hasReward (h : s.Ages s') (hreward : s.HasReward id) : s'.HasReward id := by
  obtain ⟨r, hr, hid⟩ := hreward
  exact ⟨r, h.rewards id r hr, hid⟩

end Store

/-! ## Deeds

A deed makes one record and leaves the others, and what they refer to does not go away. -/

namespace Deed

/-- Is the record that is made sound, and is there what it refers to? -/
def Proper : Deed → Store → Prop
  | .eventCreated e, _ | .eventReplaced e, _ => e.Sound
  | .rewardCreated r, _ => r.Sound
  | .linkAdded l, s => s.HasEvent l.eventId ∧ s.HasReward l.rewardId
  | .requestCreated r, s => r.Sound ∧ s.HasEvent r.eventId
  | .linkRemoved .., _ | .requestReviewed _, _ => True

/-- When the record that is made was created and last changed. -/
def times : Deed → Option (Instant × Instant)
  | .eventCreated e | .eventReplaced e => some (e.createdAt, e.updatedAt)
  | .rewardCreated r => some (r.createdAt, r.updatedAt)
  | .requestCreated r | .requestReviewed r => some (r.createdAt, r.updatedAt)
  | .linkAdded _ | .linkRemoved .. => none

variable {d : Deed} {s : Store}

/-- A proper deed that fits leaves everything well formed. -/
theorem Proper.wellFormed (h : d.Proper s) (hfits : d.Fits s) (hs : s.WellFormed) :
    (d.apply s).WellFormed := by
  have hages := hfits.ages
  -- What is there stays there, so no reference is lost.
  have hrequests : ∀ id r, s.requests.requests.get? id = some r →
      r.Sound ∧ (d.apply s).HasEvent r.eventId := fun id r hr =>
    (hs.requests id r hr).imp_right hages.hasEvent
  have hlinks : ∀ key l, s.links.links.get? key = some l →
      (d.apply s).HasEvent l.eventId ∧ (d.apply s).HasReward l.rewardId := fun key l hl =>
    (hs.links key l hl).imp hages.hasEvent hages.hasReward
  cases d with
  | eventCreated e | eventReplaced e =>
    exact ⟨Table.forall_set hs.events h, hs.rewards, hrequests, hlinks⟩
  | rewardCreated r => exact ⟨hs.events, Table.forall_set hs.rewards h, hrequests, hlinks⟩
  | linkAdded l => exact ⟨hs.events, hs.rewards, hrequests, Table.forall_set hlinks h⟩
  | linkRemoved eventId rewardId =>
    exact ⟨hs.events, hs.rewards, hrequests, Table.forall_erase hlinks⟩
  | requestCreated r => exact ⟨hs.events, hs.rewards, Table.forall_set hrequests h, hlinks⟩
  | requestReviewed r =>
    obtain ⟨-, -, old, hold, -, heq⟩ := hfits
    have hr : r.Sound ∧ s.HasEvent r.eventId := by
      rw [heq]
      exact hs.requests r.id old hold
    exact ⟨hs.events, hs.rewards, Table.forall_set hrequests hr, hlinks⟩

/-- The times are in order if those of the new record are. -/
theorem dated {P : Instant → Instant → Prop}
    (h : ∀ created updated, d.times = some (created, updated) → P created updated)
    (hs : s.Dated P) : (d.apply s).Dated P := by
  cases d with
  | eventCreated e | eventReplaced e =>
    exact { hs with events := Table.forall_set hs.events (h _ _ rfl) }
  | rewardCreated r => exact { hs with rewards := Table.forall_set hs.rewards (h _ _ rfl) }
  | requestCreated r | requestReviewed r =>
    exact { hs with requests := Table.forall_set hs.requests (h _ _ rfl) }
  | linkAdded l => exact { hs with }
  | linkRemoved eventId rewardId => exact { hs with }

end Deed
end RewardDesk
