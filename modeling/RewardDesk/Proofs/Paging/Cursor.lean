import RewardDesk.Paging.Cursor
import RewardDesk.Proofs.Json.Text
import RewardDesk.Proofs.Text.Base64

/-!
# Cursors lead back

    id ──payload──▶ JSON ──UTF-8──▶ bytes ──base64──▶ cursor

A cursor names the id it was made of (`Cursor.decode_encode`), whatever characters the id has,
unless it has none, and whatever blanks stand around it. The way back is narrower than the way there
is wide: other payloads than those that are written can be read, but their bytes have to be spelled
as they would be written (`Cursor.decode_eq_some`).
-/

namespace RewardDesk
namespace Cursor

/-! ## There and back

The payload of a cursor is an object with the id for its only field. It is written without blanks
and its text is spelled in base64, and each of these steps can be taken back. -/

/-- The text of a cursor is read as its id. -/
theorem ofText_payload (id : String) :
    payload.ofText (Text.bytes (payload.encode id).compact) = .ok id := by
  have hreturns : payload.Returns id :=
    Json.Codec.returns_record ⟨rfl, List.not_mem_nil, trivial⟩ nofun
      ⟨Json.Codec.returns_string id, trivial⟩ rfl
  exact hreturns.ofText ⟨trivial, trivial⟩ (Nat.le_of_ble_eq_true rfl)

/-- A cursor names the id it was made of, also with blanks around it. -/
theorem decode_surrounded (id : String) {before after : String} (hbefore : Text.isBlank before)
    (hafter : Text.isBlank after) :
    decode (before ++ encode id ++ after) = if id.isEmpty then none else some id := by
  have htrim : Text.trim (before ++ encode id ++ after) = encode id :=
    Text.trim_surrounded hbefore hafter fun c hc =>
      Base64.not_blank_of_mem_encode c (by rwa [encode, String.toList_ofList] at hc)
  rw [decode, htrim, encode, String.toList_ofList, Base64.decode_encode]
  simp [ofText_payload]

/-- A cursor names the id it was made of. -/
@[simp] theorem decode_encode (id : String) :
    decode (encode id) = if id.isEmpty then none else some id := by
  have hblank : Text.isBlank "" := rfl
  have hdecode := decode_surrounded id hblank hblank
  rwa [String.empty_append, String.append_empty] at hdecode

theorem decode_encode_of_ne {id : String} (h : id ≠ "") : decode (encode id) = some id := by
  rw [decode_encode, if_neg]
  simpa using h

/-- Different ids have different cursors. -/
theorem encode_injective : Function.Injective encode := by
  intro id id' h
  have hdecode : (if id.isEmpty then none else some id) = if id'.isEmpty then none else some id' := by
    rw [← decode_encode id, h, decode_encode]
  grind [String.isEmpty_iff]

/-! ## What can be read

Other objects than the one that is written may be read, say with blanks or with fields that are not
known. Their bytes still have one spelling only. -/

/-- What is read of a cursor: the canonical spelling of a payload with an id that is not empty. -/
theorem decode_eq_some {cursor id : String} (h : decode cursor = some id) :
    id ≠ "" ∧ ∃ bytes, Base64.Canonical (Text.trim cursor).toList bytes ∧
      payload.ofText bytes = .ok id := by
  simp only [decode, Option.bind_eq_bind, Option.bind_eq_some_iff] at h
  obtain ⟨bytes, hbytes, text, -, hpayload⟩ := h
  split at hpayload
  · rename_i id' hid
    split at hpayload
    · exact absurd hpayload nofun
    · rename_i hne
      obtain rfl := Option.some.inj hpayload
      exact ⟨by simpa using hne, bytes, Base64.decode_eq_some_iff.1 hbytes, hid⟩
  · exact absurd hpayload nofun

/-- Cursors are a code for the ids that are not empty.

* The cursor of such an id names it, with any blanks around the cursor as well. Different ids have
  different cursors, and that of the empty id names none.
* A text that names an id names one that is not empty, and without the blanks around it it is the
  canonical spelling of some bytes, of which the id is read. No other spelling of these bytes names
  anything, be it that the filling is different or that the bits left over are. -/
theorem cursor_codec :
    (∀ id before after : String, id ≠ "" → Text.isBlank before → Text.isBlank after →
      decode (before ++ encode id ++ after) = some id) ∧
    Function.Injective encode ∧ decode (encode "") = none ∧
    ∀ cursor id, decode cursor = some id → id ≠ "" ∧ ∃ bytes,
      payload.ofText bytes = .ok id ∧ Base64.Canonical (Text.trim cursor).toList bytes ∧
      ∀ other, Base64.Spells (Text.trim other).toList bytes → Text.trim other ≠ Text.trim cursor →
        decode other = none := by
  refine ⟨fun id before after hid hbefore hafter => ?_, encode_injective, ?_, fun cursor id h => ?_⟩
  · rw [decode_surrounded id hbefore hafter, if_neg]
    simpa using hid
  · rw [decode_encode]
    rfl
  · obtain ⟨hid, bytes, hcanonical, hpayload⟩ := decode_eq_some h
    refine ⟨hid, bytes, hpayload, hcanonical, fun other hspells hother => ?_⟩
    refine Option.eq_none_iff_forall_ne_some.2 fun id' h' => hother ?_
    -- What could be read of the other text is spelled canonically, and so the other text is the same.
    obtain ⟨-, bytes', hcanonical', -⟩ := decode_eq_some h'
    obtain rfl : bytes' = bytes := hcanonical'.spells.unique hspells
    exact String.toList_inj.1 (hcanonical'.unique hcanonical)

/-- A cursor among blanks, and one that is not read without its filling and with a bit too many. -/
theorem cursor_codec_of_blanks :
    decode (" \u3000" ++ encode "\"\\\u2028\x00" ++ "\u2029") = some "\"\\\u2028\x00" ∧
      decode "eyJpZCI6ImEifQ==" = some "a" ∧ decode "eyJpZCI6ImEifR" = none := by
  obtain ⟨hsurrounded, -, -, honly⟩ := cursor_codec
  have hread : decode "eyJpZCI6ImEifQ==" = some "a" := by decide +kernel
  refine ⟨hsurrounded _ _ _ (by decide) (by decide) (by decide), hread, ?_⟩
  obtain ⟨-, bytes, -, hcanonical, hothers⟩ := honly _ _ hread
  have hbytes : Base64.decode (Text.trim "eyJpZCI6ImEifQ==").toList =
      some [123, 34, 105, 100, 34, 58, 34, 97, 34, 125] := by decide +kernel
  obtain rfl := Option.some.inj (hbytes.symm.trans (Base64.decode_eq_some_iff.2 hcanonical))
  exact hothers _ ⟨0, 1, [30, 50, 9, 41, 25, 2, 8, 58, 8, 38, 4, 34, 31, 17], 4, by decide, by decide,
    by decide, rfl, by decide, by decide⟩ (by decide)

end Cursor
end RewardDesk
