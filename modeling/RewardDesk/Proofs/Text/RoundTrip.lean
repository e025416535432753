import RewardDesk.Text.Base64
import RewardDesk.Text.Blank
import RewardDesk.Text.Bytes

/-!
# Texts, bytes and back

What is written can be read: a text from its bytes (`Text.ofBytes?_bytes`), bytes from their base64
characters (`Base64.decode_encode`). There are no blanks among these characters, so nothing but the
blanks around them is trimmed off (`Text.trim_surrounded`).
-/

namespace RewardDesk

/-! ## UTF-8

A text is written character by character, and its bytes are valid UTF-8 by themselves. -/

namespace Text

theorem bytes_ofList (cs : List Char) :
    bytes (String.ofList cs) = cs.flatMap String.utf8EncodeChar := by
  rw [bytes, String.toByteArray_ofList, List.utf8Encode]
  simp

theorem bytes_eq (s : String) : bytes s = s.toList.flatMap String.utf8EncodeChar := by
  rw [← bytes_ofList, String.ofList_toList]

@[simp] theorem ofBytes?_bytes (s : String) : ofBytes? (bytes s) = some s := by
  have hbytes : (⟨(bytes s).toArray⟩ : ByteArray) = s.toByteArray := by simp [bytes]
  rw [ofBytes?, hbytes, String.fromUTF8?, dif_pos s.isValidUTF8]
  rfl

theorem dropWhile_of_forall {cs : List Char} (h : ∀ c ∈ cs, isBlankChar c = false) :
    cs.dropWhile isBlankChar = cs := by
  cases cs with
  | nil => rfl
  | cons c cs => rw [List.dropWhile_cons, h c List.mem_cons_self]; rfl

/-- Of a text that has no blanks only the blanks around it are trimmed off. -/
theorem trim_surrounded {before text after : String} (hbefore : isBlank before)
    (hafter : isBlank after) (h : ∀ c ∈ text.toList, isBlankChar c = false) :
    trim (before ++ text ++ after) = text := by
  have hstart : trimStart (before ++ text ++ after).toList = trimStart (text ++ after).toList := by
    rw [String.append_assoc, String.toList_append, trimStart,
      List.dropWhile_append_of_pos (List.all_eq_true.1 hbefore)]
    rfl
  have hend : trimEnd (text ++ after).toList = text.toList := by
    rw [String.toList_append, trimEnd, List.reverse_append, List.dropWhile_append_of_pos,
      dropWhile_of_forall, List.reverse_reverse]
    · exact fun c hc => h c (List.mem_reverse.1 hc)
    · exact fun c hc => List.all_eq_true.1 hafter c (List.mem_reverse.1 hc)
  rw [trim, hstart]
  cases htext : text.toList with
  | nil =>
    -- Where there is no text both rows of blanks are one.
    have hblank : trimStart (text ++ after).toList = [] := by
      rw [String.toList_append, htext, List.nil_append, ← List.append_nil after.toList, trimStart,
        List.dropWhile_append_of_pos (List.all_eq_true.1 hafter)]
      rfl
    rw [hblank, ← String.toList_inj, String.toList_ofList, htext]
    rfl
  | cons c cs =>
    have hkept : trimStart (text ++ after).toList = (text ++ after).toList := by
      have hc : isBlankChar c = false := h c (by rw [htext]; exact List.mem_cons_self)
      rw [String.toList_append, htext, trimStart, List.cons_append, List.dropWhile_cons, hc]
      rfl
    rw [hkept, hend, String.ofList_toList]

end Text

/-! ## Base64

The digits have values below 64, and the sign that fills up a group is none of them. -/

namespace Base64

theorem digit_spec : ∀ n < 64,
    value? (digit n) = some n ∧ digit n ≠ '=' ∧ Text.isBlankChar (digit n) = false := by
  decide

theorem value?_digit {n : Nat} (h : n < 64) : value? (digit n) = some n := (digit_spec n h).1

theorem digit_ne {n : Nat} (h : n < 64) : digit n ≠ '=' := (digit_spec n h).2.1

/-- A group of three characters is not taken for one of two. -/
theorem decode_three {a b c : Char} (hc : c ≠ '=') :
    decode [a, b, c, '='] = (do decodeTwo (← value? a) (← value? b) (← value? c)) := by
  rw [decode]
  exact hc

/-- A full group is read for itself. -/
theorem decode_group {a b c d : Char} {rest : List Char} (hd : d ≠ '=') :
    decode (a :: b :: c :: d :: rest) = (do
      let n := (((← value? a) * 64 + (← value? b)) * 64 + (← value? c)) * 64 + (← value? d)
      let bytes ← decode rest
      return .ofNat (n / 65536) :: .ofNat (n / 256 % 256) :: .ofNat (n % 256) :: bytes) := by
  rw [decode]
  · intro _ _ hd'
    simp_all
  · simp_all

/-- What is encoded can be decoded. -/
@[simp] theorem decode_encode (bs : List UInt8) : decode (encode bs) = some bs := by
  induction bs using encode.induct with
  | case1 => rfl
  | case2 a =>
    have ha := a.toNat_lt
    have hjoin : a.toNat * 16 / 64 * 64 + a.toNat * 16 % 64 = a.toNat * 16 := by omega
    show (do decodeOne (← value? (digit _)) (← value? (digit _))) = some [a]
    rw [value?_digit (by omega), value?_digit (by omega)]
    show decodeOne _ _ = some [a]
    rw [decodeOne, hjoin, if_pos (by omega), Nat.mul_div_cancel _ (by decide), UInt8.ofNat_toNat]
  | case3 a b =>
    have ha := a.toNat_lt
    have hb := b.toNat_lt
    generalize hn : (a.toNat * 256 + b.toNat) * 4 = n
    have hjoin : (n / 4096 * 64 + n / 64 % 64) * 64 + n % 64 = n := by omega
    have hfirst : n / 1024 = a.toNat := by omega
    have hsecond : n / 4 % 256 = b.toNat := by omega
    rw [encode, hn, decode_three (digit_ne (by omega)), value?_digit (by omega),
      value?_digit (by omega), value?_digit (by omega)]
    show decodeTwo _ _ _ = some [a, b]
    rw [decodeTwo, hjoin, if_pos (by omega), hfirst, hsecond, UInt8.ofNat_toNat, UInt8.ofNat_toNat]
  | case4 a b c rest ih =>
    have ha := a.toNat_lt
    have hb := b.toNat_lt
    have hc := c.toNat_lt
    rw [encode]
    -- Three bytes are one number of 24 bits, and the four digits are its digits to base 64.
    generalize hn : (a.toNat * 256 + b.toNat) * 256 + c.toNat = n
    have hjoin : ((n / 262144 * 64 + n / 4096 % 64) * 64 + n / 64 % 64) * 64 + n % 64 = n := by
      omega
    have hfirst : n / 65536 = a.toNat := by omega
    have hsecond : n / 256 % 256 = b.toNat := by omega
    have hthird : n % 256 = c.toNat := by omega
    rw [decode_group (digit_ne (by omega)), value?_digit (by omega), value?_digit (by omega),
      value?_digit (by omega), value?_digit (by omega), ih]
    show some (_ :: _ :: _ :: rest) = _
    rw [hjoin, hfirst, hsecond, hthird, UInt8.ofNat_toNat, UInt8.ofNat_toNat, UInt8.ofNat_toNat]

/-- What is encoded has no blanks. -/
theorem not_blank_of_mem_encode {bs : List UInt8} :
    ∀ c ∈ encode bs, Text.isBlankChar c = false := by
  have hdigit : ∀ {n}, n < 64 → Text.isBlankChar (digit n) = false := fun h => (digit_spec _ h).2.2
  have hfill : Text.isBlankChar '=' = false := by decide
  induction bs using encode.induct with
  | case1 => simp [encode]
  | case2 a =>
    have ha := a.toNat_lt
    simp [encode, hfill, hdigit (show a.toNat * 16 / 64 < 64 by omega),
      hdigit (show a.toNat * 16 % 64 < 64 by omega)]
  | case3 a b =>
    have ha := a.toNat_lt
    have hb := b.toNat_lt
    rw [encode]
    generalize hn : (a.toNat * 256 + b.toNat) * 4 = n
    simp [hfill, hdigit (show n / 4096 < 64 by omega), hdigit (show n / 64 % 64 < 64 by omega),
      hdigit (show n % 64 < 64 by omega)]
  | case4 a b c rest ih =>
    have ha := a.toNat_lt
    have hb := b.toNat_lt
    have hc := c.toNat_lt
    rw [encode]
    generalize hn : (a.toNat * 256 + b.toNat) * 256 + c.toNat = n
    simpa [hdigit (show n / 262144 < 64 by omega), hdigit (show n / 4096 % 64 < 64 by omega),
      hdigit (show n / 64 % 64 < 64 by omega), hdigit (show n % 64 < 64 by omega)] using ih

end Base64
end RewardDesk
