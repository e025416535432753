import RewardDesk.Json.Lexer
import RewardDesk.Json.Writer
import RewardDesk.Proofs.Text.RoundTrip

/-!
# Strings in JSON

A string that is written between quotation marks is the lexeme that is read back
(`lexemeAt_quote`). Its characters are read one after the other: one that was escaped by
`readEscape`, and any other byte by byte.
-/

namespace RewardDesk
namespace Json

/-! ## What `readString` does with a byte

There are three kinds of bytes inside a string: the quotation mark that ends it, the sign that
begins an escape, and all others. -/

/-- A byte that is read for itself inside a string. -/
def IsPlain (b : UInt8) : Prop := b ≠ 34 ∧ b ≠ 92 ∧ ¬b < 32

section
variable {start : Cursor} {seen rest : List UInt8} {p : Place} {fuel : Nat}

theorem readString_quote {s : String} (h : Text.ofBytes? seen.reverse = some s) :
    readString start (fuel + 1) seen ⟨34 :: rest, p⟩ = .ok (s, ⟨rest, p.after 34⟩) := by
  rw [readString.eq_def]
  simp only [if_true, h]
  rfl

theorem readString_escape {c : Char} {next : Cursor}
    (h : readEscape ⟨rest, p.after 92⟩ = .ok (c, next)) :
    readString start (fuel + 1) seen ⟨92 :: rest, p⟩ =
      readString start fuel ((String.utf8EncodeChar c).reverse ++ seen) next := by
  have hbehind : (⟨92 :: rest, p⟩ : Cursor).advance 1 = ⟨rest, p.after 92⟩ := rfl
  rw [readString.eq_def]
  simp only [hbehind, h]
  rfl

theorem readString_byte {b : UInt8} (h : IsPlain b) :
    readString start (fuel + 1) seen ⟨b :: rest, p⟩ =
      readString start fuel (b :: seen) ⟨rest, p.after b⟩ := by
  obtain ⟨hquote, hslash, hcontrol⟩ := h
  rw [readString.eq_def]
  simp only [if_neg hquote, if_neg hslash, if_neg hcontrol]
  rfl

end

/-! ## Characters that stand for themselves

Their bytes are plain, so that none of them is taken for the end of the string or for an escape. -/

theorem isPlain_ofNat {n : Nat} (hn : n < 256) (hcontrol : 32 ≤ n) (hquote : n ≠ 34)
    (hslash : n ≠ 92) : IsPlain (.ofNat n) := by
  have hvalue : (UInt8.ofNat n).toNat = n := UInt8.toNat_ofNat_of_lt' hn
  refine ⟨fun heq => ?_, fun heq => ?_, fun hlt => ?_⟩
  · exact hquote (by rw [← hvalue, heq]; rfl)
  · exact hslash (by rw [← hvalue, heq]; rfl)
  · have hlt : (UInt8.ofNat n).toNat < 32 := hlt
    omega

/-- A character without escape is none of those that need one. -/
theorem not_special_of_escapeChar {c : Char} (h : escapeChar c = [c]) :
    c ≠ '"' ∧ c ≠ '\\' ∧ ¬c.toNat < 32 := by
  grind [escapeChar]

/-- The bytes of a character that needs no escape stand for themselves. -/
theorem isPlain_of_mem_utf8EncodeChar {c : Char} (hquote : c ≠ '"') (hslash : c ≠ '\\')
    (hcontrol : ¬c.toNat < 32) : ∀ b ∈ String.utf8EncodeChar c, IsPlain b := by
  have hquote' : c.val.toNat ≠ 34 := fun h => hquote (Char.ext (UInt32.toNat_inj.1 h))
  have hslash' : c.val.toNat ≠ 92 := fun h => hslash (Char.ext (UInt32.toNat_inj.1 h))
  have hcontrol' : ¬c.val.toNat < 32 := hcontrol
  unfold String.utf8EncodeChar
  -- beyond ASCII every byte has its highest bit set
  grind [isPlain_ofNat]

theorem readString_plain {start : Cursor} {bs : List UInt8} (fuel : Nat) (seen tail : List UInt8)
    (p : Place) (h : ∀ b ∈ bs, IsPlain b) :
    readString start (bs.length + fuel) seen ⟨bs ++ tail, p⟩ =
      readString start fuel (bs.reverse ++ seen) ⟨tail, p.afterAll bs⟩ := by
  induction bs generalizing seen p with
  | nil =>
    rw [List.length_nil, Nat.zero_add]
    rfl
  | cons b bs ih =>
    rw [List.length_cons, Nat.add_right_comm, List.cons_append,
      readString_byte (h b List.mem_cons_self),
      ih _ _ fun b' hb' => h b' (List.mem_cons_of_mem b hb'), List.reverse_cons, List.append_assoc]
    rfl

/-! ## Characters that are escaped

Control characters, the quotation mark and the backslash are escaped, some of them by a letter and
the others by their number. -/

theorem hexDigit_spec : ∀ n < 16,
    String.utf8EncodeChar (hexDigit n) = [.ofNat (hexDigit n).toNat] ∧
      hexValue (.ofNat (hexDigit n).toNat) = some n := by
  decide

/-- An escape by number is read as its number. -/
theorem readHex_hexDigit {n : Nat} (h : n < 256) (tail : List UInt8) (p : Place) :
    ∃ p', readHex ⟨['0', '0', hexDigit (n / 16), hexDigit (n % 16)].flatMap String.utf8EncodeChar ++
      tail, p⟩ = .ok (n, ⟨tail, p'⟩) := by
  obtain ⟨hfirst, hhigh⟩ := hexDigit_spec (n / 16) (by omega)
  obtain ⟨hsecond, hlow⟩ := hexDigit_spec (n % 16) (by omega)
  have hvalue : ((0 * 16 + 0) * 16 + n / 16) * 16 + n % 16 = n := by omega
  have hzero : hexValue 48 = some 0 := rfl
  simp only [List.flatMap_cons, hfirst, hsecond]
  show ∃ p', readHex ⟨48 :: 48 :: UInt8.ofNat _ :: UInt8.ofNat _ :: tail, p⟩ = .ok (n, ⟨tail, p'⟩)
  simp only [readHex, hzero, hhigh, hlow, hvalue]
  exact ⟨_, rfl⟩

/-- How an escaped character is read. -/
theorem readEscape_escapeChar {c : Char} (h : escapeChar c ≠ [c]) :
    ∃ bs, (escapeChar c).flatMap String.utf8EncodeChar = 92 :: bs ∧
      ∀ tail p, ∃ p', readEscape ⟨bs ++ tail, p⟩ = .ok (c, ⟨tail, p'⟩) := by
  by_cases hshort : c ∈ ['"', '\\', '\x08', '\x0c', '\n', '\r', '\t']
  · simp only [List.mem_cons, List.not_mem_nil, or_false] at hshort
    rcases hshort with rfl | rfl | rfl | rfl | rfl | rfl | rfl
    all_goals exact ⟨_, rfl, fun tail p => ⟨_, rfl⟩⟩
  · simp only [List.mem_cons, List.not_mem_nil, or_false, not_or] at hshort
    simp only [escapeChar, hshort, if_false] at h ⊢
    by_cases hcontrol : c.toNat < 0x20
    · rw [if_pos hcontrol]
      refine ⟨117 :: ['0', '0', hexDigit (c.toNat / 16), hexDigit (c.toNat % 16)].flatMap
        String.utf8EncodeChar, rfl, fun tail p => ?_⟩
      obtain ⟨p', hread⟩ := readHex_hexDigit (show c.toNat < 256 by omega) tail (p.after 117)
      refine ⟨p', ?_⟩
      show readCodePoint ⟨_ ++ tail, p.after 117⟩ = _
      have hsurrogate : ¬(0xDC00 ≤ c.toNat ∧ c.toNat ≤ 0xDFFF) := by omega
      have hlead : c.toNat < 0xD800 ∨ 0xDBFF < c.toNat := by omega
      rw [readCodePoint, hread]
      simp [hsurrogate, hlead, bind, Except.bind, pure, Except.pure]
    · exact absurd (if_neg hcontrol) h

/-! ## Whole strings -/

/-- The bytes of an escaped string, up to the quotation mark behind it, are read as the string. -/
theorem readString_escaped (start : Cursor) (tail : List UInt8) (p : Place) {fuel : Nat}
    {seen : List UInt8} {s : String} (cs : List Char)
    (hfuel : ((cs.flatMap escapeChar).flatMap String.utf8EncodeChar).length < fuel)
    (hs : Text.bytes s = seen.reverse ++ cs.flatMap String.utf8EncodeChar) :
    ∃ p', readString start fuel seen
      ⟨(cs.flatMap escapeChar).flatMap String.utf8EncodeChar ++ 34 :: tail, p⟩ =
        .ok (s, ⟨tail, p'⟩) := by
  induction cs generalizing fuel seen p with
  | nil =>
    obtain ⟨fuel, rfl⟩ : ∃ n, fuel = n + 1 := ⟨fuel - 1, by simp at hfuel; omega⟩
    have hread : Text.ofBytes? seen.reverse = some s := by
      rw [← List.append_nil seen.reverse]
      exact hs ▸ Text.ofBytes?_bytes s
    exact ⟨p.after 34, readString_quote hread⟩
  | cons c cs ih =>
    rw [List.flatMap_cons, List.flatMap_append, List.length_append] at hfuel
    rw [List.flatMap_cons, List.flatMap_append, List.append_assoc]
    rw [List.flatMap_cons] at hs
    have hseen : Text.bytes s = ((String.utf8EncodeChar c).reverse ++ seen).reverse ++
        cs.flatMap String.utf8EncodeChar := by
      rw [hs, List.reverse_append, List.reverse_reverse, List.append_assoc]
    -- A plain character takes as much fuel as it has bytes, an escaped one takes one.
    by_cases hplain : escapeChar c = [c]
    · obtain ⟨hquote, hslash, hcontrol⟩ := not_special_of_escapeChar hplain
      have hbytes := isPlain_of_mem_utf8EncodeChar hquote hslash hcontrol
      rw [hplain, List.flatMap_cons, List.flatMap_nil, List.append_nil] at hfuel ⊢
      obtain ⟨more, rfl⟩ := Nat.exists_eq_add_of_le (Nat.le_of_lt hfuel)
      rw [Nat.add_assoc, readString_plain _ _ _ _ hbytes]
      exact ih _ (by omega) hseen
    · obtain ⟨bs, hbs, hread⟩ := readEscape_escapeChar hplain
      rw [hbs] at hfuel ⊢
      obtain ⟨fuel, rfl⟩ : ∃ n, fuel = n + 1 := ⟨fuel - 1, by omega⟩
      obtain ⟨p', hread⟩ := hread
        ((cs.flatMap escapeChar).flatMap String.utf8EncodeChar ++ 34 :: tail) (p.after 92)
      rw [List.cons_append, readString_escape hread]
      rw [List.length_cons] at hfuel
      exact ih _ (by omega) hseen

theorem bytes_quote (s : String) :
    Text.bytes (quote s) =
      34 :: ((s.toList.flatMap escapeChar).flatMap String.utf8EncodeChar ++ [34]) := by
  rw [quote, quoteChars, Text.bytes_ofList, List.flatMap_cons, List.flatMap_append]
  rfl

/-- The lexeme of a string that was written. -/
theorem lexemeAt_quote (s : String) (tail : List UInt8) (p : Place) :
    ∃ p', lexemeAt 34 ⟨Text.bytes (quote s) ++ tail, p⟩ =
      (.string (.ok s) none, some ⟨tail, p'⟩) := by
  have hs : Text.bytes s = [].reverse ++ s.toList.flatMap String.utf8EncodeChar := Text.bytes_eq s
  rw [bytes_quote, List.cons_append, List.append_assoc, List.singleton_append]
  generalize hbs : (s.toList.flatMap escapeChar).flatMap String.utf8EncodeChar = bs
  have hfuel : bs.length < (34 :: (bs ++ 34 :: tail)).length := by
    rw [List.length_cons, List.length_append]
    omega
  obtain ⟨p', hread⟩ := readString_escaped ⟨bs ++ 34 :: tail, p.after 34⟩ tail (p.after 34)
    s.toList (by rwa [hbs]) hs
  rw [hbs] at hread
  refine ⟨p', ?_⟩
  show joinReadings .string (readString ⟨bs ++ 34 :: tail, p.after 34⟩ _ [] _) _ = _
  have hbehind : (⟨34 :: (bs ++ 34 :: tail), p⟩ : Cursor).advance 1 =
    ⟨bs ++ 34 :: tail, p.after 34⟩ := rfl
  rw [hbehind, hread]
  rfl

end Json
end RewardDesk
