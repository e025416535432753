import RewardDesk.Proofs.Json.Strings
import RewardDesk.Proofs.Time.RoundTrip

/-!
# Whole numbers in JSON

A whole number of 64 bits is written in decimal, and what is written is the lexeme of that number
(`lexemeAt_int`) unless a digit, a point or an exponent follows. Behind a value there is nothing but
a comma, a closing bracket or the end of the text.
-/

namespace RewardDesk
namespace Json

/-- Can a value end where this text begins? -/
def Delimited (text : List UInt8) : Prop := ∀ b ∈ text.head?, b = 44 ∨ b = 93 ∨ b = 125

theorem delimited_nil : Delimited [] := nofun

theorem delimited_cons {b : UInt8} {text : List UInt8} (h : b = 44 ∨ b = 93 ∨ b = 125) :
    Delimited (b :: text) := fun _ hb => Option.some.inj hb ▸ h

/-! ## Digits

Digits are gathered until another byte comes, as long as their number fits the word. -/

/-- A digit is a single byte, which is read as that digit. -/
theorem utf8EncodeChar_of_isDigit {c : Char} (h : c.isDigit) :
    ∃ b, String.utf8EncodeChar c = [b] ∧ isDigitByte b ∧ b.toNat - 48 = c.toNat - 48 ∧
      (b = 48 → c = '0') := by
  have hall : ∀ k < 10, ∃ b, String.utf8EncodeChar (.ofNat (48 + k)) = [b] ∧ isDigitByte b ∧
      b.toNat - 48 = (Char.ofNat (48 + k)).toNat - 48 ∧ (b = 48 → Char.ofNat (48 + k) = '0') := by
    intro k hk
    refine ⟨.ofNat (48 + k), ?_⟩
    revert k
    decide
  obtain ⟨hlow, hhigh⟩ := Char.isDigit_iff_toNat.1 h
  have hlow : 48 ≤ c.toNat := hlow
  have hhigh : c.toNat ≤ 57 := hhigh
  have hc := hall (c.toNat - 48) (by omega)
  rwa [Nat.add_sub_cancel' hlow, Char.ofNat_toNat] at hc

/-- What stands behind a value is no digit. -/
theorem not_isDigitByte_of_delimited {tail : List UInt8} (h : Delimited tail) :
    isDigitByte (tail.headD 0) = false ∧ leadingDigits tail = [] := by
  cases tail with
  | nil => exact ⟨rfl, rfl⟩
  | cons b bs => rcases h b rfl with rfl | rfl | rfl <;> exact ⟨rfl, rfl⟩

theorem leadingDigits_append {ds : List Char} {tail : List UInt8} (hds : ∀ c ∈ ds, c.isDigit)
    (htail : Delimited tail) :
    leadingDigits (ds.flatMap String.utf8EncodeChar ++ tail) = ds.map fun c => c.toNat - 48 := by
  induction ds with
  | nil => exact (not_isDigitByte_of_delimited htail).2
  | cons c ds ih =>
    obtain ⟨hc, hds⟩ := List.forall_mem_cons.1 hds
    obtain ⟨b, hb, hdigit, hvalue, -⟩ := utf8EncodeChar_of_isDigit hc
    rw [List.flatMap_cons, hb, List.singleton_append, List.cons_append, List.map_cons, ← ih hds,
      leadingDigits, List.takeWhile_cons_of_pos hdigit, List.map_cons, hvalue]
    rfl

theorem length_flatMap_digits {ds : List Char} (hds : ∀ c ∈ ds, c.isDigit) :
    (ds.flatMap String.utf8EncodeChar).length = ds.length := by
  induction ds with
  | nil => rfl
  | cons c ds ih =>
    obtain ⟨hc, hds⟩ := List.forall_mem_cons.1 hds
    obtain ⟨b, hb, -⟩ := utf8EncodeChar_of_isDigit hc
    rw [List.flatMap_cons, hb, List.singleton_append, List.length_cons, ih hds, List.length_cons]

/-- Digits whose number fits are all gathered. -/
theorem foldl_push (ds : List Char) {v : Nat}
    (h : ds.foldl (fun n c => n * 10 + (c.toNat - 48)) v < Nat.pow 2 64) :
    (ds.map fun c => c.toNat - 48).foldl Significand.push ⟨v, 0⟩ =
      ⟨ds.foldl (fun n c => n * 10 + (c.toNat - 48)) v, 0⟩ := by
  have hgrows : ∀ (ds : List Char) v, v ≤ ds.foldl (fun n c => n * 10 + (c.toNat - 48)) v := by
    intro ds
    induction ds with
    | nil => exact Nat.le_refl
    | cons c ds ih =>
      exact fun v => Nat.le_trans (show v ≤ v * 10 + (c.toNat - 48) by omega) (ih _)
  induction ds generalizing v with
  | nil => rfl
  | cons c ds ih =>
    have hfits : v * 10 + (c.toNat - 48) < Nat.pow 2 64 := Nat.lt_of_le_of_lt (hgrows ds _) h
    have hpush : Significand.push ⟨v, 0⟩ (c.toNat - 48) = ⟨v * 10 + (c.toNat - 48), 0⟩ :=
      if_pos ⟨rfl, hfits⟩
    rw [List.map_cons, List.foldl_cons, List.foldl_cons, hpush]
    exact ih h

/-- No number but zero begins with a zero. -/
theorem head_toDigits_ne {n : Nat} (h : 0 < n) : (Nat.toDigits 10 n).head? ≠ some '0' := by
  induction n using Nat.strongRecOn with
  | ind n ih =>
    rw [Nat.toDigits_eq_if (by decide)]
    split
    · have hall : ∀ n < 10, 0 < n → [n.digitChar].head? ≠ some '0' := by decide
      exact hall n ‹_› h
    · obtain ⟨c, cs, hcons⟩ := List.exists_cons_of_ne_nil (Nat.toDigits_ne_nil (b := 10) (n := n / 10))
      have hhead := ih (n / 10) (by omega) (by omega)
      rw [hcons] at hhead ⊢
      exact hhead

/-! ## Numbers

A number that begins with a zero ends there, and a point or an exponent would make it a floating-
point number. None of this happens to a whole number that was written in decimal with the end of a
value behind it. -/

/-- Behind a value there is no point and no exponent. -/
theorem peekChar_of_delimited {tail : List UInt8} (h : Delimited tail) (p : Place) :
    (⟨tail, p⟩ : Cursor).peekChar ≠ '.' ∧
      ¬((⟨tail, p⟩ : Cursor).peekChar = 'e' ∨ (⟨tail, p⟩ : Cursor).peekChar = 'E') := by
  cases tail with
  | nil => exact ⟨nofun, nofun⟩
  | cons b bs => rcases h b rfl with rfl | rfl | rfl <;> exact ⟨nofun, nofun⟩

/-- Digits with nothing behind them are a whole number. -/
theorem readNumber_digits {b : UInt8} {bs tail : List UInt8} {ds : List Nat} {whole : Significand}
    (negative : Bool) (p : Place) (hdigit : isDigitByte b)
    (hzero : ¬(b = 48 ∧ isDigitByte ((bs ++ tail).headD 0)))
    (hds : leadingDigits (b :: bs ++ tail) = ds) (hlength : (b :: bs).length = ds.length)
    (hwhole : ds.foldl Significand.push ⟨0, 0⟩ = whole) (htail : Delimited tail) :
    ∃ p', readNumber negative ⟨b :: bs ++ tail, p⟩ = wholeNumber negative whole ⟨tail, p'⟩ := by
  have hadvance : (⟨b :: bs ++ tail, p⟩ : Cursor).advance ds.length =
      ⟨tail, p.afterAll (b :: bs)⟩ := by
    rw [Cursor.advance, ← hlength, List.drop_left, List.take_left]
  obtain ⟨hpoint, hexponent⟩ := peekChar_of_delimited htail (p.afterAll (b :: bs))
  refine ⟨p.afterAll (b :: bs), ?_⟩
  show (if !isDigitByte b then _ else if b = 48 ∧ isDigitByte ((bs ++ tail).headD 0) then _ else _) = _
  rw [hdigit, if_neg (by decide), if_neg hzero]
  simp only [hds, hwhole, hadvance, if_neg hpoint, if_neg hexponent]

section
variable {n : Nat} {tail : List UInt8}

theorem digitsValue_toDigits : Rfc3339.digitsValue (Nat.toDigits 10 n) = n := by
  have hvalue := Instant.digitsValue_padded 0 n
  rwa [Instant.padded, Nat.zero_sub] at hvalue

/-- The digits of a number are read as the number. -/
theorem readNumber_toDigits (negative : Bool) (hn : n < Nat.pow 2 64) (htail : Delimited tail)
    (p : Place) :
    ∃ p', readNumber negative ⟨(Nat.toDigits 10 n).flatMap String.utf8EncodeChar ++ tail, p⟩ =
      wholeNumber negative ⟨n, 0⟩ ⟨tail, p'⟩ := by
  have hdigits : ∀ c ∈ Nat.toDigits 10 n, c.isDigit := fun c hc =>
    Nat.isDigit_of_mem_toDigits (by decide) (by decide) hc
  have hvalue : (Nat.toDigits 10 n).foldl (fun n c => n * 10 + (c.toNat - 48)) 0 = n :=
    digitsValue_toDigits
  have hwhole := foldl_push (Nat.toDigits 10 n) (v := 0) (hvalue.symm ▸ hn)
  rw [hvalue] at hwhole
  have hds := leadingDigits_append hdigits htail
  have hlength := length_flatMap_digits hdigits
  have hhead := head_toDigits_ne (n := n)
  have hzero : n = 0 → Nat.toDigits 10 n = ['0'] := by
    rintro rfl
    rfl
  generalize Nat.toDigits 10 n = digits at *
  cases digits with
  | nil => exact absurd (hzero hvalue.symm) nofun
  | cons c cs =>
    obtain ⟨b, hb, hdigit, -, hc⟩ := utf8EncodeChar_of_isDigit (hdigits c List.mem_cons_self)
    rw [List.flatMap_cons, hb, List.singleton_append] at hds hlength ⊢
    refine readNumber_digits negative p hdigit ?_ hds (by rw [hlength, List.length_map]) hwhole htail
    rintro ⟨rfl, hnext⟩
    obtain rfl := hc rfl
    rcases Nat.eq_zero_or_pos n with hn0 | hpos
    · obtain rfl : cs = [] := (List.cons.inj (hzero hn0)).2
      rw [List.flatMap_nil, List.nil_append, (not_isDigitByte_of_delimited htail).1] at hnext
      cases hnext
    · exact hhead hpos rfl

theorem lexemeAt_digit {b : UInt8} (h : isDigitByte b) (c : Cursor) :
    lexemeAt b c = joinReadings .number (readNumber false c) (skipNumber c) := by
  have hdigit : (Char.ofUInt8 b).isDigit := by
    obtain ⟨hlow, hhigh⟩ := Bool.and_eq_true_iff.1 h
    exact Char.isDigit_iff_toNat.2 ⟨of_decide_eq_true hlow, of_decide_eq_true hhigh⟩
  unfold lexemeAt
  split
  case h_12 => exact if_pos h
  all_goals
    rename_i hchar
    rw [hchar] at hdigit
    cases hdigit

end

theorem flatMap_toDigits_eq_cons (n : Nat) :
    ∃ b bs, (Nat.toDigits 10 n).flatMap String.utf8EncodeChar = b :: bs ∧ isDigitByte b := by
  obtain ⟨c, cs, hcons⟩ := List.exists_cons_of_ne_nil (Nat.toDigits_ne_nil (b := 10) (n := n))
  have hc : c.isDigit :=
    Nat.isDigit_of_mem_toDigits (by decide) (by decide) (hcons ▸ List.mem_cons_self)
  obtain ⟨b, hb, hdigit, -⟩ := utf8EncodeChar_of_isDigit hc
  exact ⟨b, cs.flatMap String.utf8EncodeChar, by rw [hcons, List.flatMap_cons, hb]; rfl, hdigit⟩

theorem not_isBlankByte_of_isDigitByte {b : UInt8} (h : isDigitByte b) : isBlankByte b = false := by
  have hne : ∀ k : UInt8, isDigitByte k = false → b ≠ k := by
    rintro k hk rfl
    rw [h] at hk
    cases hk
  simp only [isBlankByte, hne 32 rfl, hne 10 rfl, hne 9 rfl, hne 13 rfl, decide_false, Bool.or_self]

/-- The lexeme of a whole number that was written. -/
theorem lexemeAt_int {n : Int} {tail : List UInt8} (hn : IsWord n) (htail : Delimited tail)
    (p : Place) :
    ∃ b bs next, Text.bytes (toString n) = b :: bs ∧ isBlankByte b = false ∧
      lexemeAt b ⟨b :: bs ++ tail, p⟩ = (.number (.ok (.int n)) none, some ⟨tail, next⟩) := by
  obtain ⟨hlow, hhigh⟩ := hn
  rw [Text.bytes_eq]
  cases n with
  | ofNat m =>
    have hm : m < Nat.pow 2 64 := Int.ofNat_lt.1 hhigh
    obtain ⟨b, bs, hbytes, hdigit⟩ := flatMap_toDigits_eq_cons m
    obtain ⟨p', hread⟩ := readNumber_toDigits false hm htail p
    have hchars : (toString (Int.ofNat m)).toList = Nat.toDigits 10 m := String.toList_ofList
    rw [hbytes] at hread
    refine ⟨b, bs, p', by rw [hchars, hbytes], not_isBlankByte_of_isDigitByte hdigit, ?_⟩
    rw [lexemeAt_digit hdigit, hread]
    rfl
  | negSucc m =>
    have hm : m + 1 ≤ Nat.pow 2 63 := by
      have hle : -((Nat.pow 2 63 : Nat) : Int) ≤ Int.negSucc m := hlow
      omega
    have hlt : m + 1 < Nat.pow 2 64 := Nat.lt_of_le_of_lt hm (by decide)
    obtain ⟨p', hread⟩ := readNumber_toDigits true hlt htail (p.after 45)
    have hchars : (toString (Int.negSucc m)).toList = '-' :: Nat.toDigits 10 (m + 1) := by
      have hdigits : (Nat.repr (m + 1)).toList = Nat.toDigits 10 (m + 1) := String.toList_ofList
      show ("-" ++ Nat.repr (m + 1)).toList = _
      rw [String.toList_append, hdigits]
      rfl
    have hwhole : wholeNumber true ⟨m + 1, 0⟩ ⟨tail, p'⟩ = .ok (.int (.negSucc m), ⟨tail, p'⟩) := by
      have hfits : ¬(m + 1 = 0 ∨ Nat.pow 2 63 < m + 1) := by omega
      simp only [wholeNumber, hfits]
      rfl
    refine ⟨45, (Nat.toDigits 10 (m + 1)).flatMap String.utf8EncodeChar, p', by rw [hchars]; rfl,
      rfl, ?_⟩
    show joinReadings .number (readNumber true ⟨_ ++ tail, p.after 45⟩) _ = _
    rw [hread, hwhole]
    rfl

end Json
end RewardDesk
