import Mathlib.Data.List.Basic
import Mathlib.Data.Nat.Digits.Defs
import RewardDesk.Proofs.Text.RoundTrip

/-!
# The spellings of bytes in base64

Characters spell bytes when the digits among them, read as one number to base 64, are the number
that the bytes make to base 256, with a few bits more behind it. There is more than one spelling:
the sign `=` can stand behind the digits any number of times, and the bits that are left over can be
anything. In the canonical one these bits are zero and the signs fill up the last group of four.

Characters spell no other bytes (`Base64.Spells.unique`), bytes have one canonical spelling
(`Base64.Canonical.unique`), and it is the only one that is decoded (`Base64.decode_eq_some_iff`).
-/

namespace RewardDesk.Base64

/-- The number with these digits to a base, the highest digit first. -/
def number (base : Nat) (digits : List Nat) : Nat := digits.foldl (fun n d => base * n + d) 0

/-- The characters are the digits of some values and then so many signs `=`. The number that the
values make is that of the bytes with less than six bits behind it, and these make the number
`rest`. -/
def SpelledWith (fill rest : Nat) (cs : List Char) (bs : List UInt8) : Prop :=
  ∃ values extra, (∀ v ∈ values, v < 64) ∧ cs = values.map digit ++ List.replicate fill '=' ∧
    extra < 6 ∧ 6 * values.length = 8 * bs.length + extra ∧ rest < 2 ^ extra ∧
    number 64 values = number 256 (bs.map UInt8.toNat) * 2 ^ extra + rest

/-- The characters spell the bytes, whatever the filling and the bits that are left over. -/
def Spells (cs : List Char) (bs : List UInt8) : Prop := ∃ fill rest, SpelledWith fill rest cs bs

/-- The characters spell the bytes in full groups of four, and no bit is left over that is not
zero. -/
def Canonical (cs : List Char) (bs : List UInt8) : Prop :=
  4 ∣ cs.length ∧ ∃ fill < 4, SpelledWith fill 0 cs bs

theorem Canonical.spells {cs : List Char} {bs : List UInt8} (h : Canonical cs bs) : Spells cs bs := by
  obtain ⟨-, fill, -, h⟩ := h
  exact ⟨fill, 0, h⟩

/-! ## Numbers and their digits

A numeral is determined by its number and its length, whatever the base is. This is all that is used
of numbers. -/

theorem number_eq (base : Nat) (ds : List Nat) : number base ds = Nat.ofDigits base ds.reverse := by
  rw [Nat.ofDigits_eq_foldr, List.foldr_reverse, number]
  congr
  funext n d
  exact Nat.add_comm _ _

theorem number_append (base : Nat) (ds es : List Nat) :
    number base (ds ++ es) = number base ds * base ^ es.length + number base es := by
  rw [number_eq, List.reverse_append, Nat.ofDigits_append, List.length_reverse, number_eq, number_eq]
  ring

/-- Numerals of one length are equal if their numbers are. -/
theorem number_inj {base : Nat} (hbase : 1 < base) {ds es : List Nat}
    (hds : ∀ d ∈ ds, d < base) (hes : ∀ e ∈ es, e < base) (hlength : ds.length = es.length)
    (h : number base ds = number base es) : ds = es := by
  rw [number_eq, number_eq] at h
  refine List.reverse_injective (Nat.ofDigits_inj_of_len_eq hbase ?_ ?_ ?_ h)
  · rw [List.length_reverse, List.length_reverse, hlength]
  · exact fun d hd => hds d (List.mem_reverse.1 hd)
  · exact fun e he => hes e (List.mem_reverse.1 he)

theorem bytes_inj {bs bs' : List UInt8} (hlength : bs.length = bs'.length)
    (h : number 256 (bs.map UInt8.toNat) = number 256 (bs'.map UInt8.toNat)) : bs = bs' := by
  have hbyte : ∀ (bs : List UInt8), ∀ d ∈ bs.map UInt8.toNat, d < 256 := by
    intro bs d hd
    obtain ⟨b, -, rfl⟩ := List.mem_map.1 hd
    exact b.toNat_lt
  refine List.map_injective_iff.2 (fun _ _ => UInt8.toNat_inj.1) ?_
  exact number_inj (by decide) (hbyte bs) (hbyte bs') (by simpa using hlength) h

/-- The digits of some values, all below 64, tell these values. -/
theorem map_digit_inj {vs ws : List Nat} (hvs : ∀ v ∈ vs, v < 64) (hws : ∀ w ∈ ws, w < 64)
    (h : vs.map digit = ws.map digit) : vs = ws := by
  have hvalues : ∀ {vs : List Nat}, (∀ v ∈ vs, v < 64) → (vs.map digit).map value? = vs.map some := by
    intro vs hvs
    rw [List.map_map]
    exact List.map_congr_left fun v hv => value?_digit (hvs v hv)
  have hsome : vs.map some = ws.map some := by rw [← hvalues hvs, h, hvalues hws]
  exact List.map_injective_iff.2 (Option.some_injective Nat) hsome

/-- Digits and filling are told apart. -/
theorem digits_fill_inj {vs ws : List Nat} {m n : Nat} (hvs : ∀ v ∈ vs, v < 64)
    (hws : ∀ w ∈ ws, w < 64)
    (h : vs.map digit ++ List.replicate m '=' = ws.map digit ++ List.replicate n '=') :
    vs = ws ∧ m = n := by
  have htake : ∀ {vs : List Nat} {m : Nat}, (∀ v ∈ vs, v < 64) →
      (vs.map digit ++ List.replicate m '=').takeWhile (· ≠ '=') = vs.map digit := by
    intro vs m hvs
    rw [List.takeWhile_append_of_pos]
    · cases m with
      | zero => simp
      | succ m => simp [List.replicate_succ]
    · intro c hc
      obtain ⟨v, hv, rfl⟩ := List.mem_map.1 hc
      simpa using digit_ne (hvs v hv)
  have hdigits : vs.map digit = ws.map digit := by rw [← htake hvs, h, htake hws]
  refine ⟨map_digit_inj hvs hws hdigits, ?_⟩
  rw [hdigits] at h
  simpa using congrArg List.length (List.append_cancel_left h)

/-! ## One text, one list of bytes; one list of bytes, one canonical text -/

/-- Characters spell no other bytes. -/
theorem Spells.unique {cs : List Char} {bs bs' : List UInt8} (h : Spells cs bs)
    (h' : Spells cs bs') : bs = bs' := by
  obtain ⟨fill, rest, values, extra, hvalues, rfl, hextra, hlength, hrest, hnumber⟩ := h
  obtain ⟨fill', rest', values', extra', hvalues', heq, hextra', hlength', hrest', hnumber'⟩ := h'
  obtain ⟨rfl, -⟩ := digits_fill_inj hvalues hvalues' heq
  obtain ⟨hbytes, rfl⟩ : bs.length = bs'.length ∧ extra = extra' := by omega
  refine bytes_inj hbytes ?_
  -- Without the bits that are left over both numbers are the same.
  have hquotient : ∀ {m n r : Nat}, r < 2 ^ extra → n = m * 2 ^ extra + r → n / 2 ^ extra = m := by
    rintro m n r hr rfl
    rw [Nat.mul_comm, Nat.mul_add_div (Nat.two_pow_pos extra), Nat.div_eq_of_lt hr, Nat.add_zero]
  rw [← hquotient hrest hnumber, hquotient hrest' hnumber']

/-- Bytes have no other canonical spelling. -/
theorem Canonical.unique {cs cs' : List Char} {bs : List UInt8} (h : Canonical cs bs)
    (h' : Canonical cs' bs) : cs = cs' := by
  obtain ⟨hfour, fill, hfill, values, extra, hvalues, rfl, hextra, hlength, -, hnumber⟩ := h
  obtain ⟨hfour', fill', hfill', values', extra', hvalues', rfl, hextra', hlength', -, hnumber'⟩ := h'
  obtain ⟨hcount, rfl⟩ : values.length = values'.length ∧ extra = extra' := by omega
  obtain rfl : values = values' :=
    number_inj (by decide) hvalues hvalues' hcount (hnumber.trans hnumber'.symm)
  simp only [List.length_append, List.length_map, List.length_replicate] at hfour hfour'
  obtain rfl : fill = fill' := by omega
  rfl

/-! ## Encoding

Encoding goes from group to group, and so does the proof: three bytes more in front are four digits
more in front, and the filling and the bits that are left over stay those of the last group. -/

/-- A full group of four digits in front makes three bytes more in front. -/
theorem SpelledWith.group {fill rest : Nat} {cs : List Char} {bs : List UInt8} {a b c : UInt8}
    {w x y z : Nat} (h : SpelledWith fill rest cs bs) (hdigits : ∀ v ∈ [w, x, y, z], v < 64)
    (hnumber : number 64 [w, x, y, z] = number 256 ([a, b, c].map UInt8.toNat)) :
    SpelledWith fill rest ([w, x, y, z].map digit ++ cs) ([a, b, c] ++ bs) := by
  obtain ⟨values, extra, hvalues, rfl, hextra, hlength, hrest, hvalue⟩ := h
  refine ⟨[w, x, y, z] ++ values, extra, ?_, by simp, hextra, ?_, hrest, ?_⟩
  · intro v hv
    exact (List.mem_append.1 hv).elim (hdigits v) (hvalues v)
  · simp only [List.length_append, List.length_cons, List.length_nil]
    omega
  · have hpower : (64 : Nat) ^ values.length = 256 ^ bs.length * 2 ^ extra := by
      rw [show (64 : Nat) = 2 ^ 6 from rfl, show (256 : Nat) = 2 ^ 8 from rfl, ← Nat.pow_mul,
        ← Nat.pow_mul, ← Nat.pow_add, hlength]
    rw [number_append, List.map_append, number_append, List.length_map, hnumber, hvalue, hpower]
    ring

/-- What is encoded is spelled canonically. -/
theorem canonical_encode (bs : List UInt8) : Canonical (encode bs) bs := by
  induction bs using encode.induct with
  | case1 => exact ⟨⟨0, rfl⟩, 0, by decide, [], 0, by simp, rfl, by decide, rfl, by decide, rfl⟩
  | case2 a =>
    have ha := a.toNat_lt
    refine ⟨⟨1, rfl⟩, 2, by decide, [a.toNat * 16 / 64, a.toNat * 16 % 64], 4, ?_, rfl, by decide, rfl,
      by decide, ?_⟩
    · simp only [List.mem_cons, List.not_mem_nil, or_false]
      omega
    · simp only [number, List.map, List.foldl]
      omega
  | case3 a b =>
    have ha := a.toNat_lt
    have hb := b.toNat_lt
    rw [encode]
    generalize hn : (a.toNat * 256 + b.toNat) * 4 = n
    refine ⟨⟨1, rfl⟩, 1, by decide, [n / 4096, n / 64 % 64, n % 64], 2, ?_, rfl, by decide, rfl,
      by decide, ?_⟩
    · simp only [List.mem_cons, List.not_mem_nil, or_false]
      omega
    · simp only [number, List.map, List.foldl]
      omega
  | case4 a b c bs ih =>
    have ha := a.toNat_lt
    have hb := b.toNat_lt
    have hc := c.toNat_lt
    obtain ⟨hfour, fill, hfill, hspelled⟩ := ih
    rw [encode]
    generalize hn : (a.toNat * 256 + b.toNat) * 256 + c.toNat = n
    refine ⟨?_, fill, hfill, hspelled.group (w := n / 262144) (x := n / 4096 % 64) (y := n / 64 % 64)
      (z := n % 64) ?_ ?_⟩
    · simp only [List.length_cons]
      omega
    · simp only [List.mem_cons, List.not_mem_nil, or_false]
      omega
    · simp only [number, List.map, List.foldl]
      omega

/-! ## Decoding

What is decoded is spelled by the text, canonically. As bytes have one canonical spelling, no other
text is decoded to them. -/

/-- A character with a value is the digit of that value. -/
theorem value?_eq_some {c : Char} {n : Nat} (h : value? c = some n) : n < 64 ∧ c = digit n := by
  have hchar : ∀ {m : Nat}, m = c.toNat → c = Char.ofNat m := by
    rintro m rfl
    exact (Char.ofNat_toNat c).symm
  unfold value? at h
  simp only at h
  split at h
  · obtain rfl := Option.some.inj h
    refine ⟨by omega, ?_⟩
    rw [digit, if_pos (by omega)]
    exact hchar (by omega)
  split at h
  · obtain rfl := Option.some.inj h
    refine ⟨by omega, ?_⟩
    rw [digit, if_neg (by omega), if_pos (by omega)]
    exact hchar (by omega)
  split at h
  · obtain rfl := Option.some.inj h
    refine ⟨by omega, ?_⟩
    rw [digit, if_neg (by omega), if_neg (by omega), if_pos (by omega)]
    exact hchar (by omega)
  split at h
  · obtain rfl := Option.some.inj h
    exact ⟨by decide, ‹c = '+'›⟩
  split at h
  · obtain rfl := Option.some.inj h
    exact ⟨by decide, ‹c = '/'›⟩
  · exact absurd h nofun

theorem toNat_byte {n : Nat} (h : n < 256) : (UInt8.ofNat n).toNat = n := UInt8.toNat_ofNat_of_lt' h

/-- What is decoded was spelled canonically. -/
theorem canonical_of_decode {cs : List Char} {bs : List UInt8} (h : decode cs = some bs) :
    Canonical cs bs := by
  fun_induction decode cs generalizing bs with
  | case1 =>
    obtain rfl := Option.some.inj h
    exact canonical_encode []
  | case2 a b =>
    simp only [Option.bind_eq_bind, Option.bind_eq_some_iff, decodeOne,
      Option.ite_none_right_eq_some, Option.some.injEq] at h
    obtain ⟨x, ha, y, hb, hrest, rfl⟩ := h
    obtain ⟨hx, rfl⟩ := value?_eq_some ha
    obtain ⟨hy, rfl⟩ := value?_eq_some hb
    refine ⟨⟨1, rfl⟩, 2, by decide, [x, y], 4, ?_, rfl, by decide, rfl, by decide, ?_⟩
    · simp only [List.mem_cons, List.not_mem_nil, or_false]
      omega
    · simp only [number, List.map, List.foldl]
      rw [toNat_byte (by omega)]
      omega
  | case3 a b c hc =>
    simp only [Option.bind_eq_bind, Option.bind_eq_some_iff, decodeTwo,
      Option.ite_none_right_eq_some, Option.some.injEq] at h
    obtain ⟨x, ha, y, hb, z, hc, hrest, rfl⟩ := h
    obtain ⟨hx, rfl⟩ := value?_eq_some ha
    obtain ⟨hy, rfl⟩ := value?_eq_some hb
    obtain ⟨hz, rfl⟩ := value?_eq_some hc
    refine ⟨⟨1, rfl⟩, 1, by decide, [x, y, z], 2, ?_, rfl, by decide, rfl, by decide, ?_⟩
    · simp only [List.mem_cons, List.not_mem_nil, or_false]
      omega
    · simp only [number, List.map, List.foldl]
      rw [toNat_byte (by omega), toNat_byte (by omega)]
      omega
  | case4 a b c d cs hc hd ih =>
    simp only [Option.bind_eq_bind, Option.bind_eq_some_iff] at h
    obtain ⟨w, ha, x, hb, y, hc, z, hd, bytes, hbytes, hgroup⟩ := h
    obtain rfl := Option.some.inj hgroup
    obtain ⟨hw, rfl⟩ := value?_eq_some ha
    obtain ⟨hx, rfl⟩ := value?_eq_some hb
    obtain ⟨hy, rfl⟩ := value?_eq_some hc
    obtain ⟨hz, rfl⟩ := value?_eq_some hd
    obtain ⟨hfour, fill, hfill, hspelled⟩ := ih hbytes
    refine ⟨?_, fill, hfill, hspelled.group ?_ ?_⟩
    · simp only [List.length_cons]
      omega
    · simp only [List.mem_cons, List.not_mem_nil, or_false]
      omega
    · simp only [number, List.map, List.foldl]
      rw [toNat_byte (by omega), toNat_byte (by omega), toNat_byte (by omega)]
      omega
  | case5 => simp at h

/-- The canonical spelling is decoded, and no other text. -/
theorem decode_eq_some_iff {cs : List Char} {bs : List UInt8} :
    decode cs = some bs ↔ Canonical cs bs := by
  refine ⟨canonical_of_decode, fun h => ?_⟩
  rw [h.unique (canonical_encode bs), decode_encode]

end RewardDesk.Base64
