import Mathlib.Tactic.SplitIfs
import RewardDesk.Proofs.Outcome
import RewardDesk.Proofs.Time.Calendar
import RewardDesk.Time.Rfc3339

/-!
# Instants that can be written and read

    text ──read──▶ instant ──iso8601──▶ text

Whatever is read lies between the first and the last year, and only the last second of a minute can
be a leap second (`Rfc3339.fair_of_read`). Every such instant is written in a form that is read as
the same instant (`Rfc3339.read_iso8601`).
-/

namespace RewardDesk

/-- Can the instant be read from some text? -/
def Instant.Legible (t : Instant) : Prop := ∃ s, Rfc3339.read s = .ok t

/-- The year is one that instants reach, and a leap second follows the second 59. -/
structure Instant.Fair (t : Instant) : Prop where
  first : firstYear ≤ t.date.year
  last : t.date.year ≤ lastYear
  nano : t.nano < 2000000000
  leap : 1000000000 ≤ t.nano → t.second % 60 = 59

/-! ## Digits

A number ends where its digits end, so what is read back depends on the character behind it:
everything here asks for a rest that does not begin with a digit (`NoDigit`). -/

/-- Nothing that begins with a digit. -/
def NoDigit (cs : List Char) : Prop := ∀ c ∈ cs.head?, c.isDigit = false

theorem noDigit_cons {c : Char} {cs : List Char} (h : c.isDigit = false) : NoDigit (c :: cs) := by
  intro d hd
  exact Option.some.inj hd ▸ h

theorem takeWhile_isDigit {ds cs : List Char} (hds : ∀ c ∈ ds, c.isDigit) (hcs : NoDigit cs) :
    (ds ++ cs).takeWhile Char.isDigit = ds := by
  rw [List.takeWhile_append_of_pos hds]
  cases cs with
  | nil => simp
  | cons c cs => simp [hcs c rfl]

theorem dropWhile_isDigit {cs : List Char} (hcs : NoDigit cs) : cs.dropWhile Char.isDigit = cs := by
  cases cs with
  | nil => rfl
  | cons c cs => simp [hcs c rfl]

/-- A digit is no blank. -/
theorem not_blank_of_isDigit {c : Char} (h : c.isDigit) : Text.isBlankChar c = false := by
  obtain ⟨hlow, hhigh⟩ := Char.isDigit_iff_toNat.1 h
  have hlow : 48 ≤ c.toNat := hlow
  have hhigh : c.toNat ≤ 57 := hhigh
  simp only [Text.isBlankChar, Text.inRanges, Text.blankRanges, List.any_cons, List.any_nil,
    Bool.or_false, Bool.or_eq_false_iff, Bool.and_eq_false_iff, decide_eq_false_iff_not]
  omega

namespace Instant

variable (width n : Nat)

theorem isDigit_of_mem_padded : ∀ c ∈ padded width n, c.isDigit := by
  intro c hc
  rcases List.mem_append.1 hc with hzero | hdigit
  · rw [List.eq_of_mem_replicate hzero]
    decide
  · exact Nat.isDigit_of_mem_toDigits (by decide) (by decide) hdigit

theorem exists_padded_eq_cons : ∃ c cs, padded width n = c :: cs :=
  List.exists_cons_of_ne_nil fun h => Nat.toDigits_ne_nil (List.append_eq_nil_iff.1 h).2

theorem digitsValue_padded : Rfc3339.digitsValue (padded width n) = n := by
  have hfold : ∀ cs, Rfc3339.digitsValue cs = Nat.ofDigitChars 10 cs 0 := by
    intro cs
    rw [Nat.ofDigitChars_eq_foldl, Rfc3339.digitsValue]
    simp only [Nat.mul_comm 10]
    rfl
  rw [hfold, padded, Nat.ofDigitChars_append, Nat.ofDigitChars_replicate_zero, Nat.mul_zero,
    Nat.ofDigitChars_ten_toDigits]

variable {width n} in
theorem length_padded (hwidth : 0 < width) (h : n < Nat.pow 10 width) :
    (padded width n).length = width := by
  have hdigits := (Nat.length_toDigits_le_iff (by decide) hwidth).2 h
  rw [padded, List.length_append, List.length_replicate]
  omega

end Instant

namespace Rfc3339

open Instant (padded)

/-! ## What is written is read

The parts of a date and of a time of day, each in front of whatever follows. Years beyond four
digits have a sign, and fractions of a second are written in three, six or nine digits. -/

section
variable {cs : List Char} {c : Char}

theorem trimStart_cons (h : Text.isBlankChar c = false) : Text.trimStart (c :: cs) = c :: cs := by
  rw [Text.trimStart, List.dropWhile_cons, h]
  rfl

theorem trimStart_padded {width n : Nat} :
    Text.trimStart (padded width n ++ cs) = padded width n ++ cs := by
  obtain ⟨c, rest, heq⟩ := Instant.exists_padded_eq_cons width n
  have hdigit : c.isDigit := Instant.isDigit_of_mem_padded _ _ c (heq ▸ List.mem_cons_self)
  rw [heq]
  exact trimStart_cons (not_blank_of_isDigit hdigit)

/-- A number that is written with no more digits than may be read. -/
theorem number_padded {most : Option Nat} {width n : Nat} (hcs : NoDigit cs)
    (hmost : ∀ m ∈ most, (padded width n).length ≤ m) (hn : n < Nat.pow 2 63) :
    number most (padded width n ++ cs) = .ok (n, cs) := by
  have hrun := takeWhile_isDigit (Instant.isDigit_of_mem_padded width n) hcs
  have hvalue := Instant.digitsValue_padded width n
  obtain ⟨c, rest, heq⟩ := Instant.exists_padded_eq_cons width n
  rw [heq] at hrun hvalue hmost ⊢
  rw [List.cons_append] at hrun ⊢
  cases most with
  | none => simp [number, hrun, hvalue, hn]
  | some m =>
    have htake : (c :: rest).take m = c :: rest := List.take_of_length_le (hmost m rfl)
    simp [number, hrun, htake, hvalue, hn]

theorem field_padded {low high n : Nat} (hcs : NoDigit cs) (hlow : low ≤ n) (hhigh : n ≤ high)
    (hn : n < 100) : field low high (padded 2 n ++ cs) = .ok (n, cs) := by
  have hlength : (padded 2 n).length = 2 := Instant.length_padded (by decide) hn
  have hmost : ∀ m ∈ some 2, (padded 2 n).length ≤ m := by
    intro m hm
    exact Option.some.inj hm ▸ Nat.le_of_eq hlength
  have hsmall : n < Nat.pow 2 63 := Nat.lt_of_lt_of_le hn (by decide)
  rw [field, trimStart_padded, number_padded hcs hmost hsmall]
  exact if_pos ⟨hlow, hhigh⟩

theorem mark_self (h : Text.isBlankChar c = false) : mark c (c :: cs) = .ok ((), cs) := by
  rw [mark, trimStart_cons h]
  exact if_pos rfl

end

theorem year_yearText {y : Int} {cs : List Char} (hcs : NoDigit cs) (hfirst : Instant.firstYear ≤ y)
    (hlast : y ≤ Instant.lastYear) : year (Instant.yearText y ++ cs) = .ok (y, cs) := by
  have hfirst : -262143 ≤ y := hfirst
  have hlast : y ≤ 262142 := hlast
  have hrange : -Int.pow 2 31 ≤ y ∧ y < Int.pow 2 31 := by
    have hpow : Int.pow 2 31 = 2147483648 := rfl
    omega
  have hnumber : number none (padded 4 y.natAbs ++ cs) = .ok (y.natAbs, cs) :=
    number_padded hcs nofun (Nat.lt_of_lt_of_le (show y.natAbs < 300000 by omega) (by decide))
  by_cases hplain : 0 ≤ y ∧ y ≤ 9999
  · have hfour : y.toNat < Nat.pow 10 4 := show y.toNat < 10000 by omega
    have hlength : (padded 4 y.toNat).length = 4 := Instant.length_padded (by decide) hfour
    have hread : number (some 4) (padded 4 y.toNat ++ cs) = .ok (y.toNat, cs) := by
      refine number_padded hcs ?_ (Nat.lt_of_lt_of_le (show y.toNat < 10000 by omega) (by decide))
      intro m hm
      exact Option.some.inj hm ▸ Nat.le_of_eq hlength
    obtain ⟨c, rest, heq⟩ := Instant.exists_padded_eq_cons 4 y.toNat
    have hdigit : c.isDigit := Instant.isDigit_of_mem_padded _ _ c (heq ▸ List.mem_cons_self)
    have hminus : c ≠ '-' := by rintro rfl; revert hdigit; decide
    have hplus : c ≠ '+' := by rintro rfl; revert hdigit; decide
    have hcast : (y.toNat : Int) = y := Int.toNat_of_nonneg hplain.1
    rw [Instant.yearText, if_pos hplain, year, trimStart_padded]
    rw [heq, List.cons_append] at hread ⊢
    split
    · exact absurd (List.cons.inj ‹_›).1 hminus
    · exact absurd (List.cons.inj ‹_›).1 hplus
    · simp only [hread, Except.map, ok_bind, hcast]
      exact if_pos hrange
  · rw [Instant.yearText, if_neg hplain, List.cons_append, year]
    by_cases hneg : y < 0
    · rw [if_pos hneg, trimStart_cons (by decide)]
      have hcast : -(y.natAbs : Int) = y := by omega
      simp only [hnumber, Except.map, ok_bind, hcast]
      exact if_pos hrange
    · rw [if_neg hneg, trimStart_cons (by decide)]
      have hcast : (y.natAbs : Int) = y := by omega
      simp only [hnumber, Except.map, ok_bind, hcast]
      exact if_pos hrange

theorem fraction_fractionText {nano : Nat} (h : nano < 1000000000) :
    fraction (Instant.fractionText nano ++ ['Z']) = .ok (nano, ['Z']) := by
  have hstop : NoDigit ['Z'] := noDigit_cons rfl
  have hpoint : ∀ width n, 0 < width → width ≤ 9 → n < 10 ^ width →
      fraction ('.' :: padded width n ++ ['Z']) = .ok (n * Nat.pow 10 (9 - width), ['Z']) := by
    intro width n hwidth hnine hn
    have hlength := Instant.length_padded hwidth hn
    have hmost : ∀ m ∈ some 9, (padded width n).length ≤ m := by
      intro m hm
      exact Option.some.inj hm ▸ hlength.symm ▸ hnine
    have hsmall : n < Nat.pow 2 63 := by
      have hpow : 10 ^ width ≤ 10 ^ 9 := Nat.pow_le_pow_right (by decide) hnine
      exact Nat.lt_of_lt_of_le hn (Nat.le_trans hpow (by decide))
    rw [List.cons_append, fraction, number_padded hstop hmost hsmall]
    simp only [ok_bind, dropWhile_isDigit hstop, List.length_append, Nat.add_sub_cancel, hlength,
      pure_eq_ok]
  rw [Instant.fractionText]
  split
  · subst nano
    rfl
  · split
    · rw [hpoint 3 _ (by decide) (by decide) (by omega)]
      have hvalue : nano / 1000000 * Nat.pow 10 6 = nano :=
        Nat.div_mul_cancel (Nat.dvd_of_mod_eq_zero ‹_›)
      rw [hvalue]
    · split
      · rw [hpoint 6 _ (by decide) (by decide) (by omega)]
        have hvalue : nano / 1000 * Nat.pow 10 3 = nano :=
          Nat.div_mul_cancel (Nat.dvd_of_mod_eq_zero ‹_›)
        rw [hvalue]
      · rw [hpoint 9 _ (by decide) (by decide) h]
        have hvalue : nano * Nat.pow 10 0 = nano := Nat.mul_one nano
        rw [hvalue]

/-! ## Dates, times and instants

An instant is written with the offset zero, so nothing is shifted when it is read again. Its leap
second, which is kept as a second with more than a thousand million nanoseconds, is written as the
second 60. -/

theorem date_dateText {t : Instant} {cs : List Char} (h : t.Fair) (hcs : NoDigit cs) :
    date (t.dateText ++ cs) = .ok (t.date, cs) := by
  obtain ⟨hmonth, htwelve, hday, hlength⟩ := Date.isValid_ofDayNumber (t.second / 86400)
  have hmonthLength : ∀ year month, Date.monthLength year month ≤ 31 := by
    intro year month
    unfold Date.monthLength
    split_ifs
    all_goals decide
  have hlast := Nat.le_trans hlength (hmonthLength _ _)
  change 1 ≤ t.date.month at hmonth
  change t.date.month ≤ 12 at htwelve
  change 1 ≤ t.date.day at hday
  change t.date.day ≤ 31 at hlast
  have hdash : ∀ {cs}, NoDigit ('-' :: cs) := noDigit_cons rfl
  have htext : t.dateText ++ cs = Instant.yearText t.date.year ++
      '-' :: (padded 2 t.date.month ++ '-' :: (padded 2 t.date.day ++ cs)) := by
    simp [Instant.dateText]
  rw [htext, date, year_yearText hdash h.first h.last]
  simp only [ok_bind, mark_self (show Text.isBlankChar '-' = false by decide)]
  rw [field_padded hdash hmonth htwelve (by omega)]
  simp only [ok_bind, mark_self (show Text.isBlankChar '-' = false by decide)]
  rw [field_padded hcs hday hlast (by omega)]
  rfl

/-- The time of day as it is written: the leap second is the second 60. -/
def clockOf (t : Instant) : Clock :=
  let s := (t.second % 86400).toNat
  let leap := 1000000000 ≤ t.nano
  { hour := s / 3600, minute := s / 60 % 60, second := if leap then s % 60 + 1 else s % 60,
    nano := if leap then t.nano - 1000000000 else t.nano }

theorem clock_clockText {t : Instant} (h : t.Fair) :
    clock (t.clockText ++ ['Z']) = .ok (clockOf t, ['Z']) := by
  have hnano := h.nano
  have hcolon : ∀ {cs}, NoDigit (':' :: cs) := noDigit_cons rfl
  have hblank : Text.isBlankChar ':' = false := by decide
  have hfraction : ∀ nano, NoDigit (Instant.fractionText nano ++ ['Z']) := by
    intro nano
    unfold Instant.fractionText
    split_ifs
    all_goals exact noDigit_cons rfl
  generalize hclock : clockOf t = c
  obtain ⟨hour, minute, second, nano⟩ := c
  obtain ⟨hhour, hminute, hsecond, hrest⟩ := Clock.mk.inj hclock
  have htext : t.clockText ++ ['Z'] = padded 2 hour ++ ':' :: (padded 2 minute ++
      ':' :: (padded 2 second ++ (Instant.fractionText nano ++ ['Z']))) := by
    simp [Instant.clockText, hhour, hminute, hsecond, hrest]
  have hbounds : hour ≤ 23 ∧ minute ≤ 59 ∧ second ≤ 60 ∧ nano < 1000000000 := by
    split_ifs at hsecond hrest
    all_goals omega
  obtain ⟨hhour, hminute, hsecond, hnano⟩ := hbounds
  rw [htext, clock, field_padded hcolon (Nat.zero_le _) hhour (by omega)]
  simp only [ok_bind, mark_self hblank]
  rw [field_padded hcolon (Nat.zero_le _) hminute (by omega)]
  simp only [ok_bind, mark_self hblank]
  rw [field_padded (hfraction nano) (Nat.zero_le _) hsecond (by omega)]
  simp only [ok_bind, fraction_fractionText hnano]
  rfl

/-- Date and time of day make up the instant. -/
theorem resolve_clockOf {t : Instant} (h : t.Fair) : resolve t.date (clockOf t) 0 = .ok t := by
  have hdate : t.date.IsValid ∧ Instant.firstYear ≤ t.date.year ∧ t.date.year ≤ Instant.lastYear :=
    ⟨Date.isValid_ofDayNumber _, h.first, h.last⟩
  have hday : t.date.dayNumber = t.second / 86400 := Date.dayNumber_ofDayNumber _
  have hsixty : (clockOf t).second = 60 ↔ 1000000000 ≤ t.nano := by
    have hleap := h.leap
    simp only [clockOf]
    split_ifs
    all_goals omega
  have hthere : Instant.ofDate t.date (clockOf t).hour (clockOf t).minute
      (if (clockOf t).second = 60 then 59 else (clockOf t).second)
      (if (clockOf t).second = 60 then (clockOf t).nano + 1000000000 else (clockOf t).nano) = t := by
    obtain ⟨second, nano⟩ := t
    have hleap : 1000000000 ≤ nano → second % 60 = 59 := h.leap
    simp only [hsixty]
    simp only [Instant.ofDate, hday, clockOf, Instant.mk.injEq]
    split_ifs
    all_goals constructor
    all_goals omega
  simp [resolve, hdate, hthere]

/-- What is written is read as the same instant. -/
theorem read_iso8601 {t : Instant} (h : t.Fair) : read t.iso8601 = .ok t := by
  have hdivider : NoDigit ('T' :: (t.clockText ++ ['Z'])) := noDigit_cons rfl
  rw [read, Instant.iso8601, String.toList_ofList, date_dateText h hdivider]
  simp only [ok_bind, divider]
  simp only [if_true, or_true, true_or, ok_bind, clock_clockText h]
  show (if _ then _ else _) = _
  exact resolve_clockOf h

/-! ## What can be read

The other direction: whatever was read is fair, and so can be written. The bounds come from the
number of digits that each part may have, and from offsets being whole minutes, which is why no
offset moves a leap second to another second of its minute. -/

theorem digitsValue_lt {ds : List Char} (h : ∀ c ∈ ds, c.isDigit) :
    digitsValue ds < Nat.pow 10 ds.length := by
  suffices hfold : ∀ n, ds.foldl (fun n c => n * 10 + (c.toNat - 48)) n < (n + 1) * 10 ^ ds.length by
    have hzero := hfold 0
    rwa [Nat.zero_add, Nat.one_mul] at hzero
  induction ds with
  | nil => exact fun n => Nat.lt_of_lt_of_eq (Nat.lt_succ_self n) (Nat.mul_one _).symm
  | cons c ds ih =>
    intro n
    have hdigit : c.toNat ≤ 57 := (Char.isDigit_iff_toNat.1 (h c List.mem_cons_self)).2
    have hnext : n * 10 + (c.toNat - 48) + 1 ≤ (n + 1) * 10 := by omega
    calc (c :: ds).foldl (fun n c => n * 10 + (c.toNat - 48)) n
      _ < (n * 10 + (c.toNat - 48) + 1) * 10 ^ ds.length :=
          ih (fun d hd => h d (List.mem_cons_of_mem c hd)) _
      _ ≤ (n + 1) * 10 * 10 ^ ds.length := Nat.mul_le_mul_right _ hnext
      _ = (n + 1) * 10 ^ (c :: ds).length := by rw [List.length_cons, Nat.pow_succ', Nat.mul_assoc]

/-- A number has no more digits than may be read. -/
theorem number_lt {m n : Nat} {cs rest : List Char} (h : number (some m) cs = .ok (n, rest)) :
    cs.length - rest.length ≤ m ∧ n < Nat.pow 10 (cs.length - rest.length) := by
  generalize hds : (cs.takeWhile Char.isDigit).take m = ds
  have hdigits : ∀ c ∈ ds, c.isDigit := fun c hc =>
    List.all_eq_true.1 List.all_takeWhile c (List.mem_of_mem_take (hds ▸ hc))
  have hlength : ds.length ≤ m ∧ ds.length ≤ cs.length := by
    have htake := (List.takeWhile_prefix Char.isDigit (l := cs)).length_le
    rw [← hds, List.length_take]
    omega
  simp only [number, hds] at h
  split at h
  · cases h
  · cases h
  · split at h
    · obtain ⟨rfl, rfl⟩ := Prod.mk.inj (Except.ok.inj h)
      rw [List.length_drop, Nat.sub_sub_self hlength.2]
      exact ⟨hlength.1, digitsValue_lt hdigits⟩
    · cases h

theorem fraction_lt {n : Nat} {cs rest : List Char} (h : fraction cs = .ok (n, rest)) :
    n < 1000000000 := by
  unfold fraction at h
  split at h
  · rename_i cs
    obtain ⟨⟨m, left⟩, hnumber, heq⟩ := bind_eq_ok.1 h
    obtain ⟨rfl, -⟩ := Prod.mk.inj (Except.ok.inj heq)
    obtain ⟨hnine, hm⟩ := number_lt hnumber
    generalize cs.length - left.length = count at hnine hm
    calc m * 10 ^ (9 - count)
      _ < 10 ^ count * 10 ^ (9 - count) := Nat.mul_lt_mul_of_pos_right hm (Nat.pow_pos (by decide))
      _ = 10 ^ 9 := by rw [← Nat.pow_add, Nat.add_sub_cancel' hnine]
  · obtain ⟨rfl, -⟩ := Prod.mk.inj (Except.ok.inj h)
    decide

theorem clock_nano_lt {c : Clock} {cs rest : List Char} (h : clock cs = .ok (c, rest)) :
    c.nano < 1000000000 := by
  simp only [clock, bind_eq_ok, Prod.exists] at h
  obtain ⟨_, _, -, _, _, -, _, _, -, _, _, -, _, _, -, nano, _, hfraction, heq⟩ := h
  obtain ⟨rfl, -⟩ := Prod.mk.inj (Except.ok.inj heq)
  exact fraction_lt hfraction

/-- Offsets are whole minutes. -/
theorem offsetDigits_mod {n : Nat} {cs rest : List Char} (h : offsetDigits cs = .ok (n, rest)) :
    n % 60 = 0 := by
  unfold offsetDigits at h
  split at h
  · split at h
    · cases h
    · simp only at h
      split at h
      · split at h
        · cases h
        · split at h
          · cases h
          · obtain ⟨rfl, -⟩ := Prod.mk.inj (Except.ok.inj h)
            omega
      · cases h
  · cases h

theorem offset_mod {o : Int} {cs rest : List Char} (h : offset cs = .ok (o, rest)) :
    o % 60 = 0 := by
  unfold offset at h
  split at h
  · cases h
  · obtain ⟨rfl, -⟩ := Prod.mk.inj (Except.ok.inj h)
    rfl
  · obtain ⟨rfl, -⟩ := Prod.mk.inj (Except.ok.inj h)
    rfl
  · obtain ⟨⟨n, _⟩, hdigits, heq⟩ := map_eq_ok.1 h
    obtain ⟨rfl, -⟩ := Prod.mk.inj heq
    have hmod := offsetDigits_mod hdigits
    omega
  · obtain ⟨⟨n, _⟩, hdigits, heq⟩ := map_eq_ok.1 h
    obtain ⟨rfl, -⟩ := Prod.mk.inj heq
    have hmod := offsetDigits_mod hdigits
    omega
  · obtain ⟨⟨n, _⟩, hdigits, heq⟩ := map_eq_ok.1 h
    obtain ⟨rfl, -⟩ := Prod.mk.inj heq
    have hmod := offsetDigits_mod hdigits
    omega
  · split at h
    · obtain ⟨rfl, -⟩ := Prod.mk.inj (Except.ok.inj h)
      rfl
    · cases h
  · cases h

theorem fair_of_resolve {d : Date} {c : Clock} {o : Int} {t : Instant}
    (h : resolve d c o = .ok t) (hnano : c.nano < 1000000000) (ho : o % 60 = 0) : t.Fair := by
  simp only [resolve] at h
  generalize hthere : Instant.ofDate d c.hour c.minute _ _ = there at h
  have hbounds : there.nano < 2000000000 ∧ (1000000000 ≤ there.nano → there.second % 60 = 59) := by
    rw [← hthere]
    simp only [Instant.ofDate]
    split
    · omega
    · omega
  obtain ⟨htwice, hleap⟩ := hbounds
  split at h
  · cases h
  · split at h
    · cases h
    · split at h
      · rename_i hyear
        obtain rfl := Except.ok.inj h
        refine ⟨hyear.1, hyear.2, htwice, fun hnano => ?_⟩
        have hsecond := hleap hnano
        show (there.second - o) % 60 = 59
        omega
      · cases h

/-- Whatever is read lies between the first and the last year, and only the last second of a minute
can be a leap second. -/
theorem fair_of_read {s : String} {t : Instant} (h : read s = .ok t) : t.Fair := by
  simp only [read, bind_eq_ok, Prod.exists] at h
  obtain ⟨d, _, -, _, _, -, c, _, hclock, o, _, hoffset, hend⟩ := h
  split at hend
  · cases hend
  · exact fair_of_resolve hend (clock_nano_lt hclock) (offset_mod hoffset)

end Rfc3339

/-- The instants that can be read are those of the calendar's years. -/
theorem Instant.legible_iff {t : Instant} : t.Legible ↔ t.Fair := by
  constructor
  · rintro ⟨s, hs⟩
    exact Rfc3339.fair_of_read hs
  · intro h
    exact ⟨t.iso8601, Rfc3339.read_iso8601 h⟩

theorem Instant.Legible.read_iso8601 {t : Instant} (h : t.Legible) :
    Rfc3339.read t.iso8601 = .ok t :=
  Rfc3339.read_iso8601 (legible_iff.1 h)

end RewardDesk
