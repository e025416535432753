import Mathlib.Data.List.Infix
import RewardDesk.Text.LetterCase

/-!
# The lowercase of a part of a text

What a letter becomes in lowercase does not depend on its neighbours, but for the capital sigma: it
is a final sigma where the nearest letter before it is a cased one and the nearest letter behind it
is not. To cut a part out of a text takes letters from both ends, and so a sigma near a cut may turn
from the one small sigma into the other one (`SigmaTurns`). The lowercase of the part is what the
lowercase of the text has in its place if and only if none does (`lowerWithin_eq_iff`).
-/

namespace RewardDesk.Text

variable {before part after : List Char} {c : Char}

/-! ## Texts in a text -/

/-- To occur is to be the middle of three parts. -/
theorem occursIn_iff_infix {part whole : List Char} : occursIn part whole = true ↔ part <:+: whole := by
  induction whole with
  | nil => simp [occursIn]
  | cons c rest ih => simp [occursIn, List.infix_cons_iff, ih]

/-- What a letter becomes between two texts, of which the first is given backwards. -/
def lowerAt (before : List Char) (c : Char) (after : List Char) : List Char :=
  if c.toNat = 0x3A3 then
    [Char.ofNat (if casedAhead before && !casedAhead after then 0x3C2 else 0x3C3)]
  else lowerChar c

/-- What a part becomes between two texts, of which the first is given backwards. -/
def lowerWithin (before : List Char) : (part after : List Char) → List Char
  | [], _ => []
  | c :: part, after => lowerAt before c (part ++ after) ++ lowerWithin (c :: before) part after

theorem lowerFrom_cons (before : List Char) (c : Char) (rest : List Char) :
    lowerFrom before (c :: rest) = lowerAt before c rest ++ lowerFrom (c :: before) rest := rfl

/-- The lowercase of a text is made of what its parts become in their places. -/
theorem lowerFrom_append (before part after : List Char) :
    lowerFrom before (part ++ after) =
      lowerWithin before part after ++ lowerFrom (part.reverse ++ before) after := by
  induction part generalizing before with
  | nil => rfl
  | cons c part ih => simp [lowerFrom_cons, lowerWithin, ih]

/-! ## Where a word ends -/

/-- Letters that are ignored say nothing on what is ahead, and others hide the rest. -/
theorem casedAhead_append (l m : List Char) :
    casedAhead (l ++ m) = if l.all (inRanges caseIgnorable) then casedAhead m else casedAhead l := by
  induction l with
  | nil => simp
  | cons c l ih =>
    by_cases hc : inRanges caseIgnorable c
    · simpa [casedAhead, List.dropWhile_cons, hc] using ih
    · simp [casedAhead, hc]

theorem casedAhead_of_all {l : List Char} (h : l.all (inRanges caseIgnorable)) :
    casedAhead l = false := by
  have hnil := casedAhead_append l []
  rwa [List.append_nil, if_pos h] at hnil

/-- Does a sigma between two texts, of which the first is given backwards, end a word? -/
def EndsWord (before after : List Char) : Prop := casedAhead before = true ∧ casedAhead after = false

instance : Decidable (EndsWord before after) := inferInstanceAs (Decidable (_ ∧ _))

/-- A capital sigma becomes a final sigma at the end of a word and the other small one elsewhere. -/
theorem lowerAt_sigma (before after : List Char) :
    lowerAt before 'Σ' after = if EndsWord before after then ['ς'] else ['σ'] := by
  rw [lowerAt, if_pos (by decide)]
  by_cases hb : casedAhead before <;> by_cases ha : casedAhead after <;> simp [EndsWord, hb, ha]

/-- Other letters become the same everywhere. -/
theorem lowerAt_of_ne (hc : c ≠ 'Σ') (before after : List Char) :
    lowerAt before c after = lowerChar c :=
  if_neg fun hsigma => hc (Char.toNat_inj.1 hsigma)

/-- A letter becomes the same in two places, unless it is a capital sigma that ends a word in one of
them only. -/
theorem lowerAt_eq_lowerAt_iff {before' after' : List Char} :
    lowerAt before c after = lowerAt before' c after' ↔
      (c = 'Σ' → (EndsWord before after ↔ EndsWord before' after')) := by
  by_cases hc : c = 'Σ'
  · subst hc
    rw [lowerAt_sigma, lowerAt_sigma]
    by_cases h : EndsWord before after <;> by_cases h' : EndsWord before' after' <;> simp [h, h']
  · simp [hc, lowerAt_of_ne]

/-- A letter becomes as many letters in every place. -/
theorem length_lowerAt (before after before' after' : List Char) :
    (lowerAt before c after).length = (lowerAt before' c after').length := by
  unfold lowerAt
  split <;> rfl

/-! ## Cuts -/

/-- What a part becomes in its place and with nothing but `inner` in front of it is the same if
every capital sigma of it ends a word in both or in neither. -/
theorem lowerWithin_eq_lowerFrom_iff (inner outer part after : List Char) :
    lowerWithin (inner ++ outer) part after = lowerFrom inner part ↔
      ∀ x y, part = x ++ 'Σ' :: y →
        (EndsWord (x.reverse ++ (inner ++ outer)) (y ++ after) ↔ EndsWord (x.reverse ++ inner) y) := by
  induction part generalizing inner with
  | nil => simp [lowerWithin, lowerFrom]
  | cons c part ih =>
    -- The first letter becomes as many letters in both places, so they can be compared on their own.
    rw [lowerWithin, lowerFrom_cons, List.append_eq_append_iff_of_size_eq_left (length_lowerAt ..),
      ← List.cons_append, ih, lowerAt_eq_lowerAt_iff]
    constructor
    · rintro ⟨hfirst, hrest⟩ x y hpart
      cases x with
      | nil =>
        obtain ⟨rfl, rfl⟩ := List.cons.inj hpart
        exact hfirst rfl
      | cons _ x =>
        obtain ⟨rfl, rfl⟩ := List.cons.inj hpart
        simpa using hrest x y rfl
    · intro h
      refine ⟨fun hc => by simpa using h [] part (by rw [hc]; rfl), fun x y hpart => ?_⟩
      simpa using h (c :: x) y (by rw [hpart]; rfl)

/-- Does a capital sigma of the part become another letter in `before ++ part ++ after` than it does
in the part alone? -/
inductive SigmaTurns (before part after : List Char) : Prop where
  /-- In the text it ends a word, but the part has none of the letters of this word in front of
  it. -/
  | opening {x y : List Char} (hpart : part = x ++ 'Σ' :: y) (hx : x.all (inRanges caseIgnorable))
      (hbefore : casedAhead before.reverse) (hafter : casedAhead (y ++ after) = false)
  /-- In the part it ends a word, but in the text this word goes on behind the part. -/
  | closing {x y : List Char} (hpart : part = x ++ 'Σ' :: y) (hy : y.all (inRanges caseIgnorable))
      (hx : casedAhead x.reverse) (hafter : casedAhead after)

/-- Only a capital sigma turns, and only next to a word that is cut. -/
theorem SigmaTurns.exposed (h : SigmaTurns before part after) :
    'Σ' ∈ part ∧ (casedAhead before.reverse ∨ casedAhead after) := by
  cases h with
  | opening hpart hx hbefore hafter => exact ⟨by simp [hpart], .inl hbefore⟩
  | closing hpart hy hx hafter => exact ⟨by simp [hpart], .inr hafter⟩

/-- A cut changes what ends a word in one of two ways. -/
theorem endsWord_cut_iff (x y : List Char) :
    (EndsWord (x.reverse ++ before.reverse) (y ++ after) ↔ EndsWord x.reverse y) ↔
      ¬ (x.all (inRanges caseIgnorable) ∧ casedAhead before.reverse ∧ casedAhead (y ++ after) = false) ∧
        ¬ (y.all (inRanges caseIgnorable) ∧ casedAhead x.reverse ∧ casedAhead after) := by
  -- What the cuts take away is seen from the sigma only where the part has nothing but ignored letters.
  rw [EndsWord, EndsWord, casedAhead_append x.reverse, casedAhead_append y, List.all_reverse]
  by_cases hx : x.all (inRanges caseIgnorable)
  · have hxr : casedAhead x.reverse = false := casedAhead_of_all (by rwa [List.all_reverse])
    simp [hx, hxr]
  · by_cases hy : y.all (inRanges caseIgnorable)
    · simp [hx, hy, casedAhead_of_all hy]
    · simp [hx, hy]

/-- The lowercase of a part is what the lowercase of the text has in its place if and only if no
sigma turns. -/
theorem lowerWithin_eq_iff :
    lowerWithin before.reverse part after = lowerFrom [] part ↔ ¬ SigmaTurns before part after := by
  have hsame := lowerWithin_eq_lowerFrom_iff [] before.reverse part after
  simp only [List.nil_append, List.append_nil, endsWord_cut_iff] at hsame
  rw [hsame]
  constructor
  · rintro h (⟨hpart, hx, hbefore, hafter⟩ | ⟨hpart, hy, hx, hafter⟩)
    · exact (h _ _ hpart).1 ⟨hx, hbefore, hafter⟩
    · exact (h _ _ hpart).2 ⟨hy, hx, hafter⟩
  · intro h x y hpart
    exact ⟨fun hopening => h (.opening hpart hopening.1 hopening.2.1 hopening.2.2),
      fun hclosing => h (.closing hpart hclosing.1 hclosing.2.1 hclosing.2.2)⟩

instance : Decidable (SigmaTurns before part after) :=
  decidable_of_iff _ (not_iff_comm.1 lowerWithin_eq_iff.symm)

end RewardDesk.Text
