import RewardDesk.Json.Document
import RewardDesk.Proofs.Json.Numbers

/-!
# The tokens of what was written

    value ──chars──▶ text ──tokens──▶ tokens that spell the value

A value that was written is spelled by the tokens of its text, whatever stands behind it
(`spelledBy_of_tokensOf`). That holds of exact values: a floating-point number need not be written
so that it is read back, and a whole number beyond 64 bits is read as a floating-point number.

How documents are made of tokens that spell a value is the subject of `Proofs.Json.Text`.
-/

namespace RewardDesk
namespace Json

mutual

/-- All numbers inside are whole numbers of 64 bits. -/
def Exact : Json → Prop
  | .int n => IsWord n
  | .float _ => False
  | .array items => ExactItems items
  | .object members => ExactMembers members
  | _ => True

def ExactItems : List Json → Prop
  | [] => True
  | item :: rest => Exact item ∧ ExactItems rest

def ExactMembers : List (String × Json) → Prop
  | [] => True
  | (_, value) :: rest => Exact value ∧ ExactMembers rest

end

/-! ## Spelling

Tokens carry the places at which they stand, and values have none. So that tokens spell a value is
said by their lexemes alone. -/

/-- Items and members have commas between them, and the first of them has none in front. -/
def Separated (first : Bool) (ts us : List Token) : Prop :=
  if first then us = ts else ∃ t, ts = t :: us ∧ t.lexeme = .comma

/-- The lexeme of a value that is one token long. -/
def leafLexeme : Json → Lexeme
  | .bool b => .bool b
  | .string s => .string (.ok s) none
  | .int n => .number (.ok (.int n)) none
  | .float x => .number (.ok (.float x)) none
  | _ => .null

mutual

/-- Do the tokens of this list that are in front of the other one spell the value? -/
def SpelledBy : Json → List Token → List Token → Prop
  | .array items, ts, rest =>
    ∃ t us, ts = t :: us ∧ t.lexeme = .openArray ∧ ItemsSpelledBy items true us rest
  | .object members, ts, rest =>
    ∃ t us, ts = t :: us ∧ t.lexeme = .openObject ∧ MembersSpelledBy members true us rest
  | j, ts, rest => ∃ t, ts = t :: rest ∧ t.lexeme = leafLexeme j

/-- Do they spell the items and the end of the array? -/
def ItemsSpelledBy : List Json → (first : Bool) → List Token → List Token → Prop
  | [], _, ts, rest => ∃ t, ts = t :: rest ∧ t.lexeme = .closeArray
  | item :: items, first, ts, rest => ∃ us vs, Separated first ts us ∧ SpelledBy item us vs ∧
      ItemsSpelledBy items false vs rest

/-- Do they spell the members and the end of the object? -/
def MembersSpelledBy : List (String × Json) → (first : Bool) → List Token → List Token → Prop
  | [], _, ts, rest => ∃ t, ts = t :: rest ∧ t.lexeme = .closeObject
  | (name, value) :: members, first, ts, rest => ∃ k c us vs, Separated first ts (k :: c :: us) ∧
      (k.lexeme = .string (.ok name) none ∧ c.lexeme = .colon) ∧ SpelledBy value us vs ∧
      MembersSpelledBy members false vs rest

end

/-! ## Single tokens

The lexer goes from token to token, and where one of them ends depends on what follows. So these
lemmas speak of a text with anything behind it, and the list of its tokens. -/

/-- Are these the tokens of the text, wherever it stands? -/
def TokensOf (text : List UInt8) (ts : List Token) : Prop :=
  ∃ fuel place, text.length < fuel ∧ (tokensFrom fuel ⟨text, place⟩).1 = ts

theorem tokensOf_tokens (text : List UInt8) : TokensOf text (tokens text).1 :=
  ⟨text.length + 1, .origin, Nat.lt_succ_self _, rfl⟩

theorem TokensOf.eq_nil {ts : List Token} (h : TokensOf [] ts) : ts = [] := by
  obtain ⟨fuel, place, -, rfl⟩ := h
  cases fuel <;> rfl

/-- The token in front, and the tokens behind it. -/
theorem TokensOf.exists_cons {b : UInt8} {bs tail : List UInt8} {ts : List Token} {lexeme : Lexeme}
    (h : TokensOf (b :: bs ++ tail) ts) (hblank : isBlankByte b = false)
    (hlexeme : ∀ p, ∃ p', lexemeAt b ⟨b :: bs ++ tail, p⟩ = (lexeme, some ⟨tail, p'⟩)) :
    ∃ t us, ts = t :: us ∧ t.lexeme = lexeme ∧ TokensOf tail us := by
  obtain ⟨fuel, p, hfuel, rfl⟩ := h
  obtain ⟨p', hat⟩ := hlexeme p
  obtain ⟨fuel, rfl⟩ : ∃ n, fuel = n + 1 := ⟨fuel - 1, by omega⟩
  have hskip : (⟨b :: bs ++ tail, p⟩ : Cursor).skipBlanks = ⟨b :: bs ++ tail, p⟩ := by
    rw [Cursor.skipBlanks]
    simp only [List.cons_append, List.takeWhile_cons, hblank]
    rfl
  have hshorter : tail.length < fuel := by
    rw [List.length_append, List.length_cons] at hfuel
    omega
  refine ⟨⟨lexeme, p, p.after b, p'⟩, _, ?_, rfl, fuel, p', hshorter, rfl⟩
  rw [List.cons_append] at hat hskip ⊢
  rw [tokensFrom]
  simp only [hskip, hat]
  rfl

/-- A byte that is a token of its own. -/
theorem TokensOf.sign (b : UInt8) (lexeme : Lexeme) {tail : List UInt8} {ts : List Token}
    (h : TokensOf (b :: tail) ts) (hblank : isBlankByte b = false)
    (hlexeme : ∀ c, lexemeAt b c = (lexeme, some (c.advance 1))) :
    ∃ t us, ts = t :: us ∧ t.lexeme = lexeme ∧ TokensOf tail us := by
  have h : TokensOf (b :: [] ++ tail) ts := h
  exact h.exists_cons hblank fun p => ⟨p.after b, hlexeme ⟨b :: tail, p⟩⟩

/-- A literal is one token. -/
theorem TokensOf.literal (b : UInt8) (rest : String) (lexeme : Lexeme) {tail : List UInt8}
    {ts : List Token} (h : TokensOf (b :: Text.bytes rest ++ tail) ts)
    (hblank : isBlankByte b = false) (hlexeme : ∀ c, lexemeAt b c = literalLexeme rest lexeme c) :
    ∃ t us, ts = t :: us ∧ t.lexeme = lexeme ∧ TokensOf tail us := by
  refine h.exists_cons hblank fun p => ?_
  have hread : ∀ (bs : List UInt8) p, readLiteral bs ⟨bs ++ tail, p⟩ = .ok ⟨tail, p.afterAll bs⟩ := by
    intro bs
    induction bs with
    | nil => exact fun p => rfl
    | cons b bs ih =>
      intro p
      exact (if_pos rfl).trans (ih (p.after b))
  have hstep : (⟨b :: Text.bytes rest ++ tail, p⟩ : Cursor).advance 1 =
      ⟨Text.bytes rest ++ tail, p.after b⟩ := rfl
  refine ⟨(p.after b).afterAll (Text.bytes rest), ?_⟩
  simp only [hlexeme, literalLexeme, hstep, hread]

/-- A written string is one token. -/
theorem TokensOf.quote {s : String} {tail : List UInt8} {ts : List Token}
    (h : TokensOf ((quoteChars s.toList).flatMap String.utf8EncodeChar ++ tail) ts) :
    ∃ t us, ts = t :: us ∧ t.lexeme = .string (.ok s) none ∧ TokensOf tail us := by
  have hbytes : (quoteChars s.toList).flatMap String.utf8EncodeChar = Text.bytes (Json.quote s) := by
    rw [Json.quote, Text.bytes_ofList]
  have hat := lexemeAt_quote s tail
  rw [hbytes] at h
  rw [bytes_quote] at h hat
  exact h.exists_cons rfl hat

/-- A written whole number is one token. -/
theorem TokensOf.int {n : Int} {tail : List UInt8} {ts : List Token}
    (h : TokensOf ((toString n).toList.flatMap String.utf8EncodeChar ++ tail) ts) (hn : IsWord n)
    (htail : Delimited tail) :
    ∃ t us, ts = t :: us ∧ t.lexeme = .number (.ok (.int n)) none ∧ TokensOf tail us := by
  rw [← Text.bytes_eq] at h
  obtain ⟨b, bs, -, hbytes, hblank, -⟩ := lexemeAt_int hn htail .nowhere
  rw [hbytes] at h
  refine h.exists_cons hblank fun p => ?_
  obtain ⟨b', bs', p', hbytes', -, hat⟩ := lexemeAt_int hn htail p
  obtain ⟨rfl, rfl⟩ := List.cons.inj (hbytes.symm.trans hbytes')
  exact ⟨p', hat⟩

/-! ## Values

The proof follows the value: leaves are single tokens, and arrays and objects put brackets and
commas around those of their parts. -/

/-- The bytes of characters. -/
abbrev utf8 (cs : List Char) : List UInt8 := cs.flatMap String.utf8EncodeChar

theorem utf8_append (cs ds : List Char) (tail : List UInt8) :
    utf8 (cs ++ ds) ++ tail = utf8 cs ++ (utf8 ds ++ tail) := by
  rw [utf8, List.flatMap_append, List.append_assoc]

mutual

/-- A value that was written is spelled by its tokens. -/
theorem spelledBy_of_tokensOf {tail : List UInt8} {ts : List Token} : (j : Json) → j.Exact →
    Delimited tail → TokensOf (utf8 j.chars ++ tail) ts →
      ∃ rest, SpelledBy j ts rest ∧ TokensOf tail rest
  | .null, _, _, h => by
    obtain ⟨t, us, rfl, ht, hus⟩ := TokensOf.literal 110 "ull" .null h rfl fun _ => rfl
    exact ⟨us, ⟨t, rfl, ht⟩, hus⟩
  | .bool true, _, _, h => by
    obtain ⟨t, us, rfl, ht, hus⟩ := TokensOf.literal 116 "rue" (.bool true) h rfl fun _ => rfl
    exact ⟨us, ⟨t, rfl, ht⟩, hus⟩
  | .bool false, _, _, h => by
    obtain ⟨t, us, rfl, ht, hus⟩ := TokensOf.literal 102 "alse" (.bool false) h rfl fun _ => rfl
    exact ⟨us, ⟨t, rfl, ht⟩, hus⟩
  | .int n, hn, htail, h => by
    obtain ⟨t, us, rfl, ht, hus⟩ := TokensOf.int h hn htail
    exact ⟨us, ⟨t, rfl, ht⟩, hus⟩
  | .string s, _, _, h => by
    obtain ⟨t, us, rfl, ht, hus⟩ := TokensOf.quote h
    exact ⟨us, ⟨t, rfl, ht⟩, hus⟩
  | .array items, hexact, _, h => by
    have h : TokensOf (91 :: (utf8 (itemChars items ++ [']']) ++ tail)) ts := h
    obtain ⟨t, us, rfl, ht, hus⟩ := TokensOf.sign 91 .openArray h rfl fun _ => rfl
    rw [utf8_append] at hus
    obtain ⟨rest, hitems, hrest⟩ := itemsSpelledBy_of_tokensOf items hexact hus
    exact ⟨rest, ⟨t, us, rfl, ht, hitems⟩, hrest⟩
  | .object members, hexact, _, h => by
    have h : TokensOf (123 :: (utf8 (memberChars members ++ ['\x7d']) ++ tail)) ts := h
    obtain ⟨t, us, rfl, ht, hus⟩ := TokensOf.sign 123 .openObject h rfl fun _ => rfl
    rw [utf8_append] at hus
    obtain ⟨rest, hmembers, hrest⟩ := membersSpelledBy_of_tokensOf members hexact hus
    exact ⟨rest, ⟨t, us, rfl, ht, hmembers⟩, hrest⟩

theorem itemsSpelledBy_of_tokensOf {tail : List UInt8} {ts : List Token} : (items : List Json) →
    ExactItems items → TokensOf (utf8 (itemChars items) ++ 93 :: tail) ts →
      ∃ rest, ItemsSpelledBy items true ts rest ∧ TokensOf tail rest
  | [], _, h => by
    obtain ⟨t, us, rfl, ht, hus⟩ := TokensOf.sign 93 .closeArray h rfl fun _ => rfl
    exact ⟨us, ⟨t, rfl, ht⟩, hus⟩
  | [item], ⟨hitem, _⟩, h => by
    obtain ⟨vs, hfirst, hvs⟩ :=
      spelledBy_of_tokensOf item hitem (delimited_cons (.inr (.inl rfl))) h
    obtain ⟨t, us, rfl, ht, hus⟩ := TokensOf.sign 93 .closeArray hvs rfl fun _ => rfl
    exact ⟨us, ⟨ts, t :: us, rfl, hfirst, t, rfl, ht⟩, hus⟩
  | item :: next :: items, ⟨hitem, hmore⟩, h => by
    have h : TokensOf (utf8 (item.chars ++ ',' :: itemChars (next :: items)) ++ 93 :: tail) ts := h
    rw [utf8_append] at h
    obtain ⟨vs, hfirst, hvs⟩ := spelledBy_of_tokensOf item hitem (delimited_cons (.inl rfl)) h
    obtain ⟨t, us, rfl, ht, hus⟩ := TokensOf.sign 44 .comma hvs rfl fun _ => rfl
    obtain ⟨rest, ⟨us, ws, rfl, hnext, hitems⟩, hrest⟩ :=
      itemsSpelledBy_of_tokensOf (next :: items) hmore hus
    exact ⟨rest, ⟨ts, t :: us, rfl, hfirst, us, ws, ⟨t, rfl, ht⟩, hnext, hitems⟩, hrest⟩

theorem membersSpelledBy_of_tokensOf {tail : List UInt8} {ts : List Token} :
    (members : List (String × Json)) → ExactMembers members →
      TokensOf (utf8 (memberChars members) ++ 125 :: tail) ts →
        ∃ rest, MembersSpelledBy members true ts rest ∧ TokensOf tail rest
  | [], _, h => by
    obtain ⟨t, us, rfl, ht, hus⟩ := TokensOf.sign 125 .closeObject h rfl fun _ => rfl
    exact ⟨us, ⟨t, rfl, ht⟩, hus⟩
  | [(name, value)], ⟨hvalue, _⟩, h => by
    rw [memberChars, utf8_append] at h
    obtain ⟨k, us, rfl, hk, hus⟩ := TokensOf.quote h
    obtain ⟨c, us, rfl, hc, hus⟩ := TokensOf.sign 58 .colon hus rfl fun _ => rfl
    obtain ⟨vs, hfirst, hvs⟩ :=
      spelledBy_of_tokensOf value hvalue (delimited_cons (.inr (.inr rfl))) hus
    obtain ⟨t, rest, rfl, ht, hrest⟩ := TokensOf.sign 125 .closeObject hvs rfl fun _ => rfl
    exact ⟨rest, ⟨k, c, us, t :: rest, rfl, ⟨hk, hc⟩, hfirst, t, rfl, ht⟩, hrest⟩
  | (name, value) :: next :: members, ⟨hvalue, hmore⟩, h => by
    have h : TokensOf (utf8 (quoteChars name.toList ++ ':' :: (value.chars ++
      ',' :: memberChars (next :: members))) ++ 125 :: tail) ts := h
    rw [utf8_append] at h
    obtain ⟨k, us, rfl, hk, hus⟩ := TokensOf.quote h
    have hus : TokensOf (58 :: (utf8 (value.chars ++ ',' :: memberChars (next :: members)) ++
      125 :: tail)) us := hus
    rw [utf8_append] at hus
    obtain ⟨c, us, rfl, hc, hus⟩ := TokensOf.sign 58 .colon hus rfl fun _ => rfl
    obtain ⟨vs, hfirst, hvs⟩ := spelledBy_of_tokensOf value hvalue (delimited_cons (.inl rfl)) hus
    obtain ⟨t, ws, rfl, ht, hws⟩ := TokensOf.sign 44 .comma hvs rfl fun _ => rfl
    obtain ⟨rest, ⟨k', c', us', vs', rfl, hnext, hvalue', hmembers⟩, hrest⟩ :=
      membersSpelledBy_of_tokensOf (next :: members) hmore hws
    exact ⟨rest, ⟨k, c, us, _, rfl, ⟨hk, hc⟩, hfirst, k', c', us', vs', ⟨t, rfl, ht⟩, hnext, hvalue',
      hmembers⟩, hrest⟩

end

end Json
end RewardDesk
