import RewardDesk.Proofs.Json.Returns
import RewardDesk.Proofs.Json.Spelling

/-!
# Texts that were written

    value ──compact──▶ text ──ofText──▶ a document that shows the value

The reader is followed along tokens that spell a value (`SpelledBy`): it reads a document that shows
the value, and the skipper goes past exactly these tokens. So what is read from the text of a value
is a document that shows it (`ofText_compact`), as long as the value is exact and not nested too
deeply, and a codec reads from the text whatever it returns (`Codec.Returns.ofText`).
-/

namespace RewardDesk
namespace Json

variable {finish : Place} {ts us rest : List Token} {first : Bool}

/-! ## Tokens that begin and end a value

The tokens behind a value are fewer than those in front of it, and by its first token a value is
told from the end of an array. -/

theorem Separated.length_le (h : Separated first ts us) : us.length ≤ ts.length := by
  cases first with
  | true => exact Nat.le_of_eq (congrArg List.length h)
  | false =>
    obtain ⟨t, rfl, -⟩ := h
    exact Nat.le_succ _

mutual

/-- No value is without tokens. -/
theorem SpelledBy.length_lt : {j : Json} → {ts rest : List Token} → SpelledBy j ts rest →
    rest.length < ts.length
  | .null, _, _, ⟨_, rfl, _⟩ | .bool _, _, _, ⟨_, rfl, _⟩ | .int _, _, _, ⟨_, rfl, _⟩
  | .float _, _, _, ⟨_, rfl, _⟩ | .string _, _, _, ⟨_, rfl, _⟩ => Nat.lt_succ_self _
  | .array _, _, _, ⟨_, _, rfl, _, hitems⟩ => Nat.lt_succ_of_lt (ItemsSpelledBy.length_lt hitems)
  | .object _, _, _, ⟨_, _, rfl, _, hmembers⟩ =>
    Nat.lt_succ_of_lt (MembersSpelledBy.length_lt hmembers)

theorem ItemsSpelledBy.length_lt : {items : List Json} → {first : Bool} → {ts rest : List Token} →
    ItemsSpelledBy items first ts rest → rest.length < ts.length
  | [], _, _, _, ⟨_, rfl, _⟩ => Nat.lt_succ_self _
  | _ :: _, _, _, _, ⟨_, _, hseparated, hitem, hitems⟩ =>
    Nat.lt_of_lt_of_le (Nat.lt_trans (ItemsSpelledBy.length_lt hitems) (SpelledBy.length_lt hitem))
      hseparated.length_le

theorem MembersSpelledBy.length_lt : {members : List (String × Json)} → {first : Bool} →
    {ts rest : List Token} → MembersSpelledBy members first ts rest → rest.length < ts.length
  | [], _, _, _, ⟨_, rfl, _⟩ => Nat.lt_succ_self _
  | _ :: _, _, _, _, ⟨_, _, us, _, hseparated, _, hvalue, hmembers⟩ => by
    have hmore := MembersSpelledBy.length_lt hmembers
    have hfirst := SpelledBy.length_lt hvalue
    have hle : us.length + 2 ≤ _ := hseparated.length_le
    omega

end

/-- A value does not begin like the end of an array. -/
theorem SpelledBy.exists_cons {j : Json} (h : SpelledBy j ts rest) :
    ∃ t us, ts = t :: us ∧ t.lexeme ≠ .closeArray := by
  cases j with
  | array items =>
    obtain ⟨t, us, rfl, ht, -⟩ := h
    exact ⟨t, us, rfl, ht ▸ nofun⟩
  | object members =>
    obtain ⟨t, us, rfl, ht, -⟩ := h
    exact ⟨t, us, rfl, ht ▸ nofun⟩
  | _ =>
    obtain ⟨t, rfl, ht⟩ := h
    exact ⟨t, rest, rfl, ht ▸ nofun⟩

/-! ## Skipping

The skipper keeps a stack of open brackets and knows nothing of values. It goes past a value
whatever brackets are open around it, and goes on as one does behind a value (`resume`). -/

/-- Go on behind a value. -/
def resume (finish : Place) (frames : List Bool) (rest : List Token) : Except Fault (List Token) :=
  match afterValue frames with
  | none => .ok rest
  | some (await, frames) => skip finish await frames rest

theorem skip_cons_over {await : Await} {frames outer : List Bool} {t : Token}
    (h : skipToken await frames t = .ok (afterValue outer)) :
    skip finish await frames (t :: rest) = resume finish outer rest := by
  rw [skip, h, resume]
  cases afterValue outer <;> rfl

theorem skip_cons_on {await await' : Await} {frames frames' : List Bool} {t : Token}
    (h : skipToken await frames t = .ok (some (await', frames'))) :
    skip finish await frames (t :: rest) = skip finish await' frames' rest := by
  rw [skip, h]

/-- What is waited for in front of the first item or member, and in front of any other. -/
def awaited (first : Bool) : Await := if first then .opened else .next

theorem skip_separated_item {outer : List Bool} {u : Token} (h : Separated first ts (u :: us))
    (hu : u.lexeme ≠ .closeArray) :
    skip finish (awaited first) (false :: outer) ts =
      skip finish .value (false :: outer) (u :: us) := by
  cases first with
  | true =>
    obtain rfl : u :: us = ts := h
    have htoken : skipToken .opened (false :: outer) u = skipToken .value (false :: outer) u := by
      obtain ⟨lexeme, start, peek, stop⟩ := u
      cases lexeme with
      | closeArray => exact absurd rfl hu
      | _ => rfl
    rw [awaited, if_pos rfl, skip, skip, htoken]
  | false =>
    obtain ⟨⟨_, start, peek, stop⟩, rfl, rfl⟩ := h
    exact skip_cons_on rfl

theorem skip_separated_member {outer : List Bool} {k : Token} {name : String}
    (h : Separated first ts (k :: us)) (hk : k.lexeme = .string (.ok name) none) :
    skip finish (awaited first) (true :: outer) ts = skip finish .colon (true :: outer) us := by
  obtain ⟨_, start, peek, stop⟩ := k
  obtain rfl := hk
  cases first with
  | true =>
    obtain rfl : _ :: us = ts := h
    exact skip_cons_on rfl
  | false =>
    obtain ⟨⟨_, start', peek', stop'⟩, rfl, rfl⟩ := h
    exact (skip_cons_on rfl).trans (skip_cons_on rfl)

mutual

/-- The skipper goes past the tokens that spell a value. -/
theorem skip_of_spelledBy (finish : Place) : (j : Json) → {ts rest : List Token} →
    SpelledBy j ts rest → ∀ frames, skip finish .value frames ts = resume finish frames rest
  | .null, _, _, ⟨⟨_, _, _, _⟩, rfl, rfl⟩ | .bool _, _, _, ⟨⟨_, _, _, _⟩, rfl, rfl⟩
  | .int _, _, _, ⟨⟨_, _, _, _⟩, rfl, rfl⟩ | .float _, _, _, ⟨⟨_, _, _, _⟩, rfl, rfl⟩
  | .string _, _, _, ⟨⟨_, _, _, _⟩, rfl, rfl⟩ => fun _ => skip_cons_over rfl
  | .array items, _, _, ⟨⟨_, _, _, _⟩, _, rfl, rfl, hitems⟩ => fun frames =>
    (skip_cons_on rfl).trans (skip_of_itemsSpelledBy finish items hitems frames)
  | .object members, _, _, ⟨⟨_, _, _, _⟩, _, rfl, rfl, hmembers⟩ => fun frames =>
    (skip_cons_on rfl).trans (skip_of_membersSpelledBy finish members hmembers frames)

theorem skip_of_itemsSpelledBy (finish : Place) : (items : List Json) → {first : Bool} →
    {ts rest : List Token} → ItemsSpelledBy items first ts rest →
      ∀ outer, skip finish (awaited first) (false :: outer) ts = resume finish outer rest
  | [], first, _, _, ⟨⟨_, _, _, _⟩, rfl, rfl⟩ => fun _ => by
    cases first <;> exact skip_cons_over rfl
  | item :: items, _, _, _, ⟨_, _, hseparated, hitem, hitems⟩ => fun outer => by
    obtain ⟨u, us, rfl, hu⟩ := SpelledBy.exists_cons hitem
    rw [skip_separated_item hseparated hu, skip_of_spelledBy finish item hitem]
    exact skip_of_itemsSpelledBy finish items hitems outer

theorem skip_of_membersSpelledBy (finish : Place) : (members : List (String × Json)) →
    {first : Bool} → {ts rest : List Token} → MembersSpelledBy members first ts rest →
      ∀ outer, skip finish (awaited first) (true :: outer) ts = resume finish outer rest
  | [], first, _, _, ⟨⟨_, _, _, _⟩, rfl, rfl⟩ => fun _ => by
    cases first <;> exact skip_cons_over rfl
  | (_, value) :: members, _, _, _,
      ⟨_, ⟨_, _, _, _⟩, _, _, hseparated, ⟨hk, rfl⟩, hvalue, hmembers⟩ => fun outer => by
    rw [skip_separated_member hseparated hk, skip_cons_on rfl, skip_of_spelledBy finish value hvalue]
    exact skip_of_membersSpelledBy finish members hmembers outer

end

/-- One value is skipped as a whole. -/
theorem skipValue_of_spelledBy {j : Json} (finish : Place) (h : SpelledBy j ts rest) :
    skipValue finish ts = .ok rest :=
  skip_of_spelledBy finish j h []

/-! ## Reading

The reader meets each value twice, once to read it and once to skip it. So what it makes of an item
or a member is found from both, and the proof follows the value as the reader does. -/

section
variable {fuel depth : Nat}

theorem readItem_eq {peek : Place} {behind : List Token} (h : skipValue finish ts = .ok behind) :
    readItem finish (fuel + 1) depth peek ts =
      ((peek, readValue finish fuel depth ts) :: (readItems finish fuel depth false behind).1,
        (readItems finish fuel depth false behind).2) := by
  rw [readItem.eq_def]
  simp only [h]

theorem readItems_separated {u : Token} (h : Separated first ts (u :: us))
    (hu : u.lexeme ≠ .closeArray) :
    readItems finish (fuel + 1) depth first ts = readItem finish fuel depth u.peek (u :: us) := by
  obtain ⟨lexeme, start, peek, stop⟩ := u
  cases first with
  | true =>
    obtain rfl : _ :: us = ts := h
    rw [readItems.eq_def]
    cases lexeme with
    | closeArray => exact absurd rfl hu
    | _ => rfl
  | false =>
    obtain ⟨⟨_, start', peek', stop'⟩, rfl, rfl⟩ := h
    rw [readItems.eq_def]
    cases lexeme with
    | closeArray => exact absurd rfl hu
    | _ => rfl

theorem readMembers_separated {k : Token} {name : String} (h : Separated first ts (k :: us))
    (hk : k.lexeme = .string (.ok name) none) :
    readMembers finish (fuel + 1) depth first ts = readMember finish fuel depth name k.stop us := by
  obtain ⟨_, start, peek, stop⟩ := k
  obtain rfl := hk
  cases first with
  | true =>
    obtain rfl : _ :: us = ts := h
    rw [readMembers.eq_def]
  | false =>
    obtain ⟨⟨_, start', peek', stop'⟩, rfl, rfl⟩ := h
    rw [readMembers.eq_def]

theorem readMember_eq {name : String} {stop : Place} {c : Token} {behind : List Token}
    (hc : c.lexeme = .colon) (h : skipValue finish us = .ok behind) :
    readMember finish (fuel + 1) depth name stop (c :: us) =
      ((⟨name, stop, c.start, nextPlace finish behind, none⟩, readValue finish fuel depth us) ::
        (readMembers finish fuel depth false behind).1,
        (readMembers finish fuel depth false behind).2) := by
  obtain ⟨_, start, peek, stop'⟩ := c
  obtain rfl := hc
  rw [readMember.eq_def]
  simp only [h]
  rfl

theorem readValue_leaf {j : Json} {t : Token} (hj : ∀ spot, ShownBy j (.leaf j spot))
    (ht : t.lexeme = leafLexeme j) : ShownBy j (readValue finish (fuel + 1) depth (t :: rest)) := by
  obtain ⟨_, start, peek, stop⟩ := t
  obtain rfl := ht
  rw [readValue.eq_def]
  cases j with
  | array items => obtain ⟨_, _, _, heq, -⟩ := hj default; cases heq
  | object members => obtain ⟨_, _, _, heq, -⟩ := hj default; cases heq
  | _ => exact hj _

theorem readValue_openArray {t : Token} (ht : t.lexeme = .openArray) :
    readValue finish (fuel + 1) (depth + 1) (t :: rest) = .list ⟨t.start, t.peek, t.stop⟩
      (readItems finish fuel depth true rest).1 (readItems finish fuel depth true rest).2 := by
  obtain ⟨_, start, peek, stop⟩ := t
  obtain rfl := ht
  rw [readValue.eq_def]

theorem readValue_openObject {t : Token} (ht : t.lexeme = .openObject) :
    readValue finish (fuel + 1) (depth + 1) (t :: rest) = .record ⟨t.start, t.peek, t.stop⟩
      (readMembers finish fuel depth true rest).1 (readMembers finish fuel depth true rest).2 := by
  obtain ⟨_, start, peek, stop⟩ := t
  obtain rfl := ht
  rw [readValue.eq_def]

theorem readItems_closeArray {t : Token} (ht : t.lexeme = .closeArray) :
    readItems finish (fuel + 1) depth first (t :: rest) = ([], .closed t.stop) := by
  obtain ⟨_, start, peek, stop⟩ := t
  obtain rfl := ht
  rw [readItems.eq_def]

theorem readMembers_closeObject {t : Token} (ht : t.lexeme = .closeObject) :
    readMembers finish (fuel + 1) depth first (t :: rest) = ([], .ok t.stop) := by
  obtain ⟨_, start, peek, stop⟩ := t
  obtain rfl := ht
  rw [readMembers.eq_def]

end

mutual

/-- From tokens that spell a value a document is read that shows it. -/
theorem readValue_of_spelledBy (finish : Place) : (j : Json) → {ts rest : List Token} →
    {fuel depth : Nat} → SpelledBy j ts rest → 2 * ts.length ≤ fuel + 2 * rest.length →
      j.depth ≤ depth → ShownBy j (readValue finish fuel depth ts)
  | .array items, _, rest, fuel, depth, ⟨t, us, rfl, ht, hitems⟩, hfuel, hdepth => by
    have hlt := ItemsSpelledBy.length_lt hitems
    rw [List.length_cons] at hfuel
    obtain ⟨fuel, rfl⟩ : ∃ n, fuel = n + 1 := ⟨fuel - 1, by omega⟩
    obtain ⟨depth, rfl⟩ : ∃ n, depth = n + 1 := Nat.exists_eq_add_one_of_ne_zero
      (Nat.ne_of_gt (Nat.lt_of_lt_of_le (Nat.succ_pos _) hdepth))
    obtain ⟨shown, stop, hread, hshown⟩ : ∃ shown stop, readItems finish fuel depth true us =
        (shown, .closed stop) ∧ ItemsShownBy items shown :=
      readItems_of_spelledBy finish items hitems (by omega) (Nat.le_of_succ_le_succ hdepth)
    rw [readValue_openArray ht, hread]
    exact ⟨_, _, _, rfl, hshown⟩
  | .object members, _, rest, fuel, depth, ⟨t, us, rfl, ht, hmembers⟩, hfuel, hdepth => by
    have hlt := MembersSpelledBy.length_lt hmembers
    rw [List.length_cons] at hfuel
    obtain ⟨fuel, rfl⟩ : ∃ n, fuel = n + 1 := ⟨fuel - 1, by omega⟩
    obtain ⟨depth, rfl⟩ : ∃ n, depth = n + 1 := Nat.exists_eq_add_one_of_ne_zero
      (Nat.ne_of_gt (Nat.lt_of_lt_of_le (Nat.succ_pos _) hdepth))
    obtain ⟨shown, stop, hread, hshown⟩ : ∃ shown stop, readMembers finish fuel depth true us =
        (shown, .ok stop) ∧ MembersShownBy members shown :=
      readMembers_of_spelledBy finish members hmembers (by omega) (Nat.le_of_succ_le_succ hdepth)
    rw [readValue_openObject ht, hread]
    exact ⟨_, _, _, rfl, hshown⟩
  | .null, _, _, fuel, _, ⟨_, rfl, ht⟩, hfuel, _ | .bool _, _, _, fuel, _, ⟨_, rfl, ht⟩, hfuel, _
  | .int _, _, _, fuel, _, ⟨_, rfl, ht⟩, hfuel, _ | .float _, _, _, fuel, _, ⟨_, rfl, ht⟩, hfuel, _
  | .string _, _, _, fuel, _, ⟨_, rfl, ht⟩, hfuel, _ => by
    rw [List.length_cons] at hfuel
    obtain ⟨fuel, rfl⟩ : ∃ n, fuel = n + 1 := ⟨fuel - 1, by omega⟩
    exact readValue_leaf (fun _ => ⟨_, rfl⟩) ht

theorem readItems_of_spelledBy (finish : Place) : (items : List Json) → {first : Bool} →
    {ts rest : List Token} → {fuel depth : Nat} → ItemsSpelledBy items first ts rest →
      2 * ts.length + 1 ≤ fuel + 2 * rest.length → depthItems items ≤ depth →
        ∃ shown stop, readItems finish fuel depth first ts = (shown, .closed stop) ∧
          ItemsShownBy items shown
  | [], _, _, rest, fuel, _, ⟨t, rfl, ht⟩, hfuel, _ => by
    rw [List.length_cons] at hfuel
    obtain ⟨fuel, rfl⟩ : ∃ n, fuel = n + 1 := ⟨fuel - 1, by omega⟩
    exact ⟨[], t.stop, readItems_closeArray ht, rfl⟩
  | item :: items, first, ts, rest, fuel, depth, ⟨us, vs, hseparated, hitem, hitems⟩, hfuel,
      hdepth => by
    obtain ⟨hfirst, hmore⟩ := Nat.max_le.1 hdepth
    have hskip := skipValue_of_spelledBy finish hitem
    have hus := hseparated.length_le
    have hvs := SpelledBy.length_lt hitem
    have hrest := ItemsSpelledBy.length_lt hitems
    obtain ⟨fuel, rfl⟩ : ∃ n, fuel = n + 2 := ⟨fuel - 2, by omega⟩
    have hdocument : ShownBy item (readValue finish fuel depth us) :=
      readValue_of_spelledBy finish item hitem (by omega) hfirst
    obtain ⟨shown, stop, hread, hshown⟩ : ∃ shown stop, readItems finish fuel depth false vs =
        (shown, .closed stop) ∧ ItemsShownBy items shown :=
      readItems_of_spelledBy finish items hitems (by omega) hmore
    obtain ⟨u, us, rfl, hu⟩ := SpelledBy.exists_cons hitem
    rw [readItems_separated hseparated hu, readItem_eq hskip, hread]
    exact ⟨_, _, rfl, _, _, _, rfl, hdocument, hshown⟩

theorem readMembers_of_spelledBy (finish : Place) : (members : List (String × Json)) →
    {first : Bool} → {ts rest : List Token} → {fuel depth : Nat} →
      MembersSpelledBy members first ts rest → 2 * ts.length + 1 ≤ fuel + 2 * rest.length →
        depthMembers members ≤ depth →
          ∃ shown stop, readMembers finish fuel depth first ts = (shown, .ok stop) ∧
            MembersShownBy members shown
  | [], _, _, rest, fuel, _, ⟨t, rfl, ht⟩, hfuel, _ => by
    rw [List.length_cons] at hfuel
    obtain ⟨fuel, rfl⟩ : ∃ n, fuel = n + 1 := ⟨fuel - 1, by omega⟩
    exact ⟨[], t.stop, readMembers_closeObject ht, rfl⟩
  | (_, value) :: members, first, ts, rest, fuel, depth,
      ⟨k, c, us, vs, hseparated, ⟨hk, hc⟩, hvalue, hmembers⟩, hfuel, hdepth => by
    obtain ⟨hfirst, hmore⟩ := Nat.max_le.1 hdepth
    have hskip := skipValue_of_spelledBy finish hvalue
    have hus : us.length + 2 ≤ ts.length := hseparated.length_le
    have hvs := SpelledBy.length_lt hvalue
    have hrest := MembersSpelledBy.length_lt hmembers
    obtain ⟨fuel, rfl⟩ : ∃ n, fuel = n + 2 := ⟨fuel - 2, by omega⟩
    have hdocument : ShownBy value (readValue finish fuel depth us) :=
      readValue_of_spelledBy finish value hvalue (by omega) hfirst
    obtain ⟨shown, stop, hread, hshown⟩ : ∃ shown stop, readMembers finish fuel depth false vs =
        (shown, .ok stop) ∧ MembersShownBy members shown :=
      readMembers_of_spelledBy finish members hmembers (by omega) hmore
    rw [readMembers_separated hseparated hk, readMember_eq hc hskip, hread]
    exact ⟨_, _, rfl, _, _, _, rfl, ⟨rfl, rfl⟩, hdocument, hshown⟩

end

/-! ## Whole texts

A text that was written has its tokens, and these spell the value. Nothing is left behind it, so the
whole text is read. -/

/-- The text of an exact value that is not nested too deeply is read as a document of the value. -/
theorem ofText_compact {j : Json} (hexact : j.Exact) (hdepth : j.depth ≤ depthLimit) :
    ∃ d, Document.ofText (Text.bytes j.compact) = (d, none) ∧ j.ShownBy d := by
  have htext : Text.bytes j.compact = utf8 j.chars ++ [] := by
    rw [compact, Text.bytes_ofList, List.append_nil]
  have htokens := tokensOf_tokens (Text.bytes j.compact)
  rw [Document.ofText]
  generalize tokens (Text.bytes j.compact) = read at htokens
  obtain ⟨ts, finish⟩ := read
  rw [htext] at htokens
  obtain ⟨rest, hspelled, hrest⟩ := spelledBy_of_tokensOf j hexact delimited_nil htokens
  obtain rfl := hrest.eq_nil
  refine ⟨_, ?_, readValue_of_spelledBy finish j hspelled (Nat.le_succ _) hdepth⟩
  simp only [skipValue_of_spelledBy finish hspelled]

/-- A value that is returned is read from the text of what was written. -/
theorem Codec.Returns.ofText {c : Codec α} {a : α} (h : c.Returns a) (hexact : (c.encode a).Exact)
    (hdepth : (c.encode a).depth ≤ depthLimit) :
    c.ofText (Text.bytes (c.encode a).compact) = .ok a := by
  obtain ⟨d, hread, hshown⟩ := ofText_compact hexact hdepth
  rw [Codec.ofText, hread]
  simp only [h .text d hshown, ok_bind, pure_eq_ok]

end Json
end RewardDesk
