import Dashboards.Proofs.Json.Spelling
import Mathlib

/-!
# Reading what was spelled

* `Yields` : a reading takes what is in front of the rest and ends in something right, or it stops and
  something is wrong; `Gives` : it ends in a value, or stops because there is none;
* `string_full`, `string_skim` : a string is read as its characters, and always skimmed;
* `literal_unsigned` : the literal of a number is read, whatever letter and sign its exponent has;
* `listItems_text`, `objectMembers_text` : the items of a list and the members of an object, if each is read;
* `value_skim`, `value_full` : every spelling that is not too deep is skimmed, and is read as a value that
  it spells unless a character or a number in it is none.
-/

namespace Dashboards.Json

/-- The reading takes what is in front of the rest and ends in something right, or it stops and something
is wrong. -/
def Yields {α : Type} (right : α → Prop) (wrong : Prop) (rest : List Char) (result : Except Stop (α × List Char)) :
    Prop :=
  (∃ a, right a ∧ result = .ok (a, rest)) ∨ wrong ∧ ∃ stop, result = .error stop

theorem Yields.imp {α : Type} {right right' : α → Prop} {wrong wrong' : Prop} {rest : List Char}
    {result : Except Stop (α × List Char)} (h : Yields right wrong rest result) (hright : ∀ a, right a → right' a)
    (hwrong : wrong → wrong') : Yields right' wrong' rest result := by
  rcases h with ⟨a, ha, hresult⟩ | ⟨hw, hresult⟩
  · exact .inl ⟨a, hright a ha, hresult⟩
  · exact .inr ⟨hwrong hw, hresult⟩

/-- The reading ends in the value, or it stops because there is none. -/
def Gives {α : Type} (a? : Option α) (rest : List Char) (result : Except Stop (α × List Char)) : Prop :=
  Yields (a? = some ·) (a? = none) rest result

/-! ## Strings -/

theorem hexValue?_char (d : HexDigit) : hexValue? d.char = some d.value.val := by
  obtain ⟨value, capital⟩ := d
  revert value capital
  decide

theorem utf8Size_char (d : HexDigit) : d.char.utf8Size = 1 := by
  obtain ⟨value, capital⟩ := d
  revert value capital
  decide

theorem codeUnit_text (n : HexCode) (rest : List Char) : codeUnit (n.text ++ rest) = .ok (n.unit, rest) := by
  have hbytes : Text.byteLength ((n.text ++ rest).take 4) = 4 := by
    simp [HexCode.text, Text.byteLength, utf8Size_char]
  unfold codeUnit
  rw [if_neg (by rw [hbytes]; decide)]
  simp only [HexCode.text, List.cons_append, List.nil_append, hexValue?_char]
  rfl

theorem unicodeEscape_skim (n : HexCode) (rest : List Char) :
    unicodeEscape .skim (n.text ++ rest) = .ok (Char.ofNat n.unit, rest) := by
  rw [unicodeEscape, codeUnit_text]
  rfl

theorem unicodeEscape_full (n : HexCode) (rest : List Char) :
    unicodeEscape .full (n.text ++ rest) =
      if isLowSurrogate n.unit then .error (.behind .loneSurrogate rest)
      else if isHighSurrogate n.unit then lowSurrogate n.unit rest
      else .ok (Char.ofNat n.unit, rest) := by
  rw [unicodeEscape, codeUnit_text]
  rfl

theorem lowSurrogate_code (high : Nat) (n : HexCode) (rest : List Char) :
    lowSurrogate high ('\\' :: 'u' :: (n.text ++ rest)) =
      if isLowSurrogate n.unit then .ok (joinSurrogates high n.unit, rest)
      else .error (.behind .loneSurrogate rest) := by
  rw [lowSurrogate, codeUnit_text]
  rfl

/-- Only a code can be the second half of a pair. -/
theorem lowSurrogate_error (high : Nat) {text : List Char} (h : ∀ t, text ≠ '\\' :: 'u' :: t) :
    ∃ e, lowSurrogate high text = .error e := by
  unfold lowSurrogate
  split
  · exact absurd rfl (h _)
  · split_ifs <;> exact ⟨_, rfl⟩
  · split_ifs <;> exact ⟨_, rfl⟩

section Pieces

variable {care : Care} {fuel : Nat} {seen : List Char}

theorem stringFrom_plain {c : Char} (h : IsPlain c) (rest : List Char) :
    stringFrom care (fuel + 1) seen (c :: rest) = stringFrom care fuel (c :: seen) rest := by
  obtain ⟨hcontrol, hquote, hbackslash⟩ := h
  rw [stringFrom, if_neg (by omega)]
  · exact hquote
  · exact hbackslash

theorem stringFrom_short (s : Shorthand) (rest : List Char) :
    stringFrom care (fuel + 1) seen ('\\' :: s.letter :: rest) = stringFrom care fuel (s.char :: seen) rest := by
  cases s <;> rfl

theorem stringFrom_code (text : List Char) : stringFrom care (fuel + 1) seen ('\\' :: 'u' :: text) =
    unicodeEscape care text >>= fun r => stringFrom care fuel (r.1 :: seen) r.2 := rfl

/-- A string is always skimmed. -/
theorem stringFrom_skim (ps : List Piece) (rest : List Char) (hfuel : ps.length < fuel) :
    ∃ s, stringFrom .skim fuel seen (pieces ps ++ '"' :: rest) = .ok (s, rest) := by
  induction ps generalizing fuel seen with
  | nil =>
    obtain ⟨fuel, rfl⟩ : ∃ k, fuel = k + 1 := ⟨fuel - 1, by omega⟩
    exact ⟨_, rfl⟩
  | cons p ps ih =>
    rw [List.length_cons] at hfuel
    obtain ⟨fuel, rfl⟩ : ∃ k, fuel = k + 1 := ⟨fuel - 1, by omega⟩
    rw [pieces, List.flatMap_cons, List.append_assoc]
    have hrest : ∀ c, ∃ s, stringFrom .skim fuel (c :: seen) (pieces ps ++ '"' :: rest) = .ok (s, rest) :=
      fun c => ih (by omega)
    cases p with
    | plain c h =>
      rw [Piece.text, List.singleton_append, stringFrom_plain h]
      exact hrest c
    | short s =>
      rw [Piece.text, List.cons_append, List.singleton_append, stringFrom_short]
      exact hrest s.char
    | code n =>
      rw [Piece.text, List.cons_append, List.cons_append, stringFrom_code, unicodeEscape_skim]
      exact hrest (Char.ofNat n.unit)

/-- One more character in front of the ones to come. -/
theorem map_cons_seen (cs? : Option (List Char)) (c : Char) (seen : List Char) :
    (cs?.map (c :: ·)).map (fun cs => String.ofList (seen.reverse ++ cs)) =
      cs?.map fun cs => String.ofList ((c :: seen).reverse ++ cs) := by
  cases cs? <;> simp

theorem pieces_cons (p : Piece) (ps : List Piece) (rest : List Char) :
    pieces (p :: ps) ++ rest = p.text ++ (pieces ps ++ rest) := by
  rw [pieces, List.flatMap_cons, List.append_assoc]
  rfl

theorem pieces_code (n : HexCode) (ps : List Piece) (rest : List Char) :
    pieces (.code n :: ps) ++ rest = '\\' :: 'u' :: (n.text ++ (pieces ps ++ rest)) := by
  rw [pieces_cons]
  rfl

/-- What is no code does not look like one. -/
theorem pieces_ne_code {ps : List Piece} (h : ∀ n ps', ps ≠ .code n :: ps') (rest : List Char) :
    ∀ t, pieces ps ++ '"' :: rest ≠ '\\' :: 'u' :: t := by
  intro t heq
  cases ps with
  | nil => cases heq
  | cons p ps =>
    rw [pieces_cons] at heq
    cases p with
    | plain c hc => exact hc.2.2 (List.cons.inj heq).1
    | short s => cases s <;> cases (List.cons.inj (List.cons.inj heq).2).1
    | code n => exact h n ps rfl

/-- A string is read as its characters. -/
theorem stringFrom_full (ps : List Piece) (rest : List Char) (hfuel : ps.length < fuel) :
    Gives ((meaning ps).map fun cs => String.ofList (seen.reverse ++ cs)) rest
      (stringFrom .full fuel seen (pieces ps ++ '"' :: rest)) := by
  obtain ⟨fuel, rfl⟩ : ∃ k, fuel = k + 1 := ⟨fuel - 1, by omega⟩
  induction ps using meaning.induct generalizing fuel seen with
  | case1 => exact .inl ⟨_, congrArg (some ∘ String.ofList) (List.append_nil _), rfl⟩
  | case2 c h ps ih =>
    rw [List.length_cons] at hfuel
    obtain ⟨fuel, rfl⟩ : ∃ k, fuel = k + 1 := ⟨fuel - 1, by omega⟩
    rw [pieces_cons, Piece.text, List.singleton_append, stringFrom_plain h, meaning, map_cons_seen]
    exact ih fuel (by omega)
  | case3 s ps ih =>
    rw [List.length_cons] at hfuel
    obtain ⟨fuel, rfl⟩ : ∃ k, fuel = k + 1 := ⟨fuel - 1, by omega⟩
    rw [pieces_cons, Piece.text, List.cons_append, List.singleton_append, stringFrom_short, meaning, map_cons_seen]
    exact ih fuel (by omega)
  | case4 n ps hlow =>
    rw [pieces_code, stringFrom_code, unicodeEscape_full, if_pos hlow, meaning_code, if_pos hlow]
    exact .inr ⟨rfl, _, rfl⟩
  | case5 n hlow hhigh m ps hm ih =>
    rw [List.length_cons, List.length_cons] at hfuel
    obtain ⟨fuel, rfl⟩ : ∃ k, fuel = k + 1 := ⟨fuel - 1, by omega⟩
    rw [pieces_code, stringFrom_code, unicodeEscape_full, if_neg hlow, if_pos hhigh, pieces_code, lowSurrogate_code,
      if_pos hm, meaning_code, if_neg hlow, if_pos hhigh]
    dsimp only [bind, Except.bind]
    rw [if_pos hm, map_cons_seen]
    exact ih fuel (by omega)
  | case6 n hlow hhigh m ps hm =>
    rw [pieces_code, stringFrom_code, unicodeEscape_full, if_neg hlow, if_pos hhigh, pieces_code, lowSurrogate_code,
      if_neg hm, meaning_code, if_neg hlow, if_pos hhigh]
    dsimp only
    rw [if_neg hm]
    exact .inr ⟨rfl, _, rfl⟩
  | case7 n ps hlow hhigh hps =>
    obtain ⟨e, he⟩ := lowSurrogate_error n.unit (pieces_ne_code hps rest)
    rw [pieces_code, stringFrom_code, unicodeEscape_full, if_neg hlow, if_pos hhigh, he, meaning_code, if_neg hlow,
      if_pos hhigh]
    split
    · next m ps' => exact absurd rfl (hps m ps')
    · exact .inr ⟨rfl, e, rfl⟩
  | case8 n ps hlow hhigh ih =>
    rw [List.length_cons] at hfuel
    obtain ⟨fuel, rfl⟩ : ∃ k, fuel = k + 1 := ⟨fuel - 1, by omega⟩
    rw [pieces_code, stringFrom_code, unicodeEscape_full, if_neg hlow, if_neg hhigh, meaning_code, if_neg hlow,
      if_neg hhigh, map_cons_seen]
    exact ih fuel (by omega)

end Pieces

theorem length_le_pieces (ps : List Piece) : ps.length ≤ (pieces ps).length := by
  induction ps with
  | nil => exact Nat.le_refl _
  | cons p ps ih =>
    have hp : 1 ≤ p.text.length := by cases p <;> exact Nat.le_add_left 1 _
    rw [pieces, List.flatMap_cons, List.length_append, List.length_cons]
    change (pieces ps).length ≥ _ at ih
    unfold pieces at ih
    omega

theorem string_full (ps : List Piece) (rest : List Char) :
    Gives ((meaning ps).map String.ofList) rest (string .full (pieces ps ++ '"' :: rest)) := by
  have := length_le_pieces ps
  change Gives ((meaning ps).map fun cs => String.ofList ([].reverse ++ cs)) rest (stringFrom .full _ [] _)
  refine stringFrom_full ps rest ?_
  rw [List.length_append]
  omega

theorem string_skim (ps : List Piece) (rest : List Char) :
    ∃ s, string .skim (pieces ps ++ '"' :: rest) = .ok (s, rest) := by
  have := length_le_pieces ps
  refine stringFrom_skim ps rest ?_
  rw [List.length_append]
  omega

/-! ## Numbers -/

section Numbers

variable (n : Numeral) {rest : List Char}

theorem signedDigits_text {negative plus : Bool} {ds : List Char} (h : IsDigitRun ds) (hr : EndsNumber rest) :
    signedDigits ((if negative then ['-'] else if plus then ['+'] else []) ++ (ds ++ rest)) =
      .ok ((negative, ds), rest) := by
  have hsigned : ∀ negative : Bool,
      signedDigits ((if negative then '-' else '+') :: (ds ++ rest)) = .ok ((negative, ds), rest) :=
    fun _ => signedDigits_append h hr.noDigit
  cases negative with
  | true => exact hsigned true
  | false =>
    cases plus with
    | true => exact hsigned false
    | false =>
      have hdigits := digitRun_append h hr.noDigit
      cases ds with
      | nil => exact absurd rfl h.1
      | cons d ds =>
        have hd : d.isDigit := h.2 d List.mem_cons_self
        change signedDigits (d :: ds ++ rest) = _
        rw [signedDigits, hdigits]
        · rfl
        · rintro _ ⟨⟩
          exact absurd hd (by decide)
        · rintro _ ⟨⟩
          exact absurd hd (by decide)

theorem exponentPart_text (hr : EndsNumber rest) :
    exponentPart (n.exponentText ++ rest) = .ok (n.literal.exponent, rest) := by
  have hrun := n.wellFormed.exponent
  unfold Numeral.exponentText
  cases he : n.literal.exponent with
  | none =>
    rw [he] at hrun
    exact exponentPart_append hrun hr
  | some e =>
    obtain ⟨negative, ds⟩ := e
    rw [he] at hrun
    have hletter : ((if n.capital then 'E' else 'e') = 'e' || (if n.capital then 'E' else 'e') = 'E') = true := by
      cases n.capital <;> rfl
    rw [List.cons_append, List.append_assoc, exponentPart, if_pos hletter, signedDigits_text (hrun _ rfl) hr]
    rfl

theorem exponentText_head (hr : EndsNumber rest) :
    ∀ c ∈ (n.exponentText ++ rest).head?, c.isDigit = false ∧ c ≠ '.' := by
  intro c hc
  unfold Numeral.exponentText at hc
  split at hc
  · exact ⟨(hr c hc).1, (hr c hc).2.1⟩
  · obtain rfl : (if n.capital then 'E' else 'e') = c := by simpa using hc
    split_ifs <;> decide

/-- The literal of a number is read, whatever follows it. -/
theorem literal_unsigned (hr : EndsNumber rest) :
    literal n.literal.negative (n.unsigned ++ rest) = .ok (n.literal, rest) := by
  rw [Numeral.unsigned, List.append_assoc, List.append_assoc]
  exact literal_append n.wellFormed (exponentPart_text n hr) (exponentText_head n hr)

theorem valueWith_numeral (care : Care) (container : Char → Reader Value) :
    valueWith care container (n.text ++ rest) = number care n.literal.negative (n.unsigned ++ rest) := by
  rw [Numeral.text, Numeral.unsigned, List.append_assoc, List.append_assoc]
  exact valueWith_literal n.wellFormed care container _

theorem number_skim (hr : EndsNumber rest) :
    number .skim n.literal.negative (n.unsigned ++ rest) = .ok (.null, rest) := by
  rw [number, literal_unsigned n hr]
  rfl

theorem number_full (hr : EndsNumber rest) :
    number .full n.literal.negative (n.unsigned ++ rest) =
      (n.literal.evaluate rest).map fun x => (.number x, rest) := by
  rw [number, literal_unsigned n hr]
  change (n.literal.evaluate rest >>= fun x => Except.ok (Value.number x, rest)) = _
  cases n.literal.evaluate rest <;> rfl

end Numbers

/-! ## Arrays -/

theorem text_head (s : Spelling) : ∃ c t, s.text = c :: t ∧ isSpace c = false ∧ c ≠ ']' := by
  cases s with
  | null => exact ⟨_, _, rfl, rfl, by decide⟩
  | bool b => cases b <;> exact ⟨_, _, rfl, rfl, by decide⟩
  | string ps => exact ⟨_, _, rfl, rfl, by decide⟩
  | array gap items => exact ⟨_, _, rfl, rfl, by decide⟩
  | object gap members => exact ⟨_, _, rfl, rfl, by decide⟩
  | number n =>
    change ∃ c t, n.text = c :: t ∧ _
    unfold Numeral.text Numeral.unsigned
    cases n.literal.negative with
    | true => exact ⟨_, _, rfl, rfl, by decide⟩
    | false =>
      obtain ⟨hne, hd⟩ := n.wellFormed.whole
      cases hw : n.literal.whole with
      | nil => exact absurd hw hne
      | cons c cs =>
        have hc : c.isDigit := hd c (by rw [hw]; exact List.mem_cons_self)
        refine ⟨c, _, rfl, isSpace_of_isDigit hc, ?_⟩
        rintro rfl
        exact absurd hc (by decide)

theorem skipSpace_text (s : Spelling) (rest : List Char) : skipSpace (s.text ++ rest) = s.text ++ rest := by
  obtain ⟨c, t, hs, hspace, -⟩ := text_head s
  rw [hs]
  exact skipSpace_cons hspace _

theorem slotText_eq (i : Slot Spelling) : slotText i = blanks i.before ++ (i.item.text ++ blanks i.after) := by
  rw [slotText]

/-- An item is due behind these blanks. -/
theorem skipSpace_slotText (i : Slot Spelling) (rest : List Char) :
    skipSpace (slotText i ++ rest) = i.item.text ++ (blanks i.after ++ rest) := by
  rw [slotText_eq, List.append_assoc, skipSpace_blanks, List.append_assoc, skipSpace_text]

theorem EndsNumber.moreItems (items : List (Slot Spelling)) (rest : List Char) :
    EndsNumber (Json.moreItems items ++ rest) := by
  cases items with
  | nil => exact .cons _ (by decide)
  | cons i items => exact .cons _ (by decide)

theorem length_lt_moreItems (items : List (Slot Spelling)) : items.length < (moreItems items).length := by
  induction items with
  | nil => exact Nat.zero_lt_one
  | cons i items ih =>
    simp only [moreItems, List.length_cons, List.length_append]
    omega

section Items

variable {α : Type} {item : Reader α}

theorem itemsFrom_text {items : List (Slot Spelling)} {i : Slot Spelling}
    (h : ∀ j ∈ i :: items, ∀ rest, EndsNumber rest → ∃ v, item (j.item.text ++ rest) = .ok (v, rest))
    (rest : List Char) {fuel : Nat} (hfuel : items.length < fuel) (seen : List α) :
    ∃ vs, itemsFrom item fuel seen (i.item.text ++ (blanks i.after ++ (moreItems items ++ rest))) = .ok (vs, rest) := by
  obtain ⟨fuel, rfl⟩ : ∃ k, fuel = k + 1 := ⟨fuel - 1, by omega⟩
  induction items generalizing i fuel seen with
  | nil =>
    obtain ⟨v, hv⟩ := h i List.mem_cons_self _ (.blanks i.after (.moreItems [] rest))
    refine ⟨_, itemsFrom_last hv ?_⟩
    rw [skipSpace_blanks]
    exact skipSpace_cons (by decide) _
  | cons j items ih =>
    rw [List.length_cons] at hfuel
    obtain ⟨fuel, rfl⟩ : ∃ k, fuel = k + 1 := ⟨fuel - 1, by omega⟩
    obtain ⟨v, hv⟩ := h i List.mem_cons_self _ (.blanks i.after (.moreItems (j :: items) rest))
    obtain ⟨c, t, ht, -, hc⟩ := text_head j.item
    have hcomma : skipSpace (blanks i.after ++ (moreItems (j :: items) ++ rest)) =
        ',' :: (slotText j ++ moreItems items ++ rest) := by
      rw [skipSpace_blanks, moreItems]
      exact skipSpace_cons (by decide) _
    have hitem : skipSpace (slotText j ++ moreItems items ++ rest) =
        c :: (t ++ (blanks j.after ++ (moreItems items ++ rest))) := by
      rw [List.append_assoc, skipSpace_slotText, ht]
      rfl
    rw [itemsFrom_more hv hcomma hitem hc, ← List.cons_append, ← ht]
    exact ih (fun k hk => h k (List.mem_cons_of_mem i hk)) _ fuel (by omega)

/-- Any items that can all be read make an array that can. -/
theorem listItems_text {items : List (Slot Spelling)}
    (h : ∀ i ∈ items, ∀ rest, EndsNumber rest → ∃ v, item (i.item.text ++ rest) = .ok (v, rest))
    (gap : List Blank) (rest : List Char) :
    ∃ vs, listItems item (blanks gap ++ (itemsText items ++ rest)) = .ok (vs, rest) := by
  cases items with
  | nil =>
    refine ⟨[], ?_⟩
    rw [listItems, skipSpace_blanks, itemsText, List.singleton_append, skipSpace_cons (by decide)]
    rfl
  | cons i items =>
    obtain ⟨c, t, ht, -, hc⟩ := text_head i.item
    have hfirst : skipSpace (blanks gap ++ (itemsText (i :: items) ++ rest)) =
        c :: (t ++ (blanks i.after ++ (moreItems items ++ rest))) := by
      rw [skipSpace_blanks, itemsText, List.append_assoc, skipSpace_slotText, ht]
      rfl
    rw [listItems_cons hfirst hc, ← List.cons_append, ← ht]
    refine itemsFrom_text h rest ?_ []
    have := length_lt_moreItems items
    simp only [itemsText, List.length_append]
    omega

end Items

/-! ## Objects -/

/-- A member from behind its key up to the end of its value. -/
def Entry.behindKey (e : Entry Spelling) : List Char :=
  blanks e.beforeColon ++ ':' :: (blanks e.afterColon ++ e.value.text)

/-- A member from behind its opening quote up to the end of its value. -/
def Entry.inner (e : Entry Spelling) : List Char := pieces e.key ++ '"' :: e.behindKey

theorem entryText_eq (e : Entry Spelling) : entryText e = blanks e.before ++ '"' :: (e.inner ++ blanks e.after) := by
  rw [entryText, Entry.inner, Entry.behindKey]
  simp only [List.append_assoc, List.cons_append]

theorem skipSpace_entryText (e : Entry Spelling) (rest : List Char) :
    skipSpace (entryText e ++ rest) = '"' :: (e.inner ++ (blanks e.after ++ rest)) := by
  rw [entryText_eq, List.append_assoc, skipSpace_blanks, List.cons_append, skipSpace_cons (by decide),
    List.append_assoc]

theorem EndsNumber.moreMembers (members : List (Entry Spelling)) (rest : List Char) :
    EndsNumber (Json.moreMembers members ++ rest) := by
  cases members with
  | nil => exact .cons _ (by decide)
  | cons e members => exact .cons _ (by decide)

theorem length_lt_moreMembers (members : List (Entry Spelling)) : members.length < (moreMembers members).length := by
  induction members with
  | nil => exact Nat.zero_lt_one
  | cons e members ih =>
    simp only [moreMembers, List.length_cons, List.length_append]
    omega

section Members

variable {α : Type} {care : Care} {value : String → Reader α}

/-- A member is read as its key and what is read of its value. -/
theorem member_inner {e : Entry Spelling} {key : String} {rest : List Char}
    (h : string care (pieces e.key ++ '"' :: (e.behindKey ++ rest)) = .ok (key, e.behindKey ++ rest)) :
    member care value (e.inner ++ rest) =
      (value key (blanks e.afterColon ++ (e.value.text ++ rest))).map fun r => ((key, r.1), r.2) := by
  have hcolon : colon (e.behindKey ++ rest) = .ok ((), blanks e.afterColon ++ (e.value.text ++ rest)) := by
    rw [colon, Entry.behindKey, List.append_assoc, skipSpace_blanks, List.cons_append, skipSpace_cons (by decide),
      List.append_assoc]
    rfl
  rw [Entry.inner, List.append_assoc, List.cons_append, member, h]
  dsimp only [bind, Except.bind]
  rw [hcolon]
  dsimp only
  cases value key (blanks e.afterColon ++ (e.value.text ++ rest)) <;> rfl

theorem membersFrom_stop {text : List Char} {stop : Stop} (h : member care value text = .error stop) {fuel : Nat}
    {seen : List (String × α)} : membersFrom care value (fuel + 1) seen text = .error stop := by
  rw [membersFrom, h]
  rfl

variable {right : Entry Spelling → String × α → Prop} {wrong : Entry Spelling → Prop}

/-- If all members can be read or are wrong, so are their list and the members that it is read as. -/
theorem membersFrom_text {e : Entry Spelling} {members : List (Entry Spelling)}
    (h : ∀ e' ∈ e :: members, ∀ rest, EndsNumber rest →
      Yields (right e') (wrong e') rest (member care value (e'.inner ++ rest)))
    (rest : List Char) {fuel : Nat} (hfuel : members.length < fuel) (seen : List (String × α)) :
    Yields (fun ms => ∃ ms', ms = seen.reverse ++ ms' ∧ List.Forall₂ right (e :: members) ms')
      (∃ e' ∈ e :: members, wrong e') rest
      (membersFrom care value fuel seen (e.inner ++ (blanks e.after ++ (moreMembers members ++ rest)))) := by
  obtain ⟨fuel, rfl⟩ : ∃ k, fuel = k + 1 := ⟨fuel - 1, by omega⟩
  induction members generalizing e fuel seen with
  | nil =>
    rcases h e List.mem_cons_self _ (.blanks e.after (.moreMembers [] rest)) with
      ⟨m, hm, hread⟩ | ⟨hwrong, stop, hread⟩
    · have hend : skipSpace (blanks e.after ++ (moreMembers [] ++ rest)) = '\x7d' :: rest := by
        rw [skipSpace_blanks]
        exact skipSpace_cons (by decide) _
      exact .inl ⟨_, ⟨[m], rfl, .cons hm .nil⟩, membersFrom_last hread hend⟩
    · exact .inr ⟨⟨e, List.mem_cons_self, hwrong⟩, stop, membersFrom_stop hread⟩
  | cons e' members ih =>
    rw [List.length_cons] at hfuel
    obtain ⟨fuel, rfl⟩ : ∃ k, fuel = k + 1 := ⟨fuel - 1, by omega⟩
    rcases h e List.mem_cons_self _ (.blanks e.after (.moreMembers (e' :: members) rest)) with
      ⟨m, hm, hread⟩ | ⟨hwrong, stop, hread⟩
    · have hcomma : skipSpace (blanks e.after ++ (moreMembers (e' :: members) ++ rest)) =
          ',' :: (entryText e' ++ moreMembers members ++ rest) := by
        rw [skipSpace_blanks, moreMembers]
        exact skipSpace_cons (by decide) _
      have hquote : skipSpace (entryText e' ++ moreMembers members ++ rest) =
          '"' :: (e'.inner ++ (blanks e'.after ++ (moreMembers members ++ rest))) := by
        rw [List.append_assoc, skipSpace_entryText]
      rw [membersFrom_more hread hcomma hquote]
      refine (ih (fun d hd => h d (List.mem_cons_of_mem e hd)) (m :: seen) fuel (by omega)).imp ?_ ?_
      · rintro ms ⟨ms', rfl, hms⟩
        exact ⟨m :: ms', by rw [List.reverse_cons, List.append_assoc]; rfl, .cons hm hms⟩
      · rintro ⟨d, hd, hwrong⟩
        exact ⟨d, List.mem_cons_of_mem e hd, hwrong⟩
    · exact .inr ⟨⟨e, List.mem_cons_self, hwrong⟩, stop, membersFrom_stop hread⟩

/-- Members between braces are read as what each of them is read as. -/
theorem objectMembers_text {members : List (Entry Spelling)}
    (h : ∀ e ∈ members, ∀ rest, EndsNumber rest → Yields (right e) (wrong e) rest (member care value (e.inner ++ rest)))
    (gap : List Blank) (rest : List Char) :
    Yields (List.Forall₂ right members) (∃ e ∈ members, wrong e) rest
      (objectMembers care value (blanks gap ++ (membersText members ++ rest))) := by
  cases members with
  | nil =>
    refine .inl ⟨[], .nil, ?_⟩
    rw [objectMembers, skipSpace_blanks, membersText, List.singleton_append, skipSpace_cons (by decide)]
    rfl
  | cons e members =>
    have hfirst : skipSpace (blanks gap ++ (membersText (e :: members) ++ rest)) =
        '"' :: (e.inner ++ (blanks e.after ++ (moreMembers members ++ rest))) := by
      rw [skipSpace_blanks, membersText, List.append_assoc, skipSpace_entryText]
    rw [objectMembers_cons hfirst]
    refine (membersFrom_text h rest ?_ []).imp ?_ id
    · have := length_lt_moreMembers members
      simp only [membersText, List.length_append]
      omega
    · rintro ms ⟨ms', rfl, hms⟩
      exact hms

end Members

/-! ## Values -/

theorem length_item_lt {i : Slot Spelling} {items : List (Slot Spelling)} (h : i ∈ items) :
    i.item.text.length < (moreItems items).length := by
  induction items with
  | nil => exact absurd h List.not_mem_nil
  | cons j items ih =>
    simp only [moreItems, slotText_eq, List.length_cons, List.length_append]
    rcases List.mem_cons.mp h with rfl | h
    · omega
    · have := ih h
      omega

theorem length_value_lt {e : Entry Spelling} {members : List (Entry Spelling)} (h : e ∈ members) :
    e.value.text.length < (moreMembers members).length := by
  induction members with
  | nil => exact absurd h List.not_mem_nil
  | cons d members ih =>
    simp only [moreMembers, entryText_eq, Entry.inner, Entry.behindKey, List.length_cons, List.length_append]
    rcases List.mem_cons.mp h with rfl | h
    · omega
    · have := ih h
      omega

theorem length_moreItems_le (items : List (Slot Spelling)) :
    (moreItems items).length ≤ (itemsText items).length + 1 := by
  cases items with
  | nil => exact Nat.le_succ 1
  | cons i items => exact Nat.le_refl _

theorem length_moreMembers_le (members : List (Entry Spelling)) :
    (moreMembers members).length ≤ (membersText members).length + 1 := by
  cases members with
  | nil => exact Nat.le_succ 1
  | cons e members => exact Nat.le_refl _

theorem value_blanks (care : Care) (n : Nat) (bs : List Blank) (text : List Char) :
    value care n (blanks bs ++ text) = value care n text := by
  rw [← value_skipSpace, skipSpace_blanks, value_skipSpace]

theorem value_string (ps : List Piece) (care : Care) (n : Nat) (rest : List Char) :
    value care n (Spelling.text (.string ps) ++ rest) =
      string care (pieces ps ++ '"' :: rest) >>= fun r => .ok (.string r.1, r.2) := by
  obtain ⟨f, hf⟩ := value_eq_valueWith care n
  rw [hf, Spelling.text, List.cons_append, List.append_assoc, List.singleton_append]
  rfl

theorem value_array (gap : List Blank) (items : List (Slot Spelling)) (care : Care) (n : Nat) (rest : List Char) :
    value care (n + 1) (Spelling.text (.array gap items) ++ rest) =
      listItems (value care n) (blanks gap ++ (itemsText items ++ rest)) >>= fun r => .ok (.array r.1, r.2) := by
  rw [Spelling.text, List.cons_append, List.append_assoc]
  rfl

theorem value_object (gap : List Blank) (members : List (Entry Spelling)) (care : Care) (n : Nat) (rest : List Char) :
    value care (n + 1) (Spelling.text (.object gap members) ++ rest) =
      objectMembers care (fun _ => value care n) (blanks gap ++ (membersText members ++ rest)) >>=
        fun r => .ok (.ofMembers r.1, r.2) := by
  rw [Spelling.text, List.cons_append, List.append_assoc]
  rfl

/-- Every value is skimmed, its length being limit enough on nesting. -/
theorem value_skim (s : Spelling) : ∀ n rest, s.text.length ≤ n → EndsNumber rest →
    ∃ v, value .skim n (s.text ++ rest) = .ok (v, rest) := by
  induction s using Spelling.induction with
  | hnull =>
    intro n rest _ _
    obtain ⟨f, hf⟩ := value_eq_valueWith .skim n
    rw [hf]
    exact ⟨_, rfl⟩
  | hbool b =>
    intro n rest _ _
    obtain ⟨f, hf⟩ := value_eq_valueWith .skim n
    rw [hf]
    cases b <;> exact ⟨_, rfl⟩
  | hnumber numeral =>
    intro n rest _ hr
    obtain ⟨f, hf⟩ := value_eq_valueWith .skim n
    rw [hf, Spelling.text, valueWith_numeral, number_skim numeral hr]
    exact ⟨_, rfl⟩
  | hstring ps =>
    intro n rest _ _
    obtain ⟨s, hs⟩ := string_skim ps rest
    refine ⟨.string s, ?_⟩
    rw [value_string, hs]
    rfl
  | harray gap items ih =>
    intro n rest hn _
    rw [Spelling.text, List.length_cons, List.length_append] at hn
    obtain ⟨n, rfl⟩ : ∃ k, n = k + 1 := ⟨n - 1, by omega⟩
    have hitems : ∀ i ∈ items, ∀ rest, EndsNumber rest → ∃ v, value .skim n (i.item.text ++ rest) = .ok (v, rest) := by
      intro i hi rest hr
      have := length_item_lt hi
      have := length_moreItems_le items
      exact ih i hi n rest (by omega) hr
    obtain ⟨vs, hvs⟩ := listItems_text hitems gap rest
    refine ⟨.array vs, ?_⟩
    rw [value_array, hvs]
    rfl
  | hobject gap members ih =>
    intro n rest hn _
    rw [Spelling.text, List.length_cons, List.length_append] at hn
    obtain ⟨n, rfl⟩ : ∃ k, n = k + 1 := ⟨n - 1, by omega⟩
    have hmembers : ∀ e ∈ members, ∀ rest, EndsNumber rest →
        Yields (fun _ => True) False rest (member .skim (fun _ => value .skim n) (e.inner ++ rest)) := by
      intro e he rest hr
      have := length_value_lt he
      have := length_moreMembers_le members
      obtain ⟨v, hv⟩ := ih e he n rest (by omega) hr
      obtain ⟨key, hkey⟩ := string_skim e.key (e.behindKey ++ rest)
      refine .inl ⟨(key, v), trivial, ?_⟩
      rw [member_inner hkey, value_blanks, hv]
      rfl
    obtain ⟨ms, -, hms⟩ | ⟨⟨_, _, hwrong⟩, -⟩ := objectMembers_text hmembers gap rest
    · refine ⟨.ofMembers ms, ?_⟩
      rw [value_object, hms]
      rfl
    · exact hwrong.elim

/-- A scalar is read as the value that it spells, if it spells one. No nesting is allowed for, as the
values of a record have none. -/
theorem value_full (s : Spelling) {rest : List Char} (hr : EndsNumber rest) :
    Yields (fun v => ∀ w, Spells s w → v = w) (∀ w, ¬Spells s w) rest (value .full 0 (s.text ++ rest)) := by
  cases s with
  | null =>
    refine .inl ⟨.null, ?_, rfl⟩
    rintro w ⟨⟩
    rfl
  | bool b =>
    refine .inl ⟨.bool b, ?_, by cases b <;> rfl⟩
    rintro w ⟨⟩
    rfl
  | array gap items => exact .inr ⟨(fun w h => by cases h), _, rfl⟩
  | object gap members => exact .inr ⟨(fun w h => by cases h), _, rfl⟩
  | string ps =>
    rw [value_string]
    rcases string_full ps rest with ⟨s, hs, hok⟩ | ⟨hnone, stop, hstop⟩
    · refine .inl ⟨.string s, ?_, by rw [hok]; rfl⟩
      intro w hw
      cases hw with
      | string hcs =>
        rw [hcs] at hs
        rw [Option.some.inj hs]
    · refine .inr ⟨?_, stop, by rw [hstop]; rfl⟩
      intro w hw
      cases hw with
      | string hcs =>
        rw [hcs] at hnone
        cases hnone
  | number n =>
    have hread : value .full 0 (Spelling.text (.number n) ++ rest) =
        (n.literal.evaluate rest).map fun x => (.number x, rest) := by
      rw [Spelling.text, ← number_full n hr]
      exact valueWith_numeral n .full _
    rw [hread]
    cases he : n.literal.evaluate rest with
    | ok x =>
      refine .inl ⟨.number x, ?_, rfl⟩
      intro w hw
      cases hw with
      | integer hk hliteral =>
        rw [hliteral, evaluate_integerLiteral hk] at he
        rw [Except.ok.inj he]
    | error stop =>
      refine .inr ⟨?_, stop, rfl⟩
      intro w hw
      cases hw with
      | integer hk hliteral =>
        rw [hliteral, evaluate_integerLiteral hk] at he
        cases he

end Dashboards.Json
