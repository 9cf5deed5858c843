import Dashboards.Json.Writer
import Dashboards.Proofs.Json.Literal
import Mathlib

/-!
# Single steps of reading

* `string_quote` : a quoted string reads back;
* `itemsFrom_last`, `itemsFrom_more`, `listItems_cons` : one item of an array;
* `member_of_reads` : a key, its colon and its value;
* `membersFrom_last`, `membersFrom_more`, `objectMembers_cons` : one member of an object.

Blanks may stand wherever `skipSpace` is applied.
-/

namespace Dashboards.Json

open Text (byteLength)

/-! ## Strings -/

theorem hexValue?_hexDigit : ∀ n < 16, hexValue? (hexDigit n) = some n := by decide

theorem utf8Size_hexDigit : ∀ n < 16, (hexDigit n).utf8Size = 1 := by decide

theorem isLowSurrogate_of_lt {n : Nat} (h : n < 0x20) : isLowSurrogate n = false := by
  rw [isLowSurrogate, Bool.and_eq_false_imp]
  intro hn
  have := of_decide_eq_true hn
  omega

theorem isHighSurrogate_of_lt {n : Nat} (h : n < 0x20) : isHighSurrogate n = false := by
  rw [isHighSurrogate, Bool.and_eq_false_imp]
  intro hn
  have := of_decide_eq_true hn
  omega

/-- A control character is read from the two digits of its code. -/
theorem unicodeEscape_control (care : Care) {c : Char} (hc : c.toNat < 0x20) (rest : List Char) :
    unicodeEscape care ('0' :: '0' :: hexDigit (c.toNat / 16) :: hexDigit (c.toNat % 16) :: rest) =
      .ok (c, rest) := by
  have h1 := hexValue?_hexDigit (c.toNat / 16) (by omega)
  have h2 := hexValue?_hexDigit (c.toNat % 16) (by omega)
  have s1 := utf8Size_hexDigit (c.toNat / 16) (by omega)
  have s2 := utf8Size_hexDigit (c.toNat % 16) (by omega)
  have h0 : hexValue? '0' = some 0 := by decide
  have hbytes : byteLength (('0' :: '0' :: hexDigit (c.toNat / 16) :: hexDigit (c.toNat % 16) :: rest).take 4) =
      4 := by
    simp only [List.take_succ_cons, List.take_zero, byteLength, s1, s2]
    decide
  have hunit : codeUnit ('0' :: '0' :: hexDigit (c.toNat / 16) :: hexDigit (c.toNat % 16) :: rest) =
      .ok (c.toNat, rest) := by
    rw [codeUnit, if_neg (by rw [hbytes]; decide)]
    simp only [h0, h1, h2]
    congr 2
    omega
  rw [unicodeEscape, hunit]
  change (if (decide (care = .full) && isLowSurrogate c.toNat) = true then _ else _) = _
  rw [isLowSurrogate_of_lt hc, isHighSurrogate_of_lt hc, Bool.and_false, if_neg Bool.false_ne_true,
    if_neg Bool.false_ne_true, Char.ofNat_toNat]

/-- A character reads back from what stands for it. -/
theorem stringFrom_escape (care : Care) (fuel : Nat) (seen : List Char) (c : Char) (rest : List Char) :
    stringFrom care (fuel + 1) seen (escape c ++ rest) = stringFrom care fuel (c :: seen) rest := by
  unfold escape
  split
  · rfl
  · rfl
  · rfl
  · rfl
  · rfl
  · rfl
  · rfl
  · next h1 h2 _ _ _ _ _ =>
    split_ifs with hc
    · change (escapeSequence care ('u' :: '0' :: '0' :: hexDigit (c.toNat / 16) ::
        hexDigit (c.toNat % 16) :: rest) >>= fun r => stringFrom care fuel (r.1 :: seen) r.2) = _
      change (unicodeEscape care ('0' :: '0' :: hexDigit (c.toNat / 16) ::
        hexDigit (c.toNat % 16) :: rest) >>= fun r => stringFrom care fuel (r.1 :: seen) r.2) = _
      rw [unicodeEscape_control care hc]
      rfl
    · rw [List.singleton_append, stringFrom, if_neg hc]
      · exact h1
      · exact h2

theorem stringFrom_quote (care : Care) (cs : List Char) (rest : List Char) :
    ∀ (fuel : Nat) (seen : List Char), cs.length < fuel →
      stringFrom care fuel seen (cs.flatMap escape ++ '"' :: rest) =
        .ok (String.ofList (seen.reverse ++ cs), rest) := by
  induction cs with
  | nil =>
    intro fuel seen hf
    cases fuel with
    | zero => omega
    | succ fuel =>
      rw [List.append_nil]
      rfl
  | cons c cs ih =>
    intro fuel seen hf
    cases fuel with
    | zero => omega
    | succ fuel =>
      rw [List.flatMap_cons, List.append_assoc, stringFrom_escape,
        ih fuel (c :: seen) (by rw [List.length_cons] at hf; omega), List.reverse_cons, List.append_assoc]
      rfl

theorem length_le_flatMap_escape (cs : List Char) : cs.length ≤ (cs.flatMap escape).length := by
  induction cs with
  | nil => exact Nat.le_refl _
  | cons c cs ih =>
    have : 1 ≤ (escape c).length := by
      unfold escape
      split
      all_goals first
        | exact Nat.le_add_left 1 _
        | split_ifs <;> exact Nat.le_add_left 1 _
    rw [List.flatMap_cons, List.length_append, List.length_cons]
    omega

/-- A quoted string reads back. -/
theorem string_quote (care : Care) (s : String) (rest : List Char) :
    string care (s.toList.flatMap escape ++ '"' :: rest) = .ok (s, rest) := by
  rw [string, stringFrom_quote, List.reverse_nil, List.nil_append, String.ofList_toList]
  have := length_le_flatMap_escape s.toList
  rw [List.length_append]
  omega

/-! ## Items of an array -/

section Items

variable {α : Type} {item : Reader α} {fuel : Nat} {seen : List α} {text rest rest' : List Char} {v : α} {c : Char}

theorem itemsFrom_last (h : item text = .ok (v, rest)) (hs : skipSpace rest = ']' :: rest') :
    itemsFrom item (fuel + 1) seen text = .ok (seen.reverse ++ [v], rest') := by
  simp only [itemsFrom, h, bind, Except.bind, hs, List.reverse_cons]

theorem itemsFrom_more {t : List Char} (h : item text = .ok (v, rest)) (hs : skipSpace rest = ',' :: t)
    (ht : skipSpace t = c :: rest') (hc : c ≠ ']') :
    itemsFrom item (fuel + 1) seen text = itemsFrom item fuel (v :: seen) (c :: rest') := by
  simp only [itemsFrom, h, bind, Except.bind, hs, ht]
  split
  · next heq => cases heq
  · next heq => exact absurd (List.cons.inj heq).1 hc
  · rfl

theorem listItems_cons (hs : skipSpace text = c :: rest) (hc : c ≠ ']') :
    listItems item text = itemsFrom item (text.length + 1) [] (c :: rest) := by
  simp only [listItems, hs]
  split
  · next heq => cases heq
  · next heq => exact absurd (List.cons.inj heq).1 hc
  · rfl

end Items

/-! ## Members of an object -/

section Members

variable {α : Type} {care : Care} {value : String → Reader α} {fuel : Nat} {seen : List (String × α)}
variable {text rest rest' t : List Char} {k : String} {v : α} {m : String × α}

theorem member_of_reads (hk : string care text = .ok (k, rest)) (hc : skipSpace rest = ':' :: t)
    (hv : value k t = .ok (v, rest')) : member care value text = .ok ((k, v), rest') := by
  simp only [member, colon, hk, bind, Except.bind, hc, hv]

theorem membersFrom_last (h : member care value text = .ok (m, rest))
    (hs : skipSpace rest = '\x7d' :: rest') :
    membersFrom care value (fuel + 1) seen text = .ok (seen.reverse ++ [m], rest') := by
  simp only [membersFrom, h, bind, Except.bind, hs, List.reverse_cons]

theorem membersFrom_more (h : member care value text = .ok (m, rest)) (hs : skipSpace rest = ',' :: t)
    (ht : skipSpace t = '"' :: rest') :
    membersFrom care value (fuel + 1) seen text = membersFrom care value fuel (m :: seen) rest' := by
  simp only [membersFrom, h, bind, Except.bind, hs, ht]

theorem objectMembers_cons (hs : skipSpace text = '"' :: rest) :
    objectMembers care value text = membersFrom care value (text.length + 1) [] rest := by
  simp only [objectMembers, hs]

end Members

end Dashboards.Json
