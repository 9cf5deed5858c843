import Dashboards.Json.Writer
import Dashboards.Proofs.Json.Spelling
import Dashboards.Proofs.Text.Digits
import Mathlib

/-!
# Where a name can stand in the text of a value

A name of a table or a column has an underscore, begins with `s` or `t` and has nothing that is
written between the tokens of a JSON text. So it stands in the compact text of a value only inside a
string, a key among them; and there no escape yields it but that of a tab, which ends with a `t`.

* `isInfix_append_cons`, `isInfix_append_apart`, `isInfix_append_of_head` : a name in a text of two parts;
* `TableName` : such a name; `TableName.isInfix_append_word` : it does not stand in words and numbers;
* `IsNumeric`, `isNumeric_text` : the characters that numbers are written with;
* `escape_cases`, `Shows`, `isInfix_escaped_iff` : a name in the escaped text of a string;
* `Value.HasText` : a string or a key somewhere in a value; `Value.Shown` : one of them shows the name;
* `isInfix_write_iff` : a name in the compact text of a value.
-/

namespace Dashboards.Json

open Value Text

/-! ## Names in a text of two parts -/

section Infix

variable {name : List Char} {c : Char}

theorem isPrefix_append_cons (h : c ∉ name) (front back : List Char) :
    name <+: front ++ c :: back ↔ name <+: front := by
  refine ⟨fun hbegins => ?_, fun hbegins => hbegins.trans (List.prefix_append _ _)⟩
  have hbefore : front ++ [c] <+: front ++ c :: back := ⟨back, by simp⟩
  rcases List.prefix_or_prefix_of_prefix hbegins hbefore with hshort | hlong
  · rcases List.prefix_concat_iff.mp hshort with rfl | hfront
    · exact absurd (by simp) h
    · exact hfront
  · exact absurd (hlong.subset (by simp)) h

/-- A character that the name does not have separates what stands before it from what follows. -/
theorem isInfix_append_cons (h : c ∉ name) (front back : List Char) :
    name <:+: front ++ c :: back ↔ name <:+: front ∨ name <:+: back := by
  induction front with
  | nil =>
    rw [List.nil_append, List.infix_cons_iff, List.infix_nil]
    refine or_congr_left ?_
    rw [← List.nil_append (c :: back), isPrefix_append_cons h, List.prefix_nil]
  | cons d front ih =>
    rw [List.cons_append, List.infix_cons_iff, ih, List.infix_cons_iff, ← List.cons_append, isPrefix_append_cons h,
      or_assoc]

/-- What the name does not begin with can be left out before a text. -/
theorem isInfix_append_of_head {front : List Char} (hname : name ≠ []) (h : ∀ c ∈ front, name.head? ≠ some c)
    (back : List Char) : name <:+: front ++ back ↔ name <:+: back := by
  induction front with
  | nil => rfl
  | cons d front ih =>
    obtain ⟨hd, hfront⟩ := List.forall_mem_cons.mp h
    obtain ⟨c, tail, rfl⟩ := List.exists_cons_of_ne_nil hname
    have hne : c ≠ d := fun heq => hd (congrArg some heq)
    rw [List.cons_append, List.infix_cons_iff, List.cons_prefix_cons, ih hfront]
    exact or_iff_right fun hbegins => hne hbegins.1

/-- The text is empty or begins with a character that the name does not have. -/
def Apart (name text : List Char) : Prop := ∀ c ∈ text.head?, c ∉ name

theorem Apart.nil : Apart name [] := fun _ hc => by cases hc

theorem Apart.cons (h : c ∉ name) (text : List Char) : Apart name (c :: text) :=
  fun _ hd => Option.some.inj hd ▸ h

theorem isInfix_append_apart (hname : name ≠ []) {front back : List Char} (h : Apart name back) :
    name <:+: front ++ back ↔ name <:+: front ∨ name <:+: back := by
  cases back with
  | nil => simp [hname]
  | cons d back =>
    have hd : d ∉ name := h d rfl
    rw [isInfix_append_cons hd, ← List.nil_append (d :: back), isInfix_append_cons hd, List.infix_nil,
      or_iff_right hname]

end Infix

/-! ## Names of tables and columns -/

/-- The characters of names. -/
def isNameChar (c : Char) : Bool := c.isAlphanum || c == '_' || c == '.'

/-- A name with an underscore that begins with `s` or `t`. -/
structure TableName (name : List Char) : Prop where
  chars : ∀ c ∈ name, isNameChar c = true
  underscore : '_' ∈ name
  head : name.head? = some 's' ∨ name.head? = some 't'

namespace TableName

variable {name : List Char}

theorem ne_nil (h : TableName name) : name ≠ [] := List.ne_nil_of_mem h.underscore

theorem notMem (h : TableName name) {c : Char} (hc : isNameChar c = false) : c ∉ name :=
  fun hmem => by rw [h.chars c hmem] at hc; cases hc

theorem not_isInfix (h : TableName name) {text : List Char} (htext : '_' ∉ text) : ¬ name <:+: text :=
  fun hwithin => htext (hwithin.subset h.underscore)

/-- Words and numbers have no underscore, so a name does not stand there. -/
theorem isInfix_append_word (h : TableName name) (word : List Char) {back : List Char} (hword : '_' ∉ word)
    (hback : Apart name back) : name <:+: word ++ back ↔ name <:+: back := by
  rw [isInfix_append_apart h.ne_nil hback]
  exact or_iff_right (h.not_isInfix hword)

theorem not_isPrefix_cons (h : TableName name) {c : Char} (hc : isNameChar c = false) (back : List Char) :
    ¬ name <+: c :: back := by
  obtain ⟨d, tail, rfl⟩ := List.exists_cons_of_ne_nil h.ne_nil
  rw [List.cons_prefix_cons]
  exact fun hbegins => h.notMem hc (hbegins.1 ▸ List.mem_cons_self)

theorem isInfix_cons (h : TableName name) {c : Char} (hc : isNameChar c = false) (back : List Char) :
    name <:+: c :: back ↔ name <:+: back := by
  rw [← List.nil_append (c :: back), isInfix_append_cons (h.notMem hc), List.infix_nil, or_iff_right h.ne_nil]

end TableName

/-! ## Numbers -/

/-- The characters that numbers are written with. -/
def IsNumeric (c : Char) : Prop := c.isDigit = true ∨ c ∈ ['-', '+', '.', 'e']

instance : DecidablePred IsNumeric := fun _ => inferInstanceAs (Decidable (_ ∨ _))

theorem isNumeric_digits (n : Nat) : ∀ c ∈ digits n, IsNumeric c := fun _ hc => .inl (isDigit_of_mem_digits hc)

theorem isNumeric_positional {ds : List Char} (h : ∀ c ∈ ds, IsNumeric c) (e : Int) :
    ∀ c ∈ positional ds e, IsNumeric c := by
  have hzero : IsNumeric '0' := by decide
  have hpoint : IsNumeric '.' := by decide
  have hzeros : ∀ n : Nat, ∀ c ∈ List.replicate n '0', IsNumeric c := fun n c hc => List.eq_of_mem_replicate hc ▸ hzero
  unfold positional
  dsimp only
  split_ifs
  · simp only [List.cons_append, List.forall_mem_cons, List.forall_mem_append]
    exact ⟨hzero, hpoint, hzeros _, h⟩
  · simp only [List.forall_mem_append, List.forall_mem_cons]
    exact ⟨⟨h, hzeros _⟩, hpoint, hzero, fun c hc => by cases hc⟩
  · simp only [List.forall_mem_append, List.forall_mem_cons]
    exact ⟨fun c hc => h c (List.mem_of_mem_take hc), hpoint, fun c hc => h c (List.mem_of_mem_drop hc)⟩

theorem isNumeric_scientific {ds : List Char} (h : ∀ c ∈ ds, IsNumeric c) (e : Int) :
    ∀ c ∈ scientific ds e, IsNumeric c := by
  have hfraction : ∀ c ∈ (if ds.length ≤ 1 then [] else '.' :: ds.drop 1), IsNumeric c := by
    split_ifs
    · exact fun c hc => by cases hc
    · exact List.forall_mem_cons.mpr ⟨by decide, fun c hc => h c (List.mem_of_mem_drop hc)⟩
  have hsign : IsNumeric (if e < 0 then '-' else '+') := by
    split_ifs <;> decide
  unfold scientific
  simp only [List.forall_mem_append, List.forall_mem_cons]
  exact ⟨⟨fun c hc => h c (List.mem_of_mem_take hc), hfraction⟩, by decide, hsign, isNumeric_digits _⟩

theorem isNumeric_text (n : Number) : ∀ c ∈ n.text, IsNumeric c := by
  have hminus : IsNumeric '-' := by decide
  cases n with
  | integer n =>
    change ∀ c ∈ integerText n, IsNumeric c
    unfold integerText
    split_ifs
    · exact List.forall_mem_cons.mpr ⟨hminus, isNumeric_digits _⟩
    · exact isNumeric_digits _
  | float x =>
    have hmagnitude : ∀ c ∈ x.magnitudeText, IsNumeric c := by
      unfold Binary64.magnitudeText
      dsimp only
      split_ifs
      · simp only [List.forall_mem_cons]
        exact ⟨by decide, by decide, by decide, fun c hc => by cases hc⟩
      · exact isNumeric_positional (isNumeric_digits _) _
      · exact isNumeric_scientific (isNumeric_digits _) _
    change ∀ c ∈ x.text, IsNumeric c
    unfold Binary64.text
    split_ifs
    · exact List.forall_mem_cons.mpr ⟨hminus, hmagnitude⟩
    · exact hmagnitude

theorem underscore_notMem_text (n : Number) : '_' ∉ n.text :=
  fun h => absurd (isNumeric_text n _ h) (by decide)

/-! ## Escaped strings -/

/-- The text of a string between its quotes. -/
def escaped (text : List Char) : List Char := text.flatMap escape

@[simp]
theorem escaped_nil : escaped [] = [] := rfl

@[simp]
theorem escaped_cons (c : Char) (text : List Char) : escaped (c :: text) = escape c ++ escaped text := rfl

theorem quote_eq (s : String) (rest : List Char) : quote s rest = '"' :: (escaped s.toList ++ '"' :: rest) := rfl

theorem hexDigit_ne {n : Nat} (h : n < 16) : hexDigit n ≠ 's' ∧ hexDigit n ≠ 't' := by
  have hall : ∀ m : Fin 16, hexDigit m ≠ 's' ∧ hexDigit m ≠ 't' := by decide +kernel
  exact hall ⟨n, h⟩

/-- A character is written as it is, or behind a backslash; but for the tab, neither `s` nor `t` follows. -/
theorem escape_cases (c : Char) :
    escape c = [c] ∨ ∃ tail, escape c = '\\' :: tail ∧ (c = '\t' ∨ 's' ∉ tail ∧ 't' ∉ tail) := by
  unfold escape
  split
  case h_7 => exact .inr ⟨_, rfl, .inl rfl⟩
  case h_8 =>
    split_ifs with hcontrol
    · have hhigh := hexDigit_ne (n := c.toNat / 16) (by omega)
      have hlow := hexDigit_ne (n := c.toNat % 16) (by omega)
      refine .inr ⟨_, rfl, .inr ⟨?_, ?_⟩⟩
      · simp [hhigh.1.symm, hlow.1.symm]
      · simp [hhigh.2.symm, hlow.2.symm]
    · exact .inl rfl
  all_goals exact .inr ⟨_, rfl, .inr (by decide)⟩

theorem escape_of_isNameChar {c : Char} (h : isNameChar c = true) : escape c = [c] := by
  have hcontrol : ¬ c.toNat < 0x20 := by
    intro hlt
    have hall : ∀ n : Fin 0x20, isNameChar (Char.ofNat n) = false := by decide +kernel
    have hc : isNameChar (Char.ofNat c.toNat) = false := hall ⟨c.toNat, hlt⟩
    rw [Char.ofNat_toNat, h] at hc
    cases hc
  unfold escape
  split
  case h_8 => exact if_neg hcontrol
  all_goals cases h

section Escaped

variable {name : List Char}

/-- A text begins with a name exactly if it does so as it is written. -/
theorem isPrefix_escaped_iff (h : ∀ c ∈ name, isNameChar c = true) (text : List Char) :
    name <+: escaped text ↔ name <+: text := by
  induction name generalizing text with
  | nil => simp only [List.nil_prefix]
  | cons c name ih =>
    obtain ⟨hc, hname⟩ := List.forall_mem_cons.mp h
    cases text with
    | nil => rfl
    | cons d text =>
      rw [escaped_cons, List.cons_prefix_cons]
      rcases escape_cases d with hd | ⟨tail, hd, -⟩
      · rw [hd, List.singleton_append, List.cons_prefix_cons, ih hname]
      · rw [hd, List.cons_append, List.cons_prefix_cons]
        refine iff_of_false (fun hboth => ?_) (fun hboth => ?_)
        · rw [hboth.1] at hc
          cases hc
        · rw [← hboth.1, escape_of_isNameChar hc, List.cons.injEq] at hd
          rw [hd.1] at hc
          cases hc

/-- The name stands in the text, or a tab stands there with all of the name behind its `t`. -/
def Shows (name text : List Char) : Prop := name <:+: text ∨ ∃ tail, name = 't' :: tail ∧ '\t' :: tail <:+: text

theorem shows_cons_iff (c : Char) (text : List Char) :
    Shows name (c :: text) ↔
      (name <+: c :: text ∨ ∃ tail, name = 't' :: tail ∧ '\t' :: tail <+: c :: text) ∨ Shows name text := by
  unfold Shows
  simp only [List.infix_cons_iff, and_or_left, exists_or]
  exact or_or_or_comm

theorem isPrefix_tab_iff (h : TableName name) (text : List Char) :
    name <+: 't' :: escaped text ↔ ∃ tail, name = 't' :: tail ∧ '\t' :: tail <+: '\t' :: text := by
  obtain ⟨c, tail, rfl⟩ := List.exists_cons_of_ne_nil h.ne_nil
  have htail : ∀ d ∈ tail, isNameChar d = true := (List.forall_mem_cons.mp h.chars).2
  simp only [List.cons_prefix_cons, List.cons.injEq, isPrefix_escaped_iff htail, true_and]
  exact ⟨fun ⟨hc, hbegins⟩ => ⟨tail, ⟨hc, rfl⟩, hbegins⟩, fun ⟨_, ⟨hc, heq⟩, hbegins⟩ => ⟨hc, heq ▸ hbegins⟩⟩

/-- Neither does a name begin in an escape other than that of a tab. -/
theorem TableName.isInfix_escape_append (h : TableName name) {tail : List Char} (hs : 's' ∉ tail) (ht : 't' ∉ tail)
    (back : List Char) : name <:+: '\\' :: tail ++ back ↔ name <:+: back := by
  refine isInfix_append_of_head h.ne_nil (List.forall_mem_cons.mpr ⟨?_, fun c hc hhead => ?_⟩) back
  · rcases h.head with hhead | hhead <;> rw [hhead] <;> decide
  · rcases h.head with hfirst | hfirst <;> rw [hfirst, Option.some.injEq] at hhead
    · exact hs (hhead ▸ hc)
    · exact ht (hhead ▸ hc)

/-- No escape hides a name in a string, and none yields it but that of a tab. -/
theorem isInfix_escaped_iff (h : TableName name) (text : List Char) : name <:+: escaped text ↔ Shows name text := by
  induction text with
  | nil => simp [Shows, h.ne_nil]
  | cons c text ih =>
    rw [escaped_cons, shows_cons_iff, ← ih]
    rcases escape_cases c with hc | ⟨tail, hc, rfl | hforeign⟩
    · have htab : c ≠ '\t' := fun heq => by subst heq; cases hc
      rw [← isPrefix_escaped_iff h.chars, escaped_cons, hc, List.singleton_append, List.infix_cons_iff]
      simp only [List.cons_prefix_cons, htab.symm, false_and, and_false, exists_false, or_false]
    · change name <:+: '\\' :: 't' :: escaped text ↔ _
      rw [h.isInfix_cons rfl, List.infix_cons_iff, ← isPrefix_tab_iff h,
        or_iff_right (h.not_isPrefix_cons rfl text)]
    · have hcontrol : isNameChar c = false := by
        by_contra hname
        rw [escape_of_isNameChar (Bool.not_eq_false _ ▸ hname), List.cons.injEq] at hc
        rw [hc.1] at hname
        exact hname rfl
      have htab : c ≠ '\t' := fun heq => by
        subst heq
        cases hc
        exact hforeign.2 (List.mem_singleton_self _)
      rw [hc, h.isInfix_escape_append hforeign.1 hforeign.2]
      simp only [h.not_isPrefix_cons hcontrol, List.cons_prefix_cons, htab.symm, false_and, and_false, exists_false,
        or_false, false_or]

end Escaped

/-! ## Values -/

/-- The string stands in the value, as a string or as the key of a member. -/
inductive Value.HasText (s : String) : Value → Prop where
  | string : HasText s (.string s)
  | item {v : Value} {items : List Value} : v ∈ items → v.HasText s → HasText s (.array items)
  | key {v : Value} {members : List (String × Value)} : (s, v) ∈ members → HasText s (.object members)
  | member {k : String} {v : Value} {members : List (String × Value)} :
    (k, v) ∈ members → v.HasText s → HasText s (.object members)

/-- The name is shown by a string of the value. -/
def Value.Shown (name : List Char) (v : Value) : Prop := ∃ s, v.HasText s ∧ Shows name s.toList

section Shown

variable {name : List Char}

theorem shown_string_iff (s : String) : (Value.string s).Shown name ↔ Shows name s.toList :=
  ⟨fun ⟨_, htext, hshows⟩ => by cases htext; exact hshows, fun hshows => ⟨s, .string, hshows⟩⟩

theorem shown_array_iff (items : List Value) : (array items).Shown name ↔ ∃ v ∈ items, v.Shown name := by
  constructor
  · rintro ⟨s, ⟨⟩ | ⟨hv, htext⟩, hshows⟩
    exact ⟨_, hv, s, htext, hshows⟩
  · rintro ⟨v, hv, s, htext, hshows⟩
    exact ⟨s, .item hv htext, hshows⟩

theorem shown_object_iff (members : List (String × Value)) :
    (object members).Shown name ↔ ∃ m ∈ members, Shows name m.1.toList ∨ m.2.Shown name := by
  constructor
  · rintro ⟨s, ⟨⟩ | ⟨⟩ | hm | ⟨hm, htext⟩, hshows⟩
    · exact ⟨_, hm, .inl hshows⟩
    · exact ⟨_, hm, .inr ⟨s, htext, hshows⟩⟩
  · rintro ⟨⟨k, v⟩, hm, hshows | ⟨s, htext, hshows⟩⟩
    · exact ⟨k, .key hm, hshows⟩
    · exact ⟨s, .member hm htext, hshows⟩

theorem not_shown {v : Value} (h : ∀ s, ¬ v.HasText s) : ¬ v.Shown name :=
  fun ⟨s, htext, _⟩ => h s htext

end Shown

/-! ## Compact text -/

section Written

variable {name : List Char} (h : TableName name)
include h

theorem isInfix_quote_iff (s : String) (rest : List Char) :
    name <:+: quote s rest ↔ Shows name s.toList ∨ name <:+: rest := by
  rw [quote_eq, h.isInfix_cons rfl, isInfix_append_cons (h.notMem rfl), isInfix_escaped_iff h]

theorem isInfix_quote_colon_iff (s : String) (rest : List Char) :
    name <:+: quote s (':' :: rest) ↔ Shows name s.toList ∨ name <:+: rest := by
  rw [isInfix_quote_iff h, h.isInfix_cons rfl]

theorem apart_writeItems (vs : List Value) (rest : List Char) : Apart name (writeItems vs rest) := by
  cases vs <;> exact .cons (h.notMem rfl) _

theorem apart_writeMembers (ms : List (String × Value)) (rest : List Char) : Apart name (writeMembers ms rest) := by
  cases ms <;> exact .cons (h.notMem rfl) _

mutual

/-- A name stands in the text of a value only where a string of the value shows it. -/
theorem isInfix_write_iff (v : Value) {rest : List Char} (hrest : Apart name rest) :
    name <:+: v.write rest ↔ v.Shown name ∨ name <:+: rest := by
  match v with
  | .null =>
    rw [or_iff_right (not_shown fun s htext => by cases htext)]
    exact h.isInfix_append_word ['n', 'u', 'l', 'l'] (by decide) hrest
  | .bool true =>
    rw [or_iff_right (not_shown fun s htext => by cases htext)]
    exact h.isInfix_append_word ['t', 'r', 'u', 'e'] (by decide) hrest
  | .bool false =>
    rw [or_iff_right (not_shown fun s htext => by cases htext)]
    exact h.isInfix_append_word ['f', 'a', 'l', 's', 'e'] (by decide) hrest
  | .number n =>
    rw [or_iff_right (not_shown fun s htext => by cases htext)]
    exact h.isInfix_append_word _ (underscore_notMem_text n) hrest
  | .string s => rw [write, isInfix_quote_iff h, shown_string_iff]
  | .array [] =>
    rw [write, h.isInfix_cons rfl, h.isInfix_cons rfl, shown_array_iff, or_iff_right]
    exact fun ⟨_, hv, _⟩ => List.not_mem_nil hv
  | .array (v :: vs) =>
    rw [write, h.isInfix_cons rfl, isInfix_write_iff v (apart_writeItems h vs rest), isInfix_writeItems_iff vs rest,
      shown_array_iff, List.exists_mem_cons_iff, or_assoc]
  | .object [] =>
    rw [write, h.isInfix_cons rfl, h.isInfix_cons rfl, shown_object_iff, or_iff_right]
    exact fun ⟨_, hm, _⟩ => List.not_mem_nil hm
  | .object ((k, v) :: ms) =>
    rw [write, h.isInfix_cons rfl, isInfix_quote_colon_iff h, isInfix_write_iff v (apart_writeMembers h ms rest),
      isInfix_writeMembers_iff ms rest, shown_object_iff, List.exists_mem_cons_iff, or_assoc, or_assoc]

theorem isInfix_writeItems_iff (vs : List Value) (rest : List Char) :
    name <:+: writeItems vs rest ↔ (∃ v ∈ vs, v.Shown name) ∨ name <:+: rest := by
  match vs with
  | [] =>
    rw [writeItems, h.isInfix_cons rfl, or_iff_right]
    exact fun ⟨_, hv, _⟩ => List.not_mem_nil hv
  | v :: vs =>
    rw [writeItems, h.isInfix_cons rfl, isInfix_write_iff v (apart_writeItems h vs rest), isInfix_writeItems_iff vs rest,
      List.exists_mem_cons_iff, or_assoc]

theorem isInfix_writeMembers_iff (ms : List (String × Value)) (rest : List Char) :
    name <:+: writeMembers ms rest ↔ (∃ m ∈ ms, Shows name m.1.toList ∨ m.2.Shown name) ∨ name <:+: rest := by
  match ms with
  | [] =>
    rw [writeMembers, h.isInfix_cons rfl, or_iff_right]
    exact fun ⟨_, hm, _⟩ => List.not_mem_nil hm
  | (k, v) :: ms =>
    rw [writeMembers, h.isInfix_cons rfl, isInfix_quote_colon_iff h, isInfix_write_iff v (apart_writeMembers h ms rest),
      isInfix_writeMembers_iff ms rest, List.exists_mem_cons_iff, or_assoc, or_assoc]

end

end Written

end Dashboards.Json
