import Dashboards.Proofs.Json.RoundTrip
import Mathlib

/-!
# All ways to write JSON

A spelling is a JSON text with everything that its writer may choose: the blanks, the characters that
are escaped and how, the form of numbers, the order of members and their repetition.

* `Blank`, `blanks` : blanks between tokens (`skipSpace_blanks`);
* `Piece`, `pieces` : what stands for the characters of a string; `meaning` : the characters, unless
  half of a surrogate pair stands alone; `piecesOf` : how a string is written;
* `Numeral` : a number;
* `Slot`, `Entry`, `Spelling` : items, members and values, with `Spelling.text`;
* `Spelling.induction` : what holds of every spelling if it passes from the parts to the whole;
* `Spells` : the scalars that a spelling stands for.
-/

namespace Dashboards.Json

/-! ## Blanks -/

inductive Blank where
  | space
  | tab
  | lineFeed
  | carriageReturn

def Blank.char : Blank → Char
  | .space => ' '
  | .tab => '\t'
  | .lineFeed => '\n'
  | .carriageReturn => '\r'

def blanks (bs : List Blank) : List Char := bs.map Blank.char

theorem isSpace_of_mem_blanks {bs : List Blank} : ∀ c ∈ blanks bs, isSpace c := by
  intro c hc
  obtain ⟨b, -, rfl⟩ := List.mem_map.mp hc
  cases b <;> rfl

theorem skipSpace_blanks (bs : List Blank) (rest : List Char) : skipSpace (blanks bs ++ rest) = skipSpace rest :=
  List.dropWhile_append_of_pos isSpace_of_mem_blanks

theorem EndsNumber.blanks (bs : List Blank) {rest : List Char} (h : EndsNumber rest) :
    EndsNumber (Json.blanks bs ++ rest) := by
  cases bs with
  | nil => exact h
  | cons b bs => exact .cons _ (by cases b <;> decide)

/-! ## Strings -/

/-- A hexadecimal digit, in a small or a capital letter. -/
structure HexDigit where
  value : Fin 16
  capital : Bool

def HexDigit.char (d : HexDigit) : Char :=
  if d.capital then (hexDigit d.value).toUpper else hexDigit d.value

/-- Four hexadecimal digits. -/
structure HexCode where
  first : HexDigit
  second : HexDigit
  third : HexDigit
  fourth : HexDigit

namespace HexCode

def text (n : HexCode) : List Char := [n.first.char, n.second.char, n.third.char, n.fourth.char]

/-- The number that they form. -/
def unit (n : HexCode) : Nat :=
  ((n.first.value * 16 + n.second.value) * 16 + n.third.value) * 16 + n.fourth.value

/-- The last four digits of a number, in small letters. -/
def ofNat (n : Nat) : HexCode :=
  ⟨⟨.ofNat 16 (n / 0x1000), false⟩, ⟨.ofNat 16 (n / 0x100), false⟩, ⟨.ofNat 16 (n / 0x10), false⟩,
    ⟨.ofNat 16 n, false⟩⟩

theorem unit_ofNat {n : Nat} (h : n < 0x10000) : (ofNat n).unit = n := by
  simp only [unit, ofNat, Fin.val_ofNat]
  omega

theorem text_ofNat {n : Nat} (h : n < 0x100) : (ofNat n).text = ['0', '0', hexDigit (n / 16), hexDigit (n % 16)] := by
  have hfirst : n / 0x1000 % 16 = 0 := by omega
  have hsecond : n / 0x100 % 16 = 0 := by omega
  have hthird : n / 16 % 16 = n / 16 := by omega
  simp only [text, ofNat, HexDigit.char, Fin.val_ofNat, hfirst, hsecond, hthird]
  rfl

end HexCode

/-- The escapes of one letter. -/
inductive Shorthand where
  | quote
  | backslash
  | slash
  | backspace
  | formFeed
  | lineFeed
  | carriageReturn
  | tab

namespace Shorthand

def letter : Shorthand → Char
  | quote => '"'
  | backslash => '\\'
  | slash => '/'
  | backspace => 'b'
  | formFeed => 'f'
  | lineFeed => 'n'
  | carriageReturn => 'r'
  | tab => 't'

def char : Shorthand → Char
  | quote => '"'
  | backslash => '\\'
  | slash => '/'
  | backspace => '\x08'
  | formFeed => '\x0c'
  | lineFeed => '\n'
  | carriageReturn => '\r'
  | tab => '\t'

end Shorthand

/-- Characters that stand for themselves in a string. -/
def IsPlain (c : Char) : Prop := 0x20 ≤ c.toNat ∧ c ≠ '"' ∧ c ≠ '\\'

/-- A part of a string: a character as it is, or an escape. -/
inductive Piece where
  | plain (c : Char) (h : IsPlain c)
  | short (s : Shorthand)
  | code (n : HexCode)

def Piece.text : Piece → List Char
  | plain c _ => [c]
  | short s => ['\\', s.letter]
  | code n => '\\' :: 'u' :: n.text

/-- The inside of a string. -/
def pieces (ps : List Piece) : List Char := ps.flatMap Piece.text

/-- The characters of a string. Two codes may be a surrogate pair, and neither half of one stands
alone. -/
def meaning : List Piece → Option (List Char)
  | [] => some []
  | .plain c _ :: ps => (meaning ps).map (c :: ·)
  | .short s :: ps => (meaning ps).map (s.char :: ·)
  | .code n :: ps =>
    if isLowSurrogate n.unit then none
    else if isHighSurrogate n.unit then
      match ps with
      | .code m :: ps =>
        if isLowSurrogate m.unit then (meaning ps).map (joinSurrogates n.unit m.unit :: ·) else none
      | _ => none
    else (meaning ps).map (Char.ofNat n.unit :: ·)

theorem meaning_code (n : HexCode) (ps : List Piece) :
    meaning (.code n :: ps) =
      if isLowSurrogate n.unit then none
      else if isHighSurrogate n.unit then
        match ps with
        | .code m :: ps =>
          if isLowSurrogate m.unit then (meaning ps).map (joinSurrogates n.unit m.unit :: ·) else none
        | _ => none
      else (meaning ps).map (Char.ofNat n.unit :: ·) := by
  rw [meaning.eq_def]

/-! ## Strings as the writer spells them -/

/-- What is written of a character. -/
def pieceOf (c : Char) : Piece :=
  if hquote : c = '"' then .short .quote
  else if hbackslash : c = '\\' then .short .backslash
  else if c = '\x08' then .short .backspace
  else if c = '\x0c' then .short .formFeed
  else if c = '\n' then .short .lineFeed
  else if c = '\r' then .short .carriageReturn
  else if c = '\t' then .short .tab
  else if hcontrol : c.toNat < 0x20 then .code (.ofNat c.toNat)
  else .plain c ⟨Nat.le_of_not_lt hcontrol, hquote, hbackslash⟩

/-- A character that has no escape of one letter is written by its code, or as it is. -/
theorem escape_other {c : Char} (h1 : c ≠ '"') (h2 : c ≠ '\\') (h3 : c ≠ '\x08') (h4 : c ≠ '\x0c') (h5 : c ≠ '\n')
    (h6 : c ≠ '\r') (h7 : c ≠ '\t') :
    escape c =
      if c.toNat < 0x20 then ['\\', 'u', '0', '0', hexDigit (c.toNat / 16), hexDigit (c.toNat % 16)] else [c] := by
  unfold escape
  split <;> first | contradiction | rfl

theorem text_pieceOf (c : Char) : (pieceOf c).text = escape c := by
  unfold pieceOf
  split_ifs with h1 h2 h3 h4 h5 h6 h7 hcontrol
  · rw [h1]; rfl
  · rw [h2]; rfl
  · rw [h3]; rfl
  · rw [h4]; rfl
  · rw [h5]; rfl
  · rw [h6]; rfl
  · rw [h7]; rfl
  · rw [escape_other h1 h2 h3 h4 h5 h6 h7, if_pos hcontrol, Piece.text, HexCode.text_ofNat (by omega)]
  · rw [escape_other h1 h2 h3 h4 h5 h6 h7, if_neg hcontrol]
    rfl

theorem meaning_pieceOf (c : Char) (ps : List Piece) : meaning (pieceOf c :: ps) = (meaning ps).map (c :: ·) := by
  unfold pieceOf
  split_ifs with h1 h2 h3 h4 h5 h6 h7 hcontrol
  · rw [h1]; rfl
  · rw [h2]; rfl
  · rw [h3]; rfl
  · rw [h4]; rfl
  · rw [h5]; rfl
  · rw [h6]; rfl
  · rw [h7]; rfl
  · rw [meaning_code, HexCode.unit_ofNat (by omega), isLowSurrogate_of_lt hcontrol, isHighSurrogate_of_lt hcontrol, Char.ofNat_toNat]
    rfl
  · rfl

/-- What is written of a string. -/
def piecesOf (s : String) : List Piece := s.toList.map pieceOf

theorem pieces_piecesOf (s : String) : pieces (piecesOf s) = s.toList.flatMap escape := by
  rw [pieces, piecesOf, List.flatMap_map]
  exact List.flatMap_congr fun c _ => text_pieceOf c

theorem meaning_piecesOf (s : String) : meaning (piecesOf s) = some s.toList := by
  unfold piecesOf
  induction s.toList with
  | nil => rfl
  | cons c cs ih => rw [List.map_cons, meaning_pieceOf, ih, Option.map_some]

/-! ## Numbers -/

/-- A number as it is written, with the letter and the sign of its exponent. -/
structure Numeral where
  literal : Literal
  wellFormed : literal.WellFormed
  capital : Bool
  /-- A positive exponent carries its sign. -/
  plus : Bool

namespace Numeral

def exponentText (n : Numeral) : List Char :=
  match n.literal.exponent with
  | none => []
  | some (negative, ds) =>
    (if n.capital then 'E' else 'e') :: ((if negative then ['-'] else if n.plus then ['+'] else []) ++ ds)

/-- The number behind its sign. -/
def unsigned (n : Numeral) : List Char :=
  n.literal.whole ++ (fractionSpelling n.literal.fraction ++ n.exponentText)

def text (n : Numeral) : List Char := (if n.literal.negative then ['-'] else []) ++ n.unsigned

end Numeral

/-! ## Values -/

/-- An item of an array between blanks. -/
structure Slot (α : Type) where
  before : List Blank
  item : α
  after : List Blank

/-- A member of an object: its key and its value, each between blanks. -/
structure Entry (α : Type) where
  before : List Blank
  key : List Piece
  beforeColon : List Blank
  afterColon : List Blank
  value : α
  after : List Blank

/-- A value as it is written. Blanks stand behind the opening bracket too, where there may be nothing
else inside. -/
inductive Spelling where
  | null
  | bool (b : Bool)
  | number (n : Numeral)
  | string (ps : List Piece)
  | array (gap : List Blank) (items : List (Slot Spelling))
  | object (gap : List Blank) (members : List (Entry Spelling))

mutual

def Spelling.text : Spelling → List Char
  | .null => ['n', 'u', 'l', 'l']
  | .bool true => ['t', 'r', 'u', 'e']
  | .bool false => ['f', 'a', 'l', 's', 'e']
  | .number n => n.text
  | .string ps => '"' :: (pieces ps ++ ['"'])
  | .array gap items => '[' :: (blanks gap ++ itemsText items)
  | .object gap members => '\x7b' :: (blanks gap ++ membersText members)

def slotText : Slot Spelling → List Char
  | ⟨before, v, after⟩ => blanks before ++ (v.text ++ blanks after)

def entryText : Entry Spelling → List Char
  | ⟨before, key, beforeColon, afterColon, v, after⟩ =>
    blanks before ++ '"' :: (pieces key ++ '"' :: (blanks beforeColon ++ ':' ::
      (blanks afterColon ++ (v.text ++ blanks after))))

/-- The items of an array, up to its end. -/
def itemsText : List (Slot Spelling) → List Char
  | [] => [']']
  | i :: items => slotText i ++ moreItems items

/-- The items of an array behind some item. -/
def moreItems : List (Slot Spelling) → List Char
  | [] => [']']
  | i :: items => ',' :: (slotText i ++ moreItems items)

def membersText : List (Entry Spelling) → List Char
  | [] => ['\x7d']
  | e :: members => entryText e ++ moreMembers members

def moreMembers : List (Entry Spelling) → List Char
  | [] => ['\x7d']
  | e :: members => ',' :: (entryText e ++ moreMembers members)

end

/-- What passes from the parts of a spelling to the whole holds of every spelling. -/
theorem Spelling.induction {P : Spelling → Prop} (hnull : P .null) (hbool : ∀ b, P (.bool b))
    (hnumber : ∀ n, P (.number n)) (hstring : ∀ ps, P (.string ps))
    (harray : ∀ gap items, (∀ i ∈ items, P i.item) → P (.array gap items))
    (hobject : ∀ gap members, (∀ e ∈ members, P e.value) → P (.object gap members)) : ∀ s, P s := by
  refine @Spelling.rec P (fun items => ∀ i ∈ items, P i.item) (fun members => ∀ e ∈ members, P e.value)
    (fun i => P i.item) (fun e => P e.value) hnull hbool hnumber hstring harray hobject ?_ ?_ ?_ ?_ ?_ ?_
  · exact fun _ hi => absurd hi List.not_mem_nil
  · exact fun i items hi hitems => List.forall_mem_cons.mpr ⟨hi, hitems⟩
  · exact fun _ he => absurd he List.not_mem_nil
  · exact fun e members he hmembers => List.forall_mem_cons.mpr ⟨he, hmembers⟩
  · exact fun _ _ _ hv => hv
  · exact fun _ _ _ _ _ _ hv => hv

/-! ## Meanings -/

/-- What is neither array nor object spells a value: a number if it is an integer of 64 bits, a string
if it has characters. -/
inductive Spells : Spelling → Value → Prop where
  | null : Spells .null .null
  | bool (b : Bool) : Spells (.bool b) (.bool b)
  | integer {n : Numeral} {k : Int} :
    (Number.integer k).Canonical → n.literal = integerLiteral k → Spells (.number n) (.number (.integer k))
  | string {ps : List Piece} {cs : List Char} :
    meaning ps = some cs → Spells (.string ps) (.string (String.ofList cs))

end Dashboards.Json
