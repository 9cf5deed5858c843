import Dashboards.Proofs.Json.Reading
import Dashboards.Proofs.Record.Envelope
import Mathlib

/-!
# Texts that hold a record

* `ObjectText` : a text that is one object, blanks around it;
* `nameOf?`, `occurrences` : the names of its members; `Describes` : they are those of a record, in any
  order and spelling, with others anywhere between them;
* `objectMembers_record`, `decode?_text` : what is read of the members, and of the text;
* `Found`, `ofMembers?_of_found` : a record is made up again from what is found of it;
* `decode?_of_describes` : a text that describes a record holds it;
* `decode?_of_repeated`, `decode?_of_missing` : with a name too many or too few, it holds none;
* `encode_describes` : what is written of a record describes it.
-/

namespace Dashboards.Record

open Json

/-- A text that is one object, between blanks. -/
structure ObjectText where
  before : List Blank
  gap : List Blank
  members : List (Entry Spelling)
  after : List Blank

def ObjectText.text (o : ObjectText) : String :=
  String.ofList (blanks o.before ++ ((Spelling.object o.gap o.members).text ++ blanks o.after))

/-! ## The members of a record -/

/-- The name of a member, unless half of a surrogate pair stands alone in its key. -/
def nameOf? (e : Entry Spelling) : Option String := (meaning e.key).map String.ofList

/-- How many members have the name. -/
def occurrences (name : String) (members : List (Entry Spelling)) : Nat :=
  members.countP fun e => nameOf? e = some name

/-- The members that may be left out, with the values that they then have. -/
def defaults : List (String × Value) :=
  [("id", .number (.integer 0)), ("created_by", .null), ("updated_by", .null), ("isLocked", .bool false)]

/-- The names of the others. -/
def requiredNames : List String := ["uuid", "created_at", "updated_at", "data"]

/-- The members under the names of a record spell its values. Each stands there once, or not at all if
its value is the default; members of other names are free. -/
structure Describes (members : List (Entry Spelling)) (r : Record) : Prop where
  named : ∀ e ∈ members, (nameOf? e).isSome
  spelled : ∀ m ∈ r.toMembers, ∀ e ∈ members, nameOf? e = some m.1 → Spells e.value m.2
  once : ∀ name ∈ fieldNames, occurrences name members ≤ 1
  complete : ∀ m ∈ r.toMembers, occurrences m.1 members = 0 → m ∈ defaults

/-! ## Reading members -/

/-- The member may be read so: under its name, and as what it spells if it is one of a record. -/
def Stands (e : Entry Spelling) (m : String × Value) : Prop :=
  nameOf? e = some m.1 ∧ (m.1 ∈ fieldNames → ∀ v, Spells e.value v → m.2 = v)

/-- The member has no name, or is one of a record and spells nothing. -/
def Unfit (e : Entry Spelling) : Prop :=
  nameOf? e = none ∨ ∃ name ∈ fieldNames, nameOf? e = some name ∧ ∀ v, ¬Spells e.value v

theorem member_record {e : Entry Spelling} {limit : Nat} (hlimit : e.value.text.length ≤ limit) {rest : List Char}
    (hr : EndsNumber rest) : Yields (Stands e) (Unfit e) rest (member .full (memberValue limit) (e.inner ++ rest)) := by
  rcases string_full e.key (e.behindKey ++ rest) with ⟨name, hname, hread⟩ | ⟨hnone, stop, hstop⟩
  · rw [member_inner hread, memberValue]
    by_cases hfield : name ∈ fieldNames
    · rw [if_pos (List.contains_iff_mem.mpr hfield), value_blanks]
      rcases value_full e.value hr with ⟨v, hv, hok⟩ | ⟨hspells, stop, hstop⟩
      · exact .inl ⟨(name, v), ⟨hname, fun _ => hv⟩, by rw [hok]; rfl⟩
      · exact .inr ⟨.inr ⟨name, hfield, hname, hspells⟩, stop, by rw [hstop]; rfl⟩
    · obtain ⟨v, hv⟩ := value_skim e.value limit rest hlimit hr
      rw [if_neg (fun h => hfield (List.contains_iff_mem.mp h)), value_blanks, hv]
      exact .inl ⟨(name, v), ⟨hname, fun h => absurd h hfield⟩, rfl⟩
  · refine .inr ⟨.inl hnone, stop, ?_⟩
    rw [Entry.inner, List.append_assoc, List.cons_append, member, hstop]
    rfl

/-- What is read of the members of a text, or that one of them is unfit. -/
theorem objectMembers_record (gap : List Blank) {members : List (Entry Spelling)} {limit : Nat}
    (hlimit : (membersText members).length ≤ limit) (rest : List Char) :
    Yields (List.Forall₂ Stands members) (∃ e ∈ members, Unfit e) rest
      (objectMembers .full (memberValue limit) (blanks gap ++ (membersText members ++ rest))) := by
  refine objectMembers_text (fun e he rest hr => member_record ?_ hr) gap rest
  have := length_value_lt he
  have := length_moreMembers_le members
  omega

/-- A text is the record of the members that are read of it, and holds none if one is unfit. -/
theorem decode?_text (o : ObjectText) :
    (∃ ms, List.Forall₂ Stands o.members ms ∧ decode? o.text = ofMembers? ms) ∨
      (∃ e ∈ o.members, Unfit e) ∧ decode? o.text = none := by
  have hbrace : skipSpace o.text.toList = '\x7b' :: (blanks o.gap ++ (membersText o.members ++ blanks o.after)) := by
    rw [ObjectText.text, String.toList_ofList, skipSpace_blanks, Spelling.text, List.cons_append, List.append_assoc]
    exact skipSpace_cons (by decide) _
  have hlimit : (membersText o.members).length ≤
      (blanks o.gap ++ (membersText o.members ++ blanks o.after)).length := by
    simp only [List.length_append]
    omega
  rcases objectMembers_record o.gap hlimit (blanks o.after) with ⟨ms, hms, hread⟩ | ⟨hunfit, stop, hstop⟩
  · refine .inl ⟨ms, hms, ?_⟩
    have hend : skipSpace (blanks o.after) = [] := by
      rw [← List.append_nil (blanks o.after), skipSpace_blanks]
      rfl
    rw [decode?, hbrace]
    simp only [hread, hend]
    rfl
  · refine .inr ⟨hunfit, ?_⟩
    rw [decode?, hbrace]
    simp only [hstop]

/-! ## Records from their members -/

section Members

variable {members : List (Entry Spelling)} {ms : List (String × Value)} {r : Record}

theorem countP_of_named (h : List.Forall₂ (fun e m => nameOf? e = some m.1) members ms) (name : String) :
    ms.countP (·.1 = name) = occurrences name members := by
  unfold occurrences
  induction h with
  | nil => rfl
  | cons hname _ ih =>
    rw [List.countP_cons, List.countP_cons, ih, hname]
    simp

theorem countP_of_stands (h : List.Forall₂ Stands members ms) (name : String) :
    ms.countP (·.1 = name) = occurrences name members :=
  countP_of_named (h.imp fun _ _ hstands => hstands.1) name

theorem lookup_of_countP {name : String} (h : ms.countP (·.1 = name) = 0) : lookup name ms = none := by
  induction ms with
  | nil => rfl
  | cons m ms ih =>
    have hne : ¬m.1 = name := by simpa using List.countP_eq_zero.mp h m List.mem_cons_self
    rw [List.countP_cons_of_neg (by simpa using hne)] at h
    rw [lookup, if_neg hne, ih h]

/-- A name is found with what it spells, if it is there at all. -/
theorem lookup_of_stands (h : List.Forall₂ Stands members ms) {name : String} (hname : name ∈ fieldNames) {v : Value}
    (hv : ∀ e ∈ members, nameOf? e = some name → Spells e.value v) :
    lookup name ms = some v ∨ lookup name ms = none ∧ occurrences name members = 0 := by
  induction h with
  | nil => exact .inr ⟨rfl, rfl⟩
  | @cons e m members ms hstands _ ih =>
    obtain ⟨k, w⟩ := m
    obtain ⟨hk, hw⟩ := hstands
    by_cases heq : k = name
    · subst heq
      obtain rfl : w = v := hw hname v (hv e List.mem_cons_self hk)
      exact .inl (if_pos rfl)
    · have hne : ¬nameOf? e = some name := by
        rw [hk]
        exact fun h => heq (Option.some.inj h)
      rw [lookup, if_neg heq, occurrences, List.countP_cons_of_neg (by simpa using hne)]
      exact ih fun e' he' => hv e' (List.mem_cons_of_mem e he')

/-- What a record says under one of its names is found, unless it is left out as the default. -/
def Found (ms : List (String × Value)) (m : String × Value) : Prop :=
  lookup m.1 ms = some m.2 ∨ lookup m.1 ms = none ∧ m ∈ defaults

theorem Describes.found (h : Describes members r) (hms : List.Forall₂ Stands members ms) :
    ∀ m ∈ r.toMembers, Found ms m := by
  intro m hm
  have hname : m.1 ∈ fieldNames := List.mem_map_of_mem hm
  exact (lookup_of_stands hms hname (h.spelled m hm)).imp_right fun hnone => ⟨hnone.1, h.complete m hm hnone.2⟩

theorem fieldOr_of_found {α : Type} {read : Value → Option α} {default a : α} {m : String × Value} (h : Found ms m)
    (hread : read m.2 = some a) (hdefault : m ∈ defaults → default = a) : fieldOr read default m.1 ms = some a := by
  rcases h with h | ⟨h, hm⟩
  · rw [fieldOr, h]
    exact hread
  · rw [fieldOr, h, hdefault hm]

theorem field?_of_found {α : Type} {read : Value → Option α} {a : α} {m : String × Value} (h : Found ms m)
    (hread : read m.2 = some a) (hrequired : m ∉ defaults) : field? read m.1 ms = some a := by
  rcases h with h | ⟨-, hm⟩
  · rw [field?, h]
    exact hread
  · exact absurd hm hrequired

theorem optional_eq_null {s : Option String} (h : optional s = .null) : s = none := by
  cases s with
  | none => rfl
  | some s => cases h

/-- A record is made up again from what is found of it. -/
theorem ofMembers?_of_found (hr : r.Storable) (hms : ∀ m ∈ r.toMembers, Found ms m)
    (honce : ∀ name ∈ fieldNames, ms.countP (·.1 = name) ≤ 1) : ofMembers? ms = some r := by
  have hnames : (fieldNames.all fun name => ms.countP (·.1 = name) ≤ 1) = true := by
    rw [List.all_eq_true]
    exact fun name hname => decide_eq_true (honce name hname)
  simp only [toMembers, List.forall_mem_cons] at hms
  obtain ⟨hid, huuid, hcreatedAt, hcreatedBy, hupdatedAt, hupdatedBy, hlocked, hdata, -⟩ := hms
  have hid' : fieldOr idOf? 0 "id" ms = some r.id :=
    fieldOr_of_found hid (idOf?_integer hr) (by simp [defaults, eq_comm])
  have huuid' : field? Value.asString? "uuid" ms = some r.uuid := field?_of_found huuid rfl (by simp [defaults])
  have hcreatedAt' : field? timeOf? "created_at" ms = some r.createdAt :=
    field?_of_found hcreatedAt (timeOf?_text hr.createdAt) (by simp [defaults])
  have hcreatedBy' : fieldOr userOf? none "created_by" ms = some r.createdBy :=
    fieldOr_of_found hcreatedBy (userOf?_optional _) fun h => (optional_eq_null (by simpa [defaults] using h)).symm
  have hupdatedAt' : field? timeOf? "updated_at" ms = some r.updatedAt :=
    field?_of_found hupdatedAt (timeOf?_text hr.updatedAt) (by simp [defaults])
  have hupdatedBy' : fieldOr userOf? none "updated_by" ms = some r.updatedBy :=
    fieldOr_of_found hupdatedBy (userOf?_optional _) fun h => (optional_eq_null (by simpa [defaults] using h)).symm
  have hlocked' : fieldOr lockOf? false "isLocked" ms = some r.locked :=
    fieldOr_of_found hlocked rfl (by simp [defaults])
  have hdata' : field? Value.asString? "data" ms = some r.data := field?_of_found hdata rfl (by simp [defaults])
  rw [ofMembers?, hnames, hid', huuid', hcreatedAt', hcreatedBy', hupdatedAt', hupdatedBy', hlocked', hdata']
  rfl

theorem ofMembers?_of_repeated {name : String} (hname : name ∈ fieldNames) (h : 1 < ms.countP (·.1 = name)) :
    ofMembers? ms = none := by
  have hnames : (fieldNames.all fun name => ms.countP (·.1 = name) ≤ 1) = false := by
    rw [List.all_eq_false]
    exact ⟨name, hname, by simpa using h⟩
  rw [ofMembers?, hnames]
  rfl

theorem ofMembers?_of_missing {name : String} (hname : name ∈ requiredNames) (h : lookup name ms = none) :
    ofMembers? ms = none := by
  have hfield : ∀ {α : Type} (read : Value → Option α), field? read name ms = none := by
    intro α read
    rw [field?, h]
    rfl
  cases hr : ofMembers? ms with
  | none => rfl
  | some r =>
    rw [ofMembers?] at hr
    simp only [Option.bind_eq_bind, Option.bind_eq_some_iff] at hr
    obtain ⟨_, -, _, -, uuid, huuid, createdAt, hcreatedAt, _, -, updatedAt, hupdatedAt, _, -, _, -, data, hdata,
      -⟩ := hr
    simp only [requiredNames, List.mem_cons, List.not_mem_nil, or_false] at hname
    rcases hname with rfl | rfl | rfl | rfl
    · rw [hfield] at huuid
      cases huuid
    · rw [hfield] at hcreatedAt
      cases hcreatedAt
    · rw [hfield] at hupdatedAt
      cases hupdatedAt
    · rw [hfield] at hdata
      cases hdata

end Members

/-! ## Texts -/

section Texts

variable {o : ObjectText} {r : Record}

theorem Describes.fit {members : List (Entry Spelling)} (h : Describes members r) {e : Entry Spelling}
    (he : e ∈ members) : ¬Unfit e := by
  rintro (hnone | ⟨name, hname, hkey, hspells⟩)
  · have hsome := h.named e he
    rw [hnone] at hsome
    cases hsome
  · obtain ⟨m, hm, rfl⟩ : ∃ m ∈ r.toMembers, m.1 = name := List.mem_map.mp hname
    exact hspells m.2 (h.spelled m hm e he hkey)

/-- A text that describes a record holds it. -/
theorem decode?_of_describes (hr : r.Storable) (h : Describes o.members r) : decode? o.text = some r := by
  rcases decode?_text o with ⟨ms, hms, hdecode⟩ | ⟨⟨e, he, hunfit⟩, -⟩
  · rw [hdecode]
    refine ofMembers?_of_found hr (h.found hms) fun name hname => ?_
    rw [countP_of_stands hms]
    exact h.once name hname
  · exact absurd hunfit (h.fit he)

/-- A text with two members under a name of the record holds none. -/
theorem decode?_of_repeated {name : String} (hname : name ∈ fieldNames) (h : 1 < occurrences name o.members) :
    decode? o.text = none := by
  rcases decode?_text o with ⟨ms, hms, hdecode⟩ | ⟨-, hdecode⟩
  · rw [hdecode]
    exact ofMembers?_of_repeated hname (by rw [countP_of_stands hms]; exact h)
  · exact hdecode

/-- Nor does a text without a member that must be there. -/
theorem decode?_of_missing {name : String} (hname : name ∈ requiredNames) (h : occurrences name o.members = 0) :
    decode? o.text = none := by
  rcases decode?_text o with ⟨ms, hms, hdecode⟩ | ⟨-, hdecode⟩
  · rw [hdecode]
    exact ofMembers?_of_missing hname (lookup_of_countP (by rw [countP_of_stands hms, h]))
  · exact hdecode

end Texts

/-! ## The text that is written -/

/-- A scalar that is written as one of its spellings. -/
def Spellable (v : Value) : Prop := ∃ s : Spelling, Spells s v ∧ ∀ rest, v.write rest = s.text ++ rest

theorem spells_piecesOf (s : String) : Spells (.string (piecesOf s)) (.string s) := by
  have h := Spells.string (meaning_piecesOf s)
  rwa [String.ofList_toList] at h

theorem spellable_string (s : String) : Spellable (.string s) := by
  refine ⟨.string (piecesOf s), spells_piecesOf s, fun rest => ?_⟩
  rw [Value.write, quote, Spelling.text, pieces_piecesOf, List.cons_append, List.append_assoc]
  rfl

theorem spellable_integer {n : Int} (h : (Number.integer n).Canonical) : Spellable (.number (.integer n)) := by
  refine ⟨.number ⟨integerLiteral n, Literal.wellFormed_integer _ _, false, false⟩, .integer h rfl, fun rest => ?_⟩
  change integerText n ++ rest = _
  rw [integerText_eq]
  rfl

theorem spellable_bool (b : Bool) : Spellable (.bool b) := by
  refine ⟨.bool b, .bool b, fun rest => ?_⟩
  cases b <;> rfl

theorem spellable_optional (s : Option String) : Spellable (optional s) := by
  cases s with
  | none => exact ⟨.null, .null, fun _ => rfl⟩
  | some s => exact spellable_string s

theorem toMembers_spellable {r : Record} (hr : r.Storable) : ∀ m ∈ r.toMembers, Spellable m.2 := by
  have hid : (Number.integer r.id).Canonical := by
    have := hr.lower
    have := hr.upper
    constructor <;> omega
  simp only [toMembers, List.forall_mem_cons]
  exact ⟨spellable_integer hid, spellable_string _, spellable_string _, spellable_optional _, spellable_string _,
    spellable_optional _, spellable_bool _, spellable_string _, fun _ hm => absurd hm List.not_mem_nil⟩

/-- The blanks that begin a line. -/
def lineBreak (level : Nat) : List Blank := .lineFeed :: List.replicate (2 * level) .space

theorem newLine_eq (level : Nat) (rest : List Char) : newLine level rest = blanks (lineBreak level) ++ rest := by
  simp [newLine, blanks, lineBreak, Blank.char]

/-- The member has this name and spells this value. -/
def Writes (e : Entry Spelling) (m : String × Value) : Prop := nameOf? e = some m.1 ∧ Spells e.value m.2

theorem depth_of_spells {s : Spelling} {v : Value} (h : Spells s v) : v.depth = 0 := by
  cases h <;> rfl

/-- A member as it is written, before the blanks that follow it. -/
def writtenEntry (k : String) (s : Spelling) (after : List Blank) : Entry Spelling :=
  ⟨lineBreak 1, piecesOf k, [], [.space], s, after⟩

theorem nameOf?_writtenEntry (k : String) (s : Spelling) (after : List Blank) :
    nameOf? (writtenEntry k s after) = some k := by
  change (meaning (piecesOf k)).map String.ofList = _
  rw [meaning_piecesOf, Option.map_some, String.ofList_toList]

theorem value_writtenEntry (k : String) (s : Spelling) (after : List Blank) : (writtenEntry k s after).value = s := rfl

theorem lines_eq {k : String} {v : Value} {s : Spelling} (hs : Spells s v)
    (htext : ∀ rest, v.write rest = s.text ++ rest) {ms : List (String × Value)} {after : List Blank}
    {rest rest' : List Char} (hrest : Value.writePrettyMembers 0 ms rest = blanks after ++ rest') :
    lines 0 k v ms rest = entryText (writtenEntry k s after) ++ rest' := by
  rw [lines, writePretty_scalar (depth_of_spells hs), hrest, htext, newLine_eq, quote, writtenEntry, entryText,
    pieces_piecesOf]
  simp only [List.append_assoc, List.cons_append]
  rfl

/-- Members on lines of their own, up to the end of the object. -/
theorem exists_members {ms : List (String × Value)} (hms : ∀ m ∈ ms, Spellable m.2) {k : String} {v : Value}
    (hv : Spellable v) :
    ∃ e members, List.Forall₂ Writes (e :: members) ((k, v) :: ms) ∧
      ∀ rest, lines 0 k v ms rest = entryText e ++ (moreMembers members ++ rest) := by
  obtain ⟨s, hs, htext⟩ := hv
  induction ms generalizing k v s with
  | nil =>
    refine ⟨writtenEntry k s (lineBreak 0), [], .cons ⟨nameOf?_writtenEntry k s _, hs⟩ .nil, fun rest => ?_⟩
    exact lines_eq hs htext (newLine_eq 0 _)
  | cons m ms ih =>
    obtain ⟨⟨s', hs', htext'⟩, hms⟩ := List.forall_mem_cons.mp hms
    obtain ⟨e, members, hwrites, hlines⟩ := ih hms s' hs' htext'
    refine ⟨writtenEntry k s [], e :: members, .cons ⟨nameOf?_writtenEntry k s _, hs⟩ hwrites, fun rest => ?_⟩
    refine lines_eq hs htext ?_
    change ',' :: lines 0 m.1 m.2 ms rest = _
    rw [hlines, moreMembers, List.cons_append, List.append_assoc]
    rfl

theorem exists_written {members : List (Entry Spelling)} {ms : List (String × Value)}
    (h : List.Forall₂ Writes members ms) {e : Entry Spelling} (he : e ∈ members) : ∃ m ∈ ms, Writes e m := by
  induction h with
  | nil => exact absurd he List.not_mem_nil
  | @cons d m members ms hwrites _ ih =>
    rcases List.mem_cons.mp he with rfl | he
    · exact ⟨m, List.mem_cons_self, hwrites⟩
    · obtain ⟨m', hm', hwrites'⟩ := ih he
      exact ⟨m', List.mem_cons_of_mem m hm', hwrites'⟩

theorem Describes.of_writes {members : List (Entry Spelling)} {r : Record}
    (h : List.Forall₂ Writes members r.toMembers) : Describes members r := by
  have hnames : r.toMembers.map Prod.fst = fieldNames := rfl
  have hcount : ∀ name, occurrences name members = fieldNames.countP (· = name) := fun name =>
    (countP_of_named (h.imp fun _ _ hwrites => hwrites.1) name).symm
  have hnodup : fieldNames.Nodup := by decide
  constructor
  · intro e he
    obtain ⟨m, -, hname, -⟩ := exists_written h he
    rw [hname]
    rfl
  · intro m hm e he hname
    obtain ⟨m', hm', hname', hspells⟩ := exists_written h he
    have hkey : m'.1 = m.1 := Option.some.inj (hname'.symm.trans hname)
    obtain rfl : m' = m := List.inj_on_of_nodup_map (by rw [hnames]; exact hnodup) hm' hm hkey
    exact hspells
  · simp only [hcount]
    decide
  · intro m hm hnone
    have hname : m.1 ∈ fieldNames := List.mem_map_of_mem hm
    rw [hcount, List.countP_eq_zero] at hnone
    exact absurd (decide_eq_true rfl) (hnone m.1 hname)

/-- What is written of a record describes it. -/
theorem encode_describes {r : Record} (hr : r.Storable) :
    ∃ o : ObjectText, o.text = r.encode ∧ Describes o.members r := by
  obtain ⟨hid, htail⟩ := List.forall_mem_cons.mp (toMembers_spellable hr)
  obtain ⟨e, members, hwrites, hlines⟩ := exists_members htail hid
  refine ⟨⟨[], [], e :: members, []⟩, ?_, .of_writes hwrites⟩
  apply String.toList_injective
  rw [encode_toList, ObjectText.text, String.toList_ofList, Spelling.text, membersText]
  have hrest := hlines []
  rw [List.append_nil] at hrest
  simp only [blanks, List.map_nil, List.nil_append, List.append_nil]
  exact congrArg _ hrest.symm

end Dashboards.Record
