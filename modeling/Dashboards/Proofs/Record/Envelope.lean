import Dashboards.Proofs.Json.RoundTrip
import Dashboards.Proofs.Timestamp
import Dashboards.Record.Envelope
import Mathlib

/-!
# Reading back a stored record

* `Record.Storable` : an identifier of 64 bits and times of the calendar;
* `Scalar` : a member that a record's object may have; `membersFrom_writePretty` : such members read
  back from indented lines;
* `ofMembers?_toMembers` : the members of a record make it up again;
* `decode?_encode` : a storable record reads back from its text;
* `storable_of_decode?` : and a record that was read is storable;
* `decode?_encode_eq_none` : an identifier of more than 64 bits cannot be read back.
-/

namespace Dashboards.Record

open Json

/-- What the text of a record can hold. -/
structure Storable (r : Record) : Prop where
  lower : -9223372036854775808 ≤ r.id
  upper : r.id ≤ 9223372036854775807
  createdAt : r.createdAt.isValid
  updatedAt : r.updatedAt.isValid

/-! ## Members on lines of their own -/

/-- A member under one of the record's names, neither array nor object. -/
def Scalar (m : String × Value) : Prop := m.1 ∈ fieldNames ∧ m.2.Canonical ∧ m.2.depth = 0

theorem skipSpace_newLine (level : Nat) (rest : List Char) :
    skipSpace (newLine level rest) = skipSpace rest := by
  have hblanks : ∀ c ∈ '\n' :: List.replicate (2 * level) ' ', isSpace c := by
    intro c hc
    rcases List.mem_cons.mp hc with rfl | hc
    · rfl
    · rw [List.eq_of_mem_replicate hc]
      rfl
  rw [skipSpace, newLine, ← List.cons_append, List.dropWhile_append_of_pos hblanks]
  rfl

theorem writePretty_scalar {v : Value} (h : v.depth = 0) (level : Nat) (rest : List Char) :
    v.writePretty level rest = v.write rest := by
  cases v with
  | array vs => cases h
  | object ms => cases h
  | _ => rfl

theorem EndsNumber.writePrettyMembers (level : Nat) (ms : List (String × Value)) (rest : List Char) :
    EndsNumber (Value.writePrettyMembers level ms rest) := by
  cases ms with
  | nil => exact .cons _ (by decide)
  | cons m ms => exact .cons _ (by decide)

theorem length_le_writePrettyMembers {ms : List (String × Value)} (hms : ∀ m ∈ ms, Scalar m)
    (level : Nat) (rest : List Char) : ms.length < (Value.writePrettyMembers level ms rest).length := by
  induction ms with
  | nil => exact Nat.zero_lt_succ _
  | cons m ms ih =>
    obtain ⟨k, v⟩ := m
    have hv := (hms (k, v) List.mem_cons_self).2.2
    have hlen := ih fun m hm => hms m (List.mem_cons_of_mem _ hm)
    have hle := length_le_write v (Value.writePrettyMembers level ms rest)
    rw [Value.writePrettyMembers, writePretty_scalar hv]
    simp only [newLine, quote, List.length_cons, List.length_append]
    omega

theorem memberValue_space {k : String} (hk : k ∈ fieldNames) (limit : Nat) (text : List Char) :
    memberValue limit k (' ' :: text) = value .full 0 text := by
  rw [memberValue, if_pos (List.contains_iff_mem.mpr hk), ← value_skipSpace]
  exact value_skipSpace .full 0 text

/-- A member whose key was begun reads back. -/
theorem member_writePretty {k : String} {v : Value} (h : Scalar (k, v)) (limit level : Nat) {rest : List Char}
    (hr : EndsNumber rest) :
    member .full (memberValue limit)
      (k.toList.flatMap escape ++ '"' :: ':' :: ' ' :: v.writePretty level rest) = .ok ((k, v), rest) := by
  obtain ⟨hk, hv, hd⟩ := h
  have hread : memberValue limit k (' ' :: v.write rest) = .ok (v, rest) := by
    rw [memberValue_space hk, value_write v hv 0 (le_of_eq hd) rest hr]
  rw [writePretty_scalar hd]
  exact member_of_reads (string_quote .full k _) (skipSpace_cons (by decide) _) hread

/-- Members on indented lines read back, up to the end of the object. -/
theorem membersFrom_writePretty (limit level : Nat) {ms : List (String × Value)} (hms : ∀ m ∈ ms, Scalar m) :
    ∀ (k : String) (v : Value) (text rest : List Char),
      member .full (memberValue limit) text = .ok ((k, v), Value.writePrettyMembers level ms rest) →
      ∀ (fuel : Nat) (seen : List (String × Value)), ms.length < fuel →
        membersFrom .full (memberValue limit) fuel seen text = .ok (seen.reverse ++ (k, v) :: ms, rest) := by
  induction ms with
  | nil =>
    intro k v text rest h fuel seen hf
    cases fuel with
    | zero => omega
    | succ fuel =>
      refine membersFrom_last h ?_
      rw [Value.writePrettyMembers, skipSpace_newLine]
      exact skipSpace_cons (by decide) _
  | cons m ms ih =>
    intro k v text rest h fuel seen hf
    obtain ⟨k', w⟩ := m
    cases fuel with
    | zero => omega
    | succ fuel =>
      have hw := member_writePretty (hms (k', w) List.mem_cons_self) limit (level + 1)
        (EndsNumber.writePrettyMembers level ms rest)
      have hquote : ∀ t : List Char, skipSpace (newLine (level + 1) (quote k' t)) = quote k' t := by
        intro t
        rw [skipSpace_newLine]
        exact skipSpace_cons (by decide) _
      rw [membersFrom_more h (skipSpace_cons (by decide) _) (hquote _),
        ih (fun m hm => hms m (List.mem_cons_of_mem _ hm)) k' w _ rest hw fuel ((k, v) :: seen)
          (by rw [List.length_cons] at hf; omega),
        List.reverse_cons, List.append_assoc]
      rfl

section Object

variable {limit level : Nat} {k : String} {v w : Value} {ms : List (String × Value)} {rest : List Char}

/-- The inside of an object on indented lines. -/
def lines (level : Nat) (k : String) (v : Value) (ms : List (String × Value)) (rest : List Char) : List Char :=
  newLine (level + 1) (quote k (':' :: ' ' ::
    v.writePretty (level + 1) (Value.writePrettyMembers level ms rest)))

theorem objectMembers_lines : objectMembers .full (memberValue limit) (lines level k v ms rest) =
    membersFrom .full (memberValue limit) ((lines level k v ms rest).length + 1) []
      (k.toList.flatMap escape ++ '"' :: ':' :: ' ' ::
        v.writePretty (level + 1) (Value.writePrettyMembers level ms rest)) := by
  refine objectMembers_cons ?_
  rw [lines, skipSpace_newLine]
  exact skipSpace_cons (by decide) _

/-- Such members read back, the first one as whatever is read of it. -/
theorem objectMembers_writePretty (hk : k ∈ fieldNames) (hv : v.depth = 0) (hms : ∀ m ∈ ms, Scalar m)
    (hread : value .full 0 (v.write (Value.writePrettyMembers level ms rest)) =
      .ok (w, Value.writePrettyMembers level ms rest)) :
    objectMembers .full (memberValue limit) (lines level k v ms rest) = .ok ((k, w) :: ms, rest) := by
  have hlen := length_le_writePrettyMembers hms level rest
  have hle := length_le_write v (Value.writePrettyMembers level ms rest)
  rw [objectMembers_lines, membersFrom_writePretty limit level hms k w _ rest _ _ []]
  · rfl
  · simp only [lines, writePretty_scalar hv, newLine, quote, List.length_cons, List.length_append]
    omega
  · rw [writePretty_scalar hv]
    exact member_of_reads (string_quote .full k _) (skipSpace_cons (by decide) _)
      (by rw [memberValue_space hk, hread])

theorem objectMembers_writePretty_error {e : Stop} (hk : k ∈ fieldNames) (hv : v.depth = 0)
    (hread : value .full 0 (v.write (Value.writePrettyMembers level ms rest)) = .error e) :
    objectMembers .full (memberValue limit) (lines level k v ms rest) = .error e := by
  have hvalue : memberValue limit k (' ' :: v.writePretty (level + 1) (Value.writePrettyMembers level ms rest)) =
      .error e := by rw [memberValue_space hk, writePretty_scalar hv, hread]
  rw [objectMembers_lines, membersFrom, member, string_quote]
  change (memberValue limit k (' ' :: _) >>= _) >>= _ = _
  rw [hvalue]
  rfl

end Object

/-! ## The members of a record -/

theorem Scalar.of_mem {name : String} {v : Value} (h : name ∈ fieldNames) (hv : v.Canonical)
    (hd : v.depth = 0) : Scalar (name, v) := ⟨h, hv, hd⟩

theorem Scalar.optional {name : String} (h : name ∈ fieldNames) (s : Option String) :
    Scalar (name, optional s) := by
  cases s with
  | none => exact .of_mem h trivial rfl
  | some s => exact .of_mem h trivial rfl

theorem toMembers_tail_scalar (r : Record) : ∀ m ∈ r.toMembers.tail, Scalar m := by
  simp only [toMembers, List.tail_cons, List.forall_mem_cons]
  exact ⟨.of_mem (by decide) trivial rfl, .of_mem (by decide) trivial rfl, .optional (by decide) _,
    .of_mem (by decide) trivial rfl, .optional (by decide) _, .of_mem (by decide) trivial rfl,
    .of_mem (by decide) trivial rfl, fun _ hm => absurd hm List.not_mem_nil⟩

theorem userOf?_optional (s : Option String) : userOf? (optional s) = some s := by
  cases s <;> rfl

theorem timeOf?_text {t : Timestamp} (h : t.isValid) : timeOf? (.string t.text) = some t :=
  Timestamp.parse?_text h

theorem idOf?_integer {r : Record} (h : r.Storable) : idOf? (.number (.integer r.id)) = some r.id :=
  if_pos ⟨h.lower, h.upper⟩

theorem ofMembers?_toMembers {r : Record} (h : r.Storable) : ofMembers? r.toMembers = some r := by
  have hnames : (fieldNames.all fun name => r.toMembers.countP (·.1 = name) ≤ 1) = true := by
    have hcount : ∀ name, r.toMembers.countP (·.1 = name) = fieldNames.countP (· = name) := fun _ => rfl
    simp only [hcount]
    decide
  have hid : fieldOr idOf? 0 "id" r.toMembers = some r.id := idOf?_integer h
  have huuid : field? Value.asString? "uuid" r.toMembers = some r.uuid := rfl
  have hcreatedAt : field? timeOf? "created_at" r.toMembers = some r.createdAt := timeOf?_text h.createdAt
  have hcreatedBy : fieldOr userOf? none "created_by" r.toMembers = some r.createdBy := userOf?_optional _
  have hupdatedAt : field? timeOf? "updated_at" r.toMembers = some r.updatedAt := timeOf?_text h.updatedAt
  have hupdatedBy : fieldOr userOf? none "updated_by" r.toMembers = some r.updatedBy := userOf?_optional _
  have hlocked : fieldOr lockOf? false "isLocked" r.toMembers = some r.locked := rfl
  have hdata : field? Value.asString? "data" r.toMembers = some r.data := rfl
  rw [ofMembers?, hnames, hid, huuid, hcreatedAt, hcreatedBy, hupdatedAt, hupdatedBy, hlocked, hdata]
  rfl

theorem encode_toList (r : Record) :
    r.encode.toList = '\x7b' :: lines 0 "id" (.number (.integer r.id)) r.toMembers.tail [] := by
  rw [encode, Value.pretty, String.toList_ofList]
  rfl

/-- The text of a record is read by its members. -/
theorem decode?_encode_of_members {r : Record} {ms : List (String × Value)}
    (h : ∀ limit, objectMembers .full (memberValue limit)
      (lines 0 "id" (.number (.integer r.id)) r.toMembers.tail []) = .ok (ms, [])) :
    decode? r.encode = ofMembers? ms := by
  rw [decode?, encode_toList, skipSpace_cons (by decide)]
  simp only [h]
  rfl

/-- A storable record reads back from its text. -/
theorem decode?_encode {r : Record} (h : r.Storable) : decode? r.encode = some r := by
  have hid : (Number.integer r.id).Canonical := by
    have := h.lower
    have := h.upper
    constructor <;> omega
  have hread := value_write (.number (.integer r.id)) hid 0 (Nat.le_refl 0) _
    (EndsNumber.writePrettyMembers 0 r.toMembers.tail [])
  rw [decode?_encode_of_members fun limit =>
    objectMembers_writePretty (by decide) rfl (toMembers_tail_scalar r) hread]
  exact ofMembers?_toMembers h

/-! ## Records that were read -/

theorem timeOf?_isValid {v : Value} {t : Timestamp} (h : timeOf? v = some t) : t.isValid := by
  obtain ⟨s, -, hs⟩ := Option.bind_eq_some_iff.mp h
  exact Timestamp.isValid_of_parse? hs

theorem idOf?_bounds {v : Value} {n : Int} (h : idOf? v = some n) :
    -9223372036854775808 ≤ n ∧ n ≤ 9223372036854775807 := by
  unfold idOf? at h
  split at h
  · split_ifs at h with hn
    obtain rfl := Option.some.inj h
    exact hn
  · cases h

theorem storable_of_ofMembers? {ms : List (String × Value)} {r : Record} (h : ofMembers? ms = some r) :
    r.Storable := by
  rw [ofMembers?] at h
  simp only [Option.bind_eq_bind, Option.bind_eq_some_iff] at h
  obtain ⟨_, -, id, hid, uuid, -, createdAt, hcreatedAt, createdBy, -, updatedAt, hupdatedAt, updatedBy, -,
    locked, -, data, -, h⟩ := h
  obtain rfl := Option.some.inj h
  have hbounds : -9223372036854775808 ≤ id ∧ id ≤ 9223372036854775807 := by
    rw [fieldOr] at hid
    split at hid
    · exact idOf?_bounds hid
    · obtain rfl := Option.some.inj hid
      decide
  obtain ⟨v, -, hc⟩ := Option.bind_eq_some_iff.mp hcreatedAt
  obtain ⟨w, -, hu⟩ := Option.bind_eq_some_iff.mp hupdatedAt
  exact ⟨hbounds.1, hbounds.2, timeOf?_isValid hc, timeOf?_isValid hu⟩

/-- Only storable records are read. -/
theorem storable_of_decode? {text : String} {r : Record} (h : decode? text = some r) : r.Storable := by
  rw [decode?] at h
  split at h
  · split at h
    · split_ifs at h
      exact storable_of_ofMembers? h
    · cases h
  · split at h
    · split_ifs at h
      rw [ofItems?] at h
      split_ifs at h
      exact storable_of_ofMembers? h
    · cases h
  · cases h

/-! ## Identifiers of more than 64 bits -/

/-- No identifier beyond 64 bits is read as one. -/
theorem idOf?_evaluate {n : Int} (h : 9223372036854775807 < n) {rest : List Char} {x : Number}
    (hx : (integerLiteral n).evaluate rest = .ok x) : idOf? (.number x) = none := by
  have hm : (integerLiteral n).mantissa = n.natAbs := by simp [Literal.mantissa, integerLiteral]
  have hsign : (integerLiteral n).negative = false := by
    have : ¬n < 0 := by omega
    simp [integerLiteral, this]
  change (if (integerLiteral n).negative = true then _ else _) = _ at hx
  rw [if_neg (by rw [hsign]; exact Bool.false_ne_true), hm] at hx
  split_ifs at hx
  · obtain rfl := Except.ok.inj hx
    exact if_neg (by omega)
  · rw [Literal.toFloat] at hx
    split at hx
    · obtain rfl := Except.ok.inj hx
      rfl
    · cases hx

theorem ofMembers?_of_id {v : Value} {ms : List (String × Value)} (h : idOf? v = none) :
    ofMembers? (("id", v) :: ms) = none := by
  cases hr : ofMembers? (("id", v) :: ms) with
  | none => rfl
  | some r =>
    rw [ofMembers?] at hr
    obtain ⟨_, -, hr⟩ := Option.bind_eq_some_iff.mp hr
    obtain ⟨id, hid, -⟩ := Option.bind_eq_some_iff.mp hr
    change idOf? v = some id at hid
    rw [h] at hid
    cases hid

/-- A record whose identifier has more than 64 bits cannot be read. -/
theorem decode?_encode_eq_none {r : Record} (h : 9223372036854775807 < r.id) : decode? r.encode = none := by
  have hends := EndsNumber.writePrettyMembers 0 r.toMembers.tail []
  have hread := valueWith_signedSpelling_eq (Literal.wellFormed_integer (decide (r.id < 0)) r.id.natAbs) hends
    fun bracket text => .error (.before .tooDeep (bracket :: text))
  change valueWith .full _ ((integerLiteral r.id).signedSpelling ++ _) =
    ((integerLiteral r.id).evaluate _).map _ at hread
  rw [← integerText_eq] at hread
  cases he : (integerLiteral r.id).evaluate (Value.writePrettyMembers 0 r.toMembers.tail []) with
  | ok x =>
    rw [he] at hread
    rw [decode?_encode_of_members fun limit =>
      objectMembers_writePretty (by decide) rfl (toMembers_tail_scalar r) hread]
    exact ofMembers?_of_id (idOf?_evaluate h he)
  | error e =>
    rw [he] at hread
    have hmembers : ∀ limit, objectMembers .full (memberValue limit)
        (lines 0 "id" (.number (.integer r.id)) r.toMembers.tail []) = .error e := fun _ =>
      objectMembers_writePretty_error (by decide) rfl hread
    rw [decode?, encode_toList, skipSpace_cons (by decide)]
    simp only [hmembers]

end Dashboards.Record
