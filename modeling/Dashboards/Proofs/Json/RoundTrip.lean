import Dashboards.Proofs.Json.Canonical
import Dashboards.Proofs.Json.Shortest
import Dashboards.Proofs.Json.Steps
import Mathlib

/-!
# Reading back what was written

* `insertMember_of_gt`, `foldl_insertMember` : members in their order stay as they are;
* `EndsNumber.writeItems`, `EndsNumber.writeMembers` : no number runs into what follows it;
* `value_write`, with `itemsFrom_write` and `membersFrom_write` : a canonical value reads back from
  its compact text, whatever follows;
* `parse_compact` : so does a whole text;
* `document_parse_compact` : and so does a document that was read.
-/

namespace Dashboards.Json

open Value

/-! ## Members in order -/

section SortedMembers

variable {α : Type}

/-- A member behind all others goes to the end. -/
theorem insertMember_of_gt {k : String} {v : α} {ms : List (String × α)} (h : ∀ m ∈ ms, m.1 < k) :
    insertMember k v ms = ms ++ [(k, v)] := by
  induction ms with
  | nil => rfl
  | cons m ms ih =>
    have hm := h m List.mem_cons_self
    rw [insertMember, if_neg (lt_asymm hm), if_neg (ne_of_lt hm),
      ih fun m' h' => h m' (List.mem_cons_of_mem m h')]
    rfl

theorem foldl_insertMember_append {ms seen : List (String × α)} (h : SortedKeys (seen ++ ms)) :
    ms.foldl (fun sorted (k, v) => insertMember k v sorted) seen = seen ++ ms := by
  induction ms generalizing seen with
  | nil => rw [List.append_nil, List.foldl_nil]
  | cons m ms ih =>
    obtain ⟨k, v⟩ := m
    have hlt : ∀ m ∈ seen, m.1 < k := fun m hm =>
      (List.pairwise_append.mp h).2.2 m hm (k, v) List.mem_cons_self
    have hcons : seen ++ (k, v) :: ms = seen ++ [(k, v)] ++ ms := by rw [List.append_assoc]; rfl
    rw [hcons] at h ⊢
    rw [← ih h, ← insertMember_of_gt hlt]
    rfl

theorem foldl_insertMember {ms : List (String × α)} (h : SortedKeys ms) :
    ms.foldl (fun sorted (k, v) => insertMember k v sorted) [] = ms :=
  foldl_insertMember_append h

end SortedMembers

theorem Value.ofMembers_of_sorted {ms : List (String × Value)} (h : SortedKeys ms) :
    Value.ofMembers ms = .object ms := by
  rw [Value.ofMembers, foldl_insertMember h]

/-! ## Blanks in front of a value -/

theorem skipSpace_skipSpace (text : List Char) : skipSpace (skipSpace text) = skipSpace text :=
  List.dropWhile_idempotent isSpace text

theorem valueWith_skipSpace (care : Care) (container : Char → Reader Value) (text : List Char) :
    valueWith care container (skipSpace text) = valueWith care container text := by
  rw [valueWith, valueWith, skipSpace_skipSpace]

/-- Some container reads the arrays and objects, whatever the limit. -/
theorem value_eq_valueWith (care : Care) (n : Nat) : ∃ c, value care n = valueWith care c := by
  cases n with
  | zero => exact ⟨_, rfl⟩
  | succ n => exact ⟨_, rfl⟩

theorem value_skipSpace (care : Care) (n : Nat) (text : List Char) :
    value care n (skipSpace text) = value care n text := by
  obtain ⟨c, hc⟩ := value_eq_valueWith care n
  rw [hc, valueWith_skipSpace]

/-- No value begins with the end of an array. -/
theorem skipSpace_of_value {care : Care} {n : Nat} {text rest : List Char} {v : Value}
    (h : value care n text = .ok (v, rest)) : ∃ c t, skipSpace text = c :: t ∧ c ≠ ']' := by
  obtain ⟨f, hf⟩ := value_eq_valueWith care n
  rw [hf] at h
  cases hs : skipSpace text with
  | nil =>
    rw [valueWith, hs] at h
    cases h
  | cons c t =>
    refine ⟨c, t, rfl, ?_⟩
    rintro rfl
    rw [valueWith, hs] at h
    cases h

/-! ## What follows an item -/

theorem EndsNumber.writeItems (vs : List Value) (rest : List Char) :
    EndsNumber (Value.writeItems vs rest) := by
  cases vs with
  | nil => exact .cons _ (by decide)
  | cons v vs => exact .cons _ (by decide)

theorem EndsNumber.writeMembers (ms : List (String × Value)) (rest : List Char) :
    EndsNumber (Value.writeMembers ms rest) := by
  cases ms with
  | nil => exact .cons _ (by decide)
  | cons m ms => exact .cons _ (by decide)

mutual

/-- Text is only ever put in front. -/
theorem length_le_write (v : Value) (rest : List Char) : rest.length ≤ (v.write rest).length := by
  cases v with
  | null => exact Nat.le_add_right _ 4
  | bool b =>
    cases b
    · exact Nat.le_add_right _ 5
    · exact Nat.le_add_right _ 4
  | number n =>
    rw [write, List.length_append]
    exact Nat.le_add_left _ _
  | string s =>
    rw [write, quote, List.length_cons, List.length_append, List.length_cons]
    omega
  | array vs =>
    cases vs with
    | nil => exact Nat.le_add_right _ 2
    | cons v vs =>
      have h1 := length_le_write v (writeItems vs rest)
      have h2 := length_le_writeItems vs rest
      rw [write, List.length_cons]
      omega
  | object ms =>
    cases ms with
    | nil => exact Nat.le_add_right _ 2
    | cons m ms =>
      have h1 := length_le_write m.2 (writeMembers ms rest)
      have h2 := length_le_writeMembers ms rest
      rw [write, quote, List.length_cons, List.length_cons, List.length_append, List.length_cons,
        List.length_cons]
      omega

/-- Every item needs a character. -/
theorem length_le_writeItems (vs : List Value) (rest : List Char) :
    vs.length + rest.length < (writeItems vs rest).length := by
  cases vs with
  | nil =>
    rw [writeItems, List.length_cons, List.length_nil]
    omega
  | cons v vs =>
    have h1 := length_le_write v (writeItems vs rest)
    have h2 := length_le_writeItems vs rest
    rw [writeItems, List.length_cons, List.length_cons]
    omega

theorem length_le_writeMembers (ms : List (String × Value)) (rest : List Char) :
    ms.length + rest.length < (writeMembers ms rest).length := by
  cases ms with
  | nil =>
    rw [writeMembers, List.length_cons, List.length_nil]
    omega
  | cons m ms =>
    have h1 := length_le_write m.2 (writeMembers ms rest)
    have h2 := length_le_writeMembers ms rest
    rw [writeMembers, quote, List.length_cons, List.length_cons, List.length_cons, List.length_append,
      List.length_cons, List.length_cons]
    omega

end

/-! ## Values, items and members -/

theorem objectMembers_quote {α : Type} (care : Care) (value : String → Reader α) (k : String) (rest : List Char) :
    objectMembers care value (quote k rest) =
      membersFrom care value ((quote k rest).length + 1) [] (k.toList.flatMap escape ++ '"' :: rest) :=
  objectMembers_cons (skipSpace_cons (by decide) _)

theorem listItems_of_value {n : Nat} {text rest rest' : List Char} {v : Value} {vs : List Value}
    (h : value .full n text = .ok (v, rest))
    (hi : ∀ text', value .full n text' = .ok (v, rest) →
      itemsFrom (value .full n) (text.length + 1) [] text' = .ok (vs, rest')) :
    listItems (value .full n) text = .ok (vs, rest') := by
  obtain ⟨c, t, hs, hc⟩ := skipSpace_of_value h
  rw [listItems_cons hs hc, ← hs]
  exact hi _ (by rw [value_skipSpace, h])

mutual

/-- A canonical value reads back from its text, whatever follows that cannot belong to a number. -/
theorem value_write (v : Value) (hv : v.Canonical) (n : Nat) (hn : v.depth ≤ n) (rest : List Char)
    (hr : EndsNumber rest) : value .full n (v.write rest) = .ok (v, rest) := by
  obtain ⟨f, hf⟩ := value_eq_valueWith .full n
  cases v with
  | null => rw [hf]; rfl
  | bool b => cases b <;> rw [hf] <;> rfl
  | number x =>
    rw [hf]
    cases x with
    | integer i => exact valueWith_integerText hv hr f
    | float x => exact Binary64.valueWith_text hv hr f
  | string s =>
    have hs := string_quote .full s rest
    rw [hf]
    change (string .full (s.toList.flatMap escape ++ '"' :: rest) >>= fun r => Except.ok (Value.string r.1, r.2)) = _
    rw [hs]
    rfl
  | array vs =>
    cases n with
    | zero => exact absurd hn (Nat.not_succ_le_zero _)
    | succ n =>
      cases vs with
      | nil => rfl
      | cons v vs =>
        obtain ⟨hv, hvs⟩ := hv
        have hd : max v.depth (depthOfItems vs) ≤ n := Nat.le_of_succ_le_succ hn
        have h := value_write v hv n (by omega) (writeItems vs rest) (.writeItems vs rest)
        have hlen := length_le_writeItems vs rest
        have hlen' := length_le_write v (writeItems vs rest)
        have hl := listItems_of_value h fun text' h' =>
          itemsFrom_write vs hvs n (by omega) v text' rest h' _ [] (by omega)
        change (listItems (value .full n) (v.write (writeItems vs rest)) >>= fun r =>
          Except.ok (Value.array r.1, r.2)) = _
        rw [hl]
        rfl
  | object ms =>
    cases n with
    | zero => exact absurd hn (Nat.not_succ_le_zero _)
    | succ n =>
      cases ms with
      | nil => rfl
      | cons m ms =>
        obtain ⟨k, v⟩ := m
        obtain ⟨hsorted, hv, hms⟩ := hv
        have hd : max v.depth (depthOfMembers ms) ≤ n := Nat.le_of_succ_le_succ hn
        have h := value_write v hv n (by omega) (writeMembers ms rest) (.writeMembers ms rest)
        have hlen := length_le_writeMembers ms rest
        have hlen' := length_le_write v (writeMembers ms rest)
        have hm := membersFrom_write ms hms n (by omega) k v _ rest
          (member_of_reads (string_quote .full k (':' :: v.write (writeMembers ms rest)))
            (skipSpace_cons (by decide) _) h)
          ((quote k (':' :: v.write (writeMembers ms rest))).length + 1) []
          (by rw [quote, List.length_cons, List.length_append, List.length_cons, List.length_cons]; omega)
        change (objectMembers .full (fun _ => value .full n) (quote k (':' :: v.write (writeMembers ms rest)))
          >>= fun r => Except.ok (Value.ofMembers r.1, r.2)) = _
        rw [objectMembers_quote, hm]
        change Except.ok (Value.ofMembers ((k, v) :: ms), rest) = _
        rw [Value.ofMembers_of_sorted hsorted]

theorem itemsFrom_write (vs : List Value) (hvs : CanonicalItems vs) (n : Nat) (hn : depthOfItems vs ≤ n)
    (v : Value) (text rest : List Char) (h : value .full n text = .ok (v, writeItems vs rest)) (fuel : Nat)
    (seen : List Value) (hf : vs.length < fuel) :
    itemsFrom (value .full n) fuel seen text = .ok (seen.reverse ++ v :: vs, rest) := by
  cases fuel with
  | zero => omega
  | succ fuel =>
    cases vs with
    | nil => exact itemsFrom_last h (skipSpace_cons (by decide) _)
    | cons w ws =>
      have hd : max w.depth (depthOfItems ws) ≤ n := hn
      have hw := value_write w hvs.1 n (by omega) (writeItems ws rest) (.writeItems ws rest)
      obtain ⟨c, t, hs, hc⟩ := skipSpace_of_value hw
      rw [itemsFrom_more h (skipSpace_cons (by decide) _) hs hc, ← hs,
        itemsFrom_write ws hvs.2 n (by omega) w _ rest (by rw [value_skipSpace, hw]) fuel (v :: seen)
          (by rw [List.length_cons] at hf; omega),
        List.reverse_cons, List.append_assoc]
      rfl

theorem membersFrom_write (ms : List (String × Value)) (hms : CanonicalMembers ms) (n : Nat)
    (hn : depthOfMembers ms ≤ n) (k : String) (v : Value) (text rest : List Char)
    (h : member .full (fun _ => value .full n) text = .ok ((k, v), writeMembers ms rest)) (fuel : Nat)
    (seen : List (String × Value)) (hf : ms.length < fuel) :
    membersFrom .full (fun _ => value .full n) fuel seen text = .ok (seen.reverse ++ (k, v) :: ms, rest) := by
  cases fuel with
  | zero => omega
  | succ fuel =>
    cases ms with
    | nil => exact membersFrom_last h (skipSpace_cons (by decide) _)
    | cons m ms =>
      obtain ⟨k', w⟩ := m
      have hd : max w.depth (depthOfMembers ms) ≤ n := hn
      have hw := value_write w hms.1 n (by omega) (writeMembers ms rest) (.writeMembers ms rest)
      have hm : member .full (fun _ => value .full n) _ = .ok ((k', w), writeMembers ms rest) :=
        member_of_reads (string_quote .full k' (':' :: w.write (writeMembers ms rest)))
          (skipSpace_cons (by decide) _) hw
      rw [membersFrom_more h (skipSpace_cons (by decide) _) (skipSpace_cons (by decide) _),
        membersFrom_write ms hms.2 n (by omega) k' w _ rest hm fuel ((k, v) :: seen)
          (by rw [List.length_cons] at hf; omega),
        List.reverse_cons, List.append_assoc]
      rfl

end

/-! ## Whole texts -/

theorem parse_compact {v : Value} (hv : v.Canonical) (hd : v.depth ≤ depthLimit) :
    Value.parse v.compact = .ok v := by
  have h := value_write v hv depthLimit hd [] .nil
  have hdoc : document (v.write []) = .ok v := by
    rw [document, h]
    rfl
  rw [Value.parse, compact, String.toList_ofList, hdoc]
  rfl

theorem document_parse_of_canonical {v : Value} (hc : v.Canonical) (hd : v.depth ≤ depthLimit)
    (ho : v.isObject) : Document.parse v.compact = .ok v := by
  rw [Document.parse, parse_compact hc hd]
  exact if_pos ho

/-- A document reads back from the compact text of what was read. -/
theorem document_parse_compact {text : String} {v : Value} (h : Document.parse text = .ok v) :
    Document.parse v.compact = .ok v := by
  obtain ⟨hc, hd, ho⟩ := document_parse_canonical h
  exact document_parse_of_canonical hc hd ho

end Dashboards.Json
