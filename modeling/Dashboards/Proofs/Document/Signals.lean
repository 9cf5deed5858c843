import Dashboards.Document.Signals
import Dashboards.Proofs.Json.Occurrence
import Mathlib

/-!
# What the signals of a document tell

* `occurs_iff` : a name occurs in a text if it is a part of it;
* `tableName_of_mem_names` : all names that are looked for are names of tables and columns;
* `anyOccurs_write_iff` : they occur in the compact text of a document exactly if a string or a key of
  it shows one of them;
* `detect_reads_texts` : so for all four signals; those of logs and traces tell that a string or a key
  has the name of a table in it.
-/

namespace Dashboards.Document

open Json Json.Value

theorem occurs_iff (name text : List Char) : occurs name text = true ↔ name <:+: text := by
  induction text with
  | nil => rw [occurs, List.isEmpty_iff, List.infix_nil]
  | cons c text ih => rw [occurs, Bool.or_eq_true, List.isPrefixOf_iff_prefix, ih, List.infix_cons_iff]

/-! ## The names -/

/-- All names that are looked for. -/
def names : List String := logsTables ++ tracesTables ++ timeSeriesTables ++ tagColumns

theorem tableName_of_mem_names : ∀ name ∈ names, TableName name.toList := by
  have hchars : ∀ name ∈ names, name.toList.all isNameChar = true := by decide +kernel
  have hunderscore : ∀ name ∈ names, '_' ∈ name.toList := by decide +kernel
  have hhead : ∀ name ∈ names, name.toList.head? = some 's' ∨ name.toList.head? = some 't' := by decide +kernel
  exact fun name hname => ⟨List.all_eq_true.mp (hchars name hname), hunderscore name hname, hhead name hname⟩

/-- Names of tables begin with `s`, so a tab has no part in them. -/
theorem shows_of_mem_tables : ∀ name ∈ logsTables ++ tracesTables, ∀ text,
    Shows name.toList text ↔ name.toList <:+: text := by
  have hhead : ∀ name ∈ logsTables ++ tracesTables, name.toList.head? = some 's' := by decide +kernel
  refine fun name hname text => or_iff_left ?_
  rintro ⟨tail, heq, -⟩
  have hfirst := hhead name hname
  rw [heq] at hfirst
  cases hfirst

/-! ## Signals -/

variable (d : Value)

theorem anyOccurs_write_iff {wanted : List String} (h : wanted ⊆ names) :
    anyOccurs wanted (d.write []) = true ↔ ∃ name ∈ wanted, ∃ s, d.HasText s ∧ Shows name.toList s.toList := by
  rw [anyOccurs, List.any_eq_true]
  refine exists_congr fun name => and_congr_right fun hname => ?_
  have htable := tableName_of_mem_names name (h hname)
  rw [occurs_iff, isInfix_write_iff htable d .nil, List.infix_nil, or_iff_left htable.ne_nil, Shown]

theorem anyOccurs_tables_iff {tables : List String} (h : tables ⊆ logsTables ++ tracesTables) :
    anyOccurs tables (d.write []) = true ↔ ∃ name ∈ tables, ∃ s, d.HasText s ∧ name.toList <:+: s.toList := by
  have hnames : tables ⊆ names := List.Subset.trans h (List.subset_append_of_subset_left _ (List.subset_append_left _ _))
  rw [anyOccurs_write_iff d hnames]
  exact exists_congr fun name => and_congr_right fun hname => exists_congr fun s =>
    and_congr_right fun _ => shows_of_mem_tables name (h hname) s.toList

/-- A signal is given exactly if a string or a key of the document shows one of its names: it has the
name in it, or a tab and behind it all of the name but a `t` at its beginning. For logs and traces only
the name itself counts. -/
theorem detect_reads_texts :
    ((detect d).logs = true ↔ ∃ name ∈ logsTables, ∃ s, d.HasText s ∧ Shows name.toList s.toList) ∧
    ((detect d).traces = true ↔ ∃ name ∈ tracesTables, ∃ s, d.HasText s ∧ Shows name.toList s.toList) ∧
    ((detect d).timeSeriesV2 = true ↔ ∃ name ∈ timeSeriesTables, ∃ s, d.HasText s ∧ Shows name.toList s.toList) ∧
    ((detect d).tagAttributes = true ↔ ∃ name ∈ tagColumns, ∃ s, d.HasText s ∧ Shows name.toList s.toList) ∧
    ((detect d).logs = true ↔ ∃ name ∈ logsTables, ∃ s, d.HasText s ∧ name.toList <:+: s.toList) ∧
    ((detect d).traces = true ↔ ∃ name ∈ tracesTables, ∃ s, d.HasText s ∧ name.toList <:+: s.toList) := by
  have htables : logsTables ++ tracesTables ⊆ names :=
    List.subset_append_of_subset_left _ (List.subset_append_left _ _)
  have hlogs : logsTables ⊆ logsTables ++ tracesTables := List.subset_append_left _ _
  have htraces : tracesTables ⊆ logsTables ++ tracesTables := List.subset_append_right _ _
  refine ⟨?_, ?_, ?_, ?_, ?_, ?_⟩
  · exact anyOccurs_write_iff d (List.Subset.trans hlogs htables)
  · exact anyOccurs_write_iff d (List.Subset.trans htraces htables)
  · exact anyOccurs_write_iff d (List.subset_append_of_subset_left _ (List.subset_append_right _ _))
  · exact anyOccurs_write_iff d (List.subset_append_right _ _)
  · exact anyOccurs_tables_iff d hlogs
  · exact anyOccurs_tables_iff d htraces

/-- A tab is written as a backslash and a `t`. -/
example : (detect (.object [("query", .string "from \time_series_v2")])).timeSeriesV2 = true := by decide +kernel

end Dashboards.Document
