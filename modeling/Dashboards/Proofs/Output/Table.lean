import Dashboards.Output.Table
import Dashboards.Proofs.Analytics.MetricUsage
import Dashboards.Proofs.Text.Digits
import Dashboards.Proofs.Timestamp
import Mathlib

/-!
# Reading back a table

A table is read line by line, and each line cell by cell. It reads back as what it was made of exactly
if no cell has a tab or the end of a line in it.

* `grid` : the cells of each line of a text; `plain_of_mem_grid` : what stands in a cell;
* `Plain` : a text without tab and line end, as numbers and times are (`plain_toString`,
  `plain_offsetText`);
* `toList_rows`, `grid_rows_iff` : the text of a table, and when it reads back;
* `tables_keep_shape_iff` : lists of dashboards and indices of metrics;
* `row_is_forged` : a title that passes for a row.
-/

namespace Dashboards.Output

open Json (SortedKeys)

/-! ## Lines and cells -/

/-- The lines of a text. What stands behind the last line end is one of them unless it is empty. -/
def linesOf (text : List Char) : List (List Char) :=
  let pieces := text.splitOn '\n'
  if pieces.getLast? = some [] then pieces.dropLast else pieces

/-- The cells of each line of a text. -/
def grid (text : String) : List (List String) :=
  (linesOf text.toList).map fun line => (line.splitOn '\t').map String.ofList

/-- Text that neither ends a cell nor a line. -/
def Plain (text : String) : Prop := '\t' ∉ text.toList ∧ '\n' ∉ text.toList

section Pieces

variable {c d : Char} {s piece : List Char}

theorem notMem_of_mem_splitOn (h : piece ∈ s.splitOn c) : c ∉ piece := by
  induction s generalizing piece with
  | nil =>
    obtain rfl : piece = [] := by simpa using h
    exact List.not_mem_nil
  | cons a s ih =>
    obtain ⟨first, others, hpieces⟩ := List.exists_cons_of_ne_nil (List.splitOn_ne_nil c s)
    rw [List.splitOn_cons_eq_if_modifyHead] at h
    split_ifs at h with ha
    · rcases List.mem_cons.mp h with rfl | h
      · exact List.not_mem_nil
      · exact ih h
    · rw [hpieces, List.modifyHead_cons] at h
      rcases List.mem_cons.mp h with rfl | h
      · have hne : c ≠ a := fun h => ha (by simp [h])
        rw [List.mem_cons, not_or]
        exact ⟨hne, ih (hpieces ▸ List.mem_cons_self)⟩
      · exact ih (hpieces ▸ List.mem_cons_of_mem first h)

theorem mem_of_mem_splitOn (h : piece ∈ s.splitOn c) (hd : d ∈ piece) : d ∈ s := by
  have hwhole : [c].intercalate (s.splitOn c) = s := List.intercalate_splitOn c
  rw [← hwhole]
  generalize s.splitOn c = pieces at h
  induction pieces with
  | nil => cases h
  | cons first others ih =>
    cases others with
    | nil =>
      obtain rfl := List.mem_singleton.mp h
      rwa [List.intercalate_singleton]
    | cons second others =>
      rw [List.intercalate_cons_cons, List.mem_append, List.mem_append]
      rcases List.mem_cons.mp h with rfl | h
      · exact .inl (.inl hd)
      · exact .inr (ih h)

end Pieces

theorem mem_splitOn_of_mem_linesOf {text line : List Char} (h : line ∈ linesOf text) : line ∈ text.splitOn '\n' := by
  unfold linesOf at h
  dsimp only at h
  split_ifs at h
  · exact List.mem_of_mem_dropLast h
  · exact h

/-- No cell that is read holds what ends a cell or a line. -/
theorem plain_of_mem_grid {text : String} {cells : List String} {cell : String} (hcells : cells ∈ grid text)
    (hcell : cell ∈ cells) : Plain cell := by
  obtain ⟨line, hline, rfl⟩ := List.mem_map.mp hcells
  obtain ⟨piece, hpiece, rfl⟩ := List.mem_map.mp hcell
  unfold Plain
  rw [String.toList_ofList]
  have hend := notMem_of_mem_splitOn (mem_splitOn_of_mem_linesOf hline)
  exact ⟨notMem_of_mem_splitOn hpiece, fun h => hend (mem_of_mem_splitOn hpiece h)⟩

/-! ## Tables -/

/-- The line of a row, without its end. -/
def lineOf (cells : List String) : List Char := ['\t'].intercalate (cells.map String.toList)

theorem toList_row (cells : List String) : (row cells).toList = lineOf cells ++ ['\n'] := by
  unfold row lineOf
  rw [String.toList_append, String.toList_intercalate]
  rfl

theorem toList_rows (header : List String) (lines : List (List String)) :
    (rows header lines).toList = (header :: lines).flatMap fun cells => lineOf cells ++ ['\n'] := by
  unfold rows
  rw [String.toList_join, List.flatMap_map]
  simp only [toList_row]

theorem notMem_lineOf {cells : List String} (h : ∀ cell ∈ cells, Plain cell) : '\n' ∉ lineOf cells := by
  unfold lineOf
  induction cells with
  | nil => exact List.not_mem_nil
  | cons cell cells ih =>
    have hcell : '\n' ∉ cell.toList := (h cell List.mem_cons_self).2
    have hcells := ih fun other hother => h other (List.mem_cons_of_mem cell hother)
    cases cells with
    | nil => simpa using hcell
    | cons next cells =>
      rw [List.map_cons, List.map_cons, List.intercalate_cons_cons]
      simp only [List.mem_append, List.mem_singleton, not_or]
      exact ⟨⟨hcell, by decide⟩, hcells⟩

theorem splitOn_lines {table : List (List String)} (h : ∀ cells ∈ table, ∀ cell ∈ cells, Plain cell) :
    (table.flatMap fun cells => lineOf cells ++ ['\n']).splitOn '\n' = table.map lineOf ++ [[]] := by
  induction table with
  | nil => rfl
  | cons cells table ih =>
    have hline := notMem_lineOf (h cells List.mem_cons_self)
    rw [List.flatMap_cons, List.append_assoc, List.singleton_append, List.splitOn_append_cons_self_of_not_mem hline,
      ih fun other hother => h other (List.mem_cons_of_mem cells hother)]
    rfl

theorem cells_lineOf {cells : List String} (hne : cells ≠ []) (h : ∀ cell ∈ cells, Plain cell) :
    ((lineOf cells).splitOn '\t').map String.ofList = cells := by
  have hsplit : (lineOf cells).splitOn '\t' = cells.map String.toList := by
    apply List.splitOn_intercalate
    · intro cell hcell
      obtain ⟨text, htext, rfl⟩ := List.mem_map.mp hcell
      exact (h text htext).1
    · simpa using hne
  rw [hsplit, List.map_map]
  simp [Function.comp_def]

/-- A table reads back exactly if none of its cells holds what ends a cell or a line. -/
theorem grid_rows_iff {header : List String} {lines : List (List String)}
    (hne : ∀ cells ∈ header :: lines, cells ≠ []) :
    grid (rows header lines) = header :: lines ↔ ∀ cells ∈ header :: lines, ∀ cell ∈ cells, Plain cell := by
  constructor
  · intro hgrid cells hcells cell hcell
    rw [← hgrid] at hcells
    exact plain_of_mem_grid hcells hcell
  · intro hplain
    have hlines : linesOf (rows header lines).toList = (header :: lines).map lineOf := by
      unfold linesOf
      rw [toList_rows, splitOn_lines hplain]
      dsimp only
      rw [List.getLast?_concat, if_pos rfl, List.dropLast_concat]
    unfold grid
    rw [hlines, List.map_map]
    exact (List.map_congr_left fun cells hcells => cells_lineOf (hne cells hcells) (hplain cells hcells)).trans
      (List.map_id _)

/-! ## Numbers and times -/

/-- Digits, and the marks that stand between them in numbers and times. -/
def IsNumeral (c : Char) : Prop := c.isDigit ∨ c ∈ ['-', '+', ':', '.', 'T']

theorem plain_of_numeral {s : List Char} (h : ∀ c ∈ s, IsNumeral c) : Plain (String.ofList s) := by
  have htab : ¬IsNumeral '\t' := by
    unfold IsNumeral
    decide
  have hend : ¬IsNumeral '\n' := by
    unfold IsNumeral
    decide
  unfold Plain
  rw [String.toList_ofList]
  exact ⟨fun hmem => htab (h _ hmem), fun hmem => hend (h _ hmem)⟩

theorem isNumeral_mark {c : Char} (h : c ∈ ['-', '+', ':', '.', 'T']) : IsNumeral c := .inr h

theorem isNumeral_padded {width n : Nat} {c : Char} (h : c ∈ Text.padded width n) : IsNumeral c :=
  .inl (Text.isDigit_of_mem_padded h)

theorem isNumeral_yearText {year : Int} {c : Char} (h : c ∈ Timestamp.yearText year) : IsNumeral c := by
  unfold Timestamp.yearText at h
  split_ifs at h
  · exact isNumeral_padded h
  · rcases List.mem_cons.mp h with rfl | h
    · exact isNumeral_mark (by decide)
    · exact isNumeral_padded h
  · rcases List.mem_cons.mp h with rfl | h
    · exact isNumeral_mark (by decide)
    · exact isNumeral_padded h

theorem isNumeral_fractionText {n : Nat} {c : Char} (h : c ∈ Timestamp.fractionText n) : IsNumeral c := by
  have hpoint : ∀ {s : List Char}, (∀ c ∈ s, IsNumeral c) → c ∈ '.' :: s → IsNumeral c := by
    intro s hs hc
    rcases List.mem_cons.mp hc with rfl | hc
    · exact isNumeral_mark (by decide)
    · exact hs c hc
  unfold Timestamp.fractionText at h
  split_ifs at h
  · cases h
  · exact hpoint (fun _ => isNumeral_padded) h
  · exact hpoint (fun _ => isNumeral_padded) h
  · exact hpoint (fun _ => isNumeral_padded) h

theorem isNumeral_localText {t : Timestamp} {c : Char} (h : c ∈ t.localText) : IsNumeral c := by
  unfold Timestamp.localText at h
  simp only [List.mem_append, List.mem_cons] at h
  rcases h with h | rfl | h | rfl | h | rfl | h | rfl | h | rfl | h | h
  all_goals first
    | exact isNumeral_padded h
    | exact isNumeral_mark (by decide)
    | exact isNumeral_yearText h
    | exact isNumeral_fractionText h

theorem plain_offsetText (t : Timestamp) : Plain t.offsetText := by
  apply plain_of_numeral
  intro c hc
  rcases List.mem_append.mp hc with hc | hc
  · exact isNumeral_localText hc
  · simp only [List.mem_cons, List.not_mem_nil, or_false] at hc
    unfold IsNumeral
    rcases hc with rfl | rfl | rfl | rfl | rfl | rfl <;> decide

theorem plain_toString (n : Int) : Plain (toString n) := by
  have htext : ∀ n : Nat, ∀ c ∈ (Nat.repr n).toList, IsNumeral c := by
    intro n c hc
    rw [Nat.toList_repr] at hc
    exact .inl (Text.isDigit_of_mem_digits hc)
  rw [← String.ofList_toList (s := toString n)]
  apply plain_of_numeral
  intro c hc
  cases n with
  | ofNat n => exact htext n c hc
  | negSucc n =>
    have hneg : (toString (Int.negSucc n)).toList = '-' :: (Nat.repr (n + 1)).toList := by
      change ("-" ++ Nat.repr (n + 1)).toList = _
      rw [String.toList_append]
      rfl
    rw [hneg] at hc
    rcases List.mem_cons.mp hc with rfl | hc
    · exact isNumeral_mark (by decide)
    · exact htext _ c hc

/-! ## Lists of dashboards, and indices of metrics -/

theorem plain_missing : Plain missing := by
  unfold Plain missing
  decide

theorem plain_yesNo (b : Bool) : Plain (yesNo b) := by
  unfold Plain
  cases b <;> decide

theorem plain_getD_missing {text : Option String} : Plain (text.getD missing) ↔ ∀ t ∈ text, Plain t := by
  cases text with
  | none => simpa using plain_missing
  | some t => simp

theorem plain_listingHeader : ∀ cell ∈ listingHeader, Plain cell := by
  unfold Plain
  decide

theorem plain_usageHeader : ∀ cell ∈ usageHeader, Plain cell := by
  unfold Plain
  decide

/-- The texts of a dashboard's row that are not made here. -/
def Listing.Tame (l : Listing) : Prop := Plain l.uuid ∧ (∀ t ∈ l.title, Plain t) ∧ ∀ u ∈ l.updatedBy, Plain u

theorem Listing.plain_cells {l : Listing} : (∀ cell ∈ l.cells, Plain cell) ↔ l.Tame := by
  unfold Listing.cells Listing.Tame
  simp only [List.forall_mem_cons, plain_toString, plain_yesNo, plain_offsetText, plain_getD_missing, true_and,
    List.not_mem_nil, false_imp_iff, implies_true, and_true]

/-- The texts of a usage's row. -/
def TameUsage (metric : String) (u : Analytics.Usage) : Prop :=
  Plain metric ∧ Plain u.dashboardId ∧ Plain u.dashboardTitle ∧ Plain u.widgetId ∧ Plain u.widgetTitle

theorem plain_usageCells {metric : String} {u : Analytics.Usage} :
    (∀ cell ∈ usageCells metric u, Plain cell) ↔ TameUsage metric u := by
  unfold usageCells TameUsage
  simp only [List.forall_mem_cons, List.not_mem_nil, false_imp_iff, implies_true, and_true]

theorem grid_listings {listings : List Listing} (h : listings ≠ []) :
    grid (Result.listings listings).table = listingHeader :: listings.map Listing.cells ↔ ∀ l ∈ listings, l.Tame := by
  have htable : (Result.listings listings).table = rows listingHeader (listings.map Listing.cells) :=
    if_neg (by simpa using h)
  rw [htable, grid_rows_iff, List.forall_mem_cons, List.forall_mem_map]
  · simp only [Listing.plain_cells]
    exact and_iff_right plain_listingHeader
  · rw [List.forall_mem_cons, List.forall_mem_map]
    exact ⟨List.cons_ne_nil _ _, fun l _ => List.cons_ne_nil _ _⟩

theorem grid_metricUsage {index : Analytics.Index} (h : index ≠ []) :
    grid (Result.metricUsage index).table = usageHeader :: indexRows index ↔
      ∀ metric usages, (metric, usages) ∈ index → ∀ u ∈ usages, TameUsage metric u := by
  have htable : (Result.metricUsage index).table = rows usageHeader (indexRows index) :=
    if_neg (by simpa using h)
  have hrows : ∀ P : List String → Prop, (∀ cells ∈ indexRows index, P cells) ↔
      ∀ metric usages, (metric, usages) ∈ index → ∀ u ∈ usages, P (usageCells metric u) := by
    intro P
    unfold indexRows
    simp only [List.mem_flatMap, List.mem_map]
    constructor
    · exact fun hP metric usages hmem u hu => hP _ ⟨_, hmem, u, hu, rfl⟩
    · rintro hP _ ⟨⟨metric, usages⟩, hmem, u, hu, rfl⟩
      exact hP metric usages hmem u hu
  rw [htable, grid_rows_iff, List.forall_mem_cons, hrows]
  · simp only [plain_usageCells]
    exact and_iff_right plain_usageHeader
  · rw [List.forall_mem_cons, hrows]
    exact ⟨List.cons_ne_nil _ _, fun _ _ _ _ _ => List.cons_ne_nil _ _⟩

/-- Rows follow the metrics of an index, which ascend. -/
theorem metrics_ascend {index : Analytics.Index} (h : SortedKeys index) :
    ((indexRows index).map (·.headD "")).Pairwise (· ≤ ·) := by
  unfold indexRows
  rw [List.map_flatMap, List.pairwise_flatMap]
  constructor
  · rintro ⟨metric, usages⟩ -
    rw [List.map_map]
    exact List.pairwise_map.mpr (List.pairwise_of_forall fun _ _ => le_refl metric)
  · refine List.Pairwise.imp ?_ h
    rintro ⟨metric, usages⟩ ⟨metric', usages'⟩ hlt x hx y hy
    simp only [List.mem_map] at hx hy
    obtain ⟨_, ⟨_, -, rfl⟩, rfl⟩ := hx
    obtain ⟨_, ⟨_, -, rfl⟩, rfl⟩ := hy
    exact le_of_lt hlt

/-- A list of dashboards reads back as its header and one row of six cells for each dashboard, and an
index as its header and one row of five cells for each usage, exactly if no text of a row has a tab or
the end of a line in it. -/
theorem tables_keep_shape_iff {listings : List Listing} (hlistings : listings ≠ []) {index : Analytics.Index}
    (hindex : index ≠ []) :
    (grid (Result.listings listings).table =
        ["ID", "UUID", "Title", "Locked", "Updated At", "Updated By"] :: listings.map (fun l =>
          [toString l.id, l.uuid, l.title.getD "N/A", if l.locked then "Yes" else "No", l.updatedAt.offsetText,
            l.updatedBy.getD "N/A"]) ↔
      ∀ l ∈ listings, l.Tame) ∧
    (grid (Result.metricUsage index).table =
        ["Metric", "Dashboard", "Dashboard Title", "Widget", "Widget Title"] ::
          index.flatMap (fun (metric, usages) => usages.map fun u =>
            [metric, u.dashboardId, u.dashboardTitle, u.widgetId, u.widgetTitle]) ↔
      ∀ metric usages, (metric, usages) ∈ index → ∀ u ∈ usages, TameUsage metric u) ∧
    (SortedKeys index → ((indexRows index).map (·.headD "")).Pairwise (· ≤ ·)) :=
  ⟨grid_listings hlistings, grid_metricUsage hindex, metrics_ascend⟩

/-- A dashboard without a title or a user, and one usage of a metric. -/
def untitledListing : Listing := ⟨1, "u", none, true, .newYear, none⟩

def loadIndex : Analytics.Index := [("load", [⟨"u", "", "w", "Load"⟩])]

theorem untitled_row_reads_back :
    [untitledListing] ≠ [] ∧ loadIndex ≠ [] ∧
      grid (Result.listings [untitledListing]).table =
        [listingHeader, ["1", "u", "N/A", "Yes", "2024-01-01T00:00:00+00:00", "N/A"]] ∧
      grid (Result.metricUsage loadIndex).table = [usageHeader, ["load", "u", "", "w", "Load"]] := by
  have hlistings : [untitledListing] ≠ [] := List.cons_ne_nil _ _
  have hindex : loadIndex ≠ [] := List.cons_ne_nil _ _
  obtain ⟨hlist, husage, -⟩ := tables_keep_shape_iff hlistings hindex
  refine ⟨hlistings, hindex, (hlist.mpr ?_).trans (by decide +kernel), husage.mpr ?_⟩
  · rw [List.forall_mem_singleton]
    unfold Listing.Tame Plain
    decide
  · intro metric usages hmem u hu
    obtain ⟨rfl, rfl⟩ := Prod.mk.inj (List.mem_singleton.mp hmem)
    obtain rfl := List.mem_singleton.mp hu
    unfold TameUsage Plain
    decide

/-- A dashboard whose title passes for the rest of a row, and the beginning of another one. -/
def forging : Listing :=
  ⟨1, "u", some "t\tNo\t2024-01-01T00:00:00+00:00\tN/A\n2\tv\tt", false, .newYear, none⟩

/-- One dashboard is listed, and two rows are read. -/
theorem row_is_forged :
    grid (Result.listings [forging]).table =
      [listingHeader, ["1", "u", "t", "No", "2024-01-01T00:00:00+00:00", "N/A"],
        ["2", "v", "t", "No", "2024-01-01T00:00:00+00:00", "N/A"]] := by
  decide +kernel

end Dashboards.Output
