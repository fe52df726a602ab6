import Mathlib.Data.List.Forall2
import Microbench.Proofs.StoreContents
import Microbench.Sink.Pretty

/-!
The table at the end of a run. A line of a table is made of fields between marks, and the marks stand where the lengths
of the fields put them (`Table.ruled`). In the table of results every field is as long as its column, so all lines are
ruled in the same way, and every text is found in full between its bars (`Pretty.table_aligned`).
-/

namespace Microbench

namespace Table

/-- Fields with a mark before and behind every one. -/
def ruled (mark : Char) : List (List Char) → List Char
  | [] => [mark]
  | field :: fields => mark :: field ++ ruled mark fields

def marks (first : Nat) (lengths : List Nat) : List Nat :=
  lengths.scanl (fun mark length => mark + length + 1) first

/-- Places of the bars in a table. A column has a blank on both sides of its text. -/
def stops (widths : List Nat) : List Nat := marks 0 (widths.map (· + 2))

theorem marks_cons (first length : Nat) (lengths : List Nat) :
    marks first (length :: lengths) = first :: marks (first + length + 1) lengths := List.scanl_cons

theorem head?_stops (widths : List Nat) : (stops widths).head? = some 0 := List.head?_scanl

theorem length_stops (widths : List Nat) : (stops widths).length = widths.length + 1 := by
  rw [stops, marks, List.length_scanl, List.length_map]

theorem le_of_mem_marks {first place : Nat} {lengths : List Nat} (mem : place ∈ marks first lengths) :
    first ≤ place := by
  induction lengths generalizing first with
  | nil => exact Nat.le_of_eq (List.mem_singleton.1 mem).symm
  | cons length lengths ih =>
    rw [marks_cons, List.mem_cons] at mem
    rcases mem with rfl | later
    · exact Nat.le_refl place
    · exact Nat.le_trans (by omega) (ih later)

theorem marks_ascending (first : Nat) (lengths : List Nat) : (marks first lengths).Pairwise (· < ·) := by
  induction lengths generalizing first with
  | nil => exact List.pairwise_singleton _ _
  | cons length lengths ih =>
    rw [marks_cons]
    refine .cons (fun place later => ?_) (ih _)
    have := le_of_mem_marks later
    omega

section

variable (mark : Char) (before : List Char) (fields : List (List Char))

/-- What stands before the first mark can as well end with the first field. -/
theorem append_ruled_cons (field : List Char) :
    before ++ ruled mark (field :: fields) = (before ++ mark :: field) ++ ruled mark fields := by
  simp [ruled]

theorem length_append_cons (field : List Char) :
    (before ++ mark :: field).length = before.length + field.length + 1 := by
  rw [List.length_append, List.length_cons, Nat.add_assoc]

theorem getElem?_ruled {place : Nat} (mem : place ∈ marks before.length (fields.map List.length)) :
    (before ++ ruled mark fields)[place]? = some mark := by
  induction fields generalizing before with
  | nil =>
    obtain rfl := List.mem_singleton.1 mem
    simp [ruled]
  | cons field fields ih =>
    rw [List.map_cons, marks_cons, List.mem_cons] at mem
    rcases mem with rfl | later
    · simp [ruled]
    · rw [append_ruled_cons]
      exact ih (before ++ mark :: field) (length_append_cons mark before field ▸ later)

/-- A field is what stands between its two marks. -/
theorem between_ruled {i : Nat} {field : List Char} (at_i : fields[i]? = some field) :
    ∃ left right, (marks before.length (fields.map List.length))[i]? = some left ∧
      (marks before.length (fields.map List.length))[i + 1]? = some right ∧
      ((before ++ ruled mark fields).take right).drop (left + 1) = field := by
  induction fields generalizing before i with
  | nil => contradiction
  | cons head fields ih =>
    rw [List.map_cons, marks_cons, append_ruled_cons, ← length_append_cons mark before head]
    cases i with
    | zero =>
      obtain rfl := Option.some.inj at_i
      refine ⟨before.length, _, rfl, List.getElem?_scanl_zero, ?_⟩
      rw [List.take_left, List.drop_append]
      simp
    | succ i => exact ih (before ++ mark :: head) at_i

theorem length_append_ruled : (before ++ ruled mark fields).length =
    (fields.map List.length).foldl (fun mark length => mark + length + 1) before.length + 1 := by
  induction fields generalizing before with
  | nil => simp [ruled]
  | cons field fields ih => rw [append_ruled_cons, ih, length_append_cons, List.map_cons, List.foldl_cons]

end

structure Barred (bar : Char) (stops : List Nat) (line : String) : Prop where
  bars : ∀ stop ∈ stops, line.toList[stop]? = some bar
  ends : stops.getLast?.map (· + 1) = some line.length

/-- Each of the texts stands between the bars of its column, in full, with blanks around it. -/
structure Shows (stops : List Nat) (texts : List String) (line : String) : Prop extends Barred '|' stops line where
  texts : ∀ i text, texts[i]? = some text → ∃ left right blanks,
    stops[i]? = some left ∧ stops[i + 1]? = some right ∧
    (line.toList.take right).drop (left + 1) = ' ' :: text.toList ++ List.replicate (blanks + 1) ' '

theorem Barred.length_eq {bar bar' : Char} {stops : List Nat} {line other : String} (barred : Barred bar stops line)
    (barred' : Barred bar' stops other) : line.length = other.length :=
  Option.some.inj (barred.ends.symm.trans barred'.ends)

theorem barred_of_ruled {bar : Char} {line : String} {fields : List (List Char)} {widths : List Nat}
    (rules : line.toList = ruled bar fields) (lengths : fields.map List.length = widths.map (· + 2)) :
    Barred bar (stops widths) line where
  bars stop mem := by
    rw [stops, ← lengths] at mem
    rw [rules]
    exact getElem?_ruled bar [] fields mem
  ends := by
    have length := length_append_ruled bar [] fields
    rw [List.nil_append, ← rules, String.length_toList] at length
    rw [stops, ← lengths, marks, List.getLast?_scanl, length]
    rfl

abbrev Fits (widths : List Nat) (texts : List String) : Prop :=
  List.Forall₂ (fun width text => text.length ≤ width) widths texts

def field (width : Nat) (text : String) : List Char :=
  ' ' :: text.toList ++ List.replicate (width - text.length + 1) ' '

theorem row_cons (width : Nat) (widths : List Nat) (text : String) (texts : List String) :
    (row (width :: widths) (text :: texts)).toList = '|' :: field width text ++ (row widths texts).toList := by
  simp [row, cells, cell, padRight, field, String.join_cons, List.replicate_succ']

theorem toList_row {widths : List Nat} {texts : List String} (fits : Fits widths texts) :
    (row widths texts).toList = ruled '|' (List.zipWith field widths texts) := by
  induction fits with
  | nil => rfl
  | cons _ _ ih => rw [row_cons, ih, List.zipWith_cons_cons, ruled]

theorem lengths_of_fits {widths : List Nat} {texts : List String} (fits : Fits widths texts) :
    (List.zipWith field widths texts).map List.length = widths.map (· + 2) := by
  induction fits with
  | nil => rfl
  | @cons width text _ _ fit _ ih =>
    have length : (field width text).length = width + 2 := by
      rw [field, List.length_append, List.length_cons, List.length_replicate, String.length_toList]
      omega
    rw [List.zipWith_cons_cons, List.map_cons, List.map_cons, length, ih]

theorem shows_row {widths : List Nat} {texts : List String} (fits : Fits widths texts) :
    Shows (stops widths) texts (row widths texts) where
  toBarred := barred_of_ruled (toList_row fits) (lengths_of_fits fits)
  texts i text at_i := by
    have inside : i < widths.length := fits.length_eq ▸ (List.getElem?_eq_some_iff.1 at_i).1
    have at_i : (List.zipWith field widths texts)[i]? = some (field widths[i] text) := by
      rw [List.getElem?_zipWith, at_i, List.getElem?_eq_getElem inside]
    obtain ⟨left, right, from_left, to_right, between⟩ := between_ruled '|' [] _ at_i
    rw [lengths_of_fits fits] at from_left to_right
    rw [List.nil_append, ← toList_row fits] at between
    exact ⟨left, right, _, from_left, to_right, between⟩

theorem toList_separator (widths : List Nat) :
    (separator widths).toList = ruled '+' (widths.map fun width => List.replicate (width + 2) '-') := by
  induction widths with
  | nil => rfl
  | cons width widths ih =>
    rw [List.map_cons, ruled, ← ih]
    simp [separator, String.join_cons]

theorem barred_separator (widths : List Nat) : Barred '+' (stops widths) (separator widths) :=
  barred_of_ruled (toList_separator widths) (by simp)

def widen (widths : List Nat) (row : List String) : List Nat := List.zipWith max widths (row.map String.length)

section

variable {widths : List Nat} {texts row : List String} {rows : List (List String)}

theorem length_widen (same : row.length = widths.length) : (widen widths row).length = widths.length := by
  simp [widen, same]

theorem fits_widen (same : row.length = widths.length) : Fits (widen widths row) row := by
  induction widths generalizing row with
  | nil =>
    obtain rfl := List.eq_nil_of_length_eq_zero same
    exact .nil
  | cons width widths ih =>
    obtain ⟨text, row, rfl⟩ := List.exists_cons_of_length_eq_add_one same
    exact .cons (Nat.le_max_right _ _) (ih (Nat.succ.inj same))

theorem Fits.widen (fits : Fits widths texts) (same : row.length = widths.length) :
    Fits (widen widths row) texts := by
  induction fits generalizing row with
  | nil => exact .nil
  | cons fit _ ih =>
    obtain ⟨text, row, rfl⟩ := List.exists_cons_of_length_eq_add_one same
    exact .cons (Nat.le_trans fit (Nat.le_max_left _ _)) (ih (Nat.succ.inj same))

/-- Columns that are made wide enough for some rows, one after the other, are so for all of these, and for what has
fitted before. -/
theorem fits_foldl_widen (same : ∀ row ∈ rows, row.length = widths.length)
    (fits : Fits widths texts ∨ texts ∈ rows) : Fits (rows.foldl widen widths) texts := by
  induction rows generalizing widths with
  | nil => exact fits.resolve_right List.not_mem_nil
  | cons row rows ih =>
    have head := same row List.mem_cons_self
    -- One more row keeps the number of columns and what fits into them, and it fits itself.
    refine ih (fun other mem => ?_) ?_
    · rw [length_widen head]
      exact same other (List.mem_cons_of_mem row mem)
    · rcases fits with fits | mem
      · exact .inl (fits.widen head)
      · rcases List.mem_cons.1 mem with rfl | later
        · exact .inl (fits_widen head)
        · exact .inr later

end

end Table

namespace Pretty

/-- A heading has as many bytes as characters. -/
theorem utf8ByteSize_headings : headings.map String.utf8ByteSize = headings.map String.length := by decide

variable {results : List (Descriptor × Run)}

def rowsOf (results : List (Descriptor × Run)) : List (List String) := results.map fun (d, run) => cells d run

theorem fits_widths {texts : List String} (shown : texts = headings ∨ texts ∈ rowsOf results) :
    Table.Fits (widths (rowsOf results)) texts := by
  have same : ∀ row ∈ rowsOf results, row.length = (headings.map String.length).length := by
    intro row mem
    obtain ⟨_, -, rfl⟩ := List.mem_map.1 mem
    rfl
  rw [widths, utf8ByteSize_headings]
  refine Table.fits_foldl_widen same (shown.imp_left ?_)
  rintro rfl
  exact List.forall₂_map_left_iff.2 (List.forall₂_same.2 fun _ _ => Nat.le_refl _)

def aggregates (results : List (Descriptor × Run)) : String :=
  String.join ((results.filter fun (_, run) => run.contributions > 1).map fun (d, run) => aggregateText d run)

theorem endText_eq (nonempty : results.isEmpty = false) : endText results =
    aggregates results ++ "\n\n# Run complete.\n\n" ++ String.join ((table results).map (· ++ "\n")) := by
  simp only [endText, nonempty, Bool.false_eq_true, if_false, List.map_cons, String.join_cons, aggregates,
    String.append_assoc]
  rfl

/-- All that a writer has taken is handed on at the end of a run. -/
theorem written_runEnd (verbose : Bool) (s : Store) (w : Writer) :
    (write verbose (.runEnd s) w).written = w.all ++ (endText s.toList).toByteArray :=
  w.all_put _

/-- A run with results ends with their table. All its lines have the same length, with bars at the same places, and
every heading and every cell, whatever characters it is made of, is found in full between the bars of its column. There
is a row for every descriptor, in their order. -/
theorem table_aligned {s : Store} (nonempty : s.isEmpty = false) (verbose : Bool) (w : Writer) :
    ∃ w' separator header rows stops,
      Sink.pretty verbose (.runEnd s) w = (.ok (), w') ∧
      w'.written = w.all ++
        (aggregates s.toList ++ "\n\n# Run complete.\n\n" ++ String.join
          (([separator, header, separator] ++ rows ++ [separator]).map (· ++ "\n"))).toByteArray ∧
      (∀ line ∈ header :: rows, line.length = separator.length) ∧
      stops.length = headings.length + 1 ∧ stops.head? = some 0 ∧ stops.Pairwise (· < ·) ∧
      Table.Barred '+' stops separator ∧ Table.Shows stops headings header ∧
      List.Forall₂ (fun result row => Table.Shows stops (cells result.1 result.2) row) s.toList rows ∧
      (s.toList.map (·.1)).Pairwise Descriptor.Precedes := by
  let widths := widths (rowsOf s.toList)
  let row := Table.row widths
  have nonempty : s.toList.isEmpty = false := Std.ExtTreeMap.isEmpty_toList.trans nonempty
  have shows {texts : List String} (shown : texts = headings ∨ texts ∈ rowsOf s.toList) :
      Table.Shows (Table.stops widths) texts (row texts) :=
    Table.shows_row (fits_widths shown)
  have ruled := Table.barred_separator widths
  refine ⟨write verbose (.runEnd s) w, Table.separator widths, row headings, (rowsOf s.toList).map row,
    Table.stops widths, rfl, ?_, ?_, ?_, Table.head?_stops widths, Table.marks_ascending _ _, ruled, shows (.inl rfl),
    ?_, s.toList_ascending⟩
  · rw [written_runEnd, endText_eq nonempty]
    rfl
  · intro line mem
    rcases List.mem_cons.1 mem with rfl | below
    · exact (shows (.inl rfl)).length_eq ruled
    · obtain ⟨texts, shown, rfl⟩ := List.mem_map.1 below
      exact (shows (.inr shown)).length_eq ruled
  · rw [Table.length_stops, ← (fits_widths (.inl rfl)).length_eq]
  · rw [rowsOf, List.map_map, List.forall₂_map_right_iff, List.forall₂_same]
    exact fun result mem => shows (.inr (List.mem_map_of_mem mem))

/-- Names with a bar in them, with characters of several bytes and with a line break. -/
def named : Store := .ofList
  [(⟨"naïve | ∑", .throughput, 2⟩, ⟨⟨"sum", .seconds, .throughput 8000 2000000000⟩, ∅, [], 1⟩),
    (⟨"two\nlines", .averageTime, 1⟩, ⟨⟨"sum", .milliseconds, .averageTime 0 7⟩, ∅, [], 1⟩)]

example : table named.toList =
    ["+-----------+-------+---------+-----+-----------+-------+",
      "| Benchmark | Mode  | Threads | Cnt | Score     | Units |",
      "+-----------+-------+---------+-----+-----------+-------+",
      "| naïve | ∑ | thrpt | 2       | 0   | 4000.000  | ops/s |",
      "| two\nlines | avgt  | 1       | 0   | undefined | ms/op |",
      "+-----------+-------+---------+-----+-----------+-------+"] := by
  decide +kernel

theorem table_aligned_of_named : named.isEmpty = false ∧ ∃ w separator header rows stops,
    Sink.pretty false (.runEnd named) {} = (.ok (), w) ∧
    w.written = (aggregates named.toList ++ "\n\n# Run complete.\n\n" ++ String.join
      (([separator, header, separator] ++ rows ++ [separator]).map (· ++ "\n"))).toByteArray ∧
    rows.length = 2 ∧ (∀ line ∈ header :: rows, line.length = separator.length) ∧
    List.Forall₂ (fun result row => Table.Shows stops (cells result.1 result.2) row) named.toList rows := by
  have nonempty : named.isEmpty = false := by decide +kernel
  obtain ⟨w, separator, header, rows, stops, told, written, lengths, -, -, -, -, -, shown, -⟩ :=
    table_aligned nonempty false {}
  refine ⟨nonempty, w, separator, header, rows, stops, told, ?_, ?_, lengths, shown⟩
  · rw [written]
    exact ByteArray.empty_append
  · rw [← shown.length_eq]
    decide +kernel

end Pretty

end Microbench
