import Mathlib

/-!
# Reading CSV files

`parseCsvRows` reads an uploaded file of invoices: cells between commas, rows between line breaks,
and cells in quotes, in which commas and line breaks stand for themselves and a quote is written
twice. It inverts the quoting of RFC 4180 but for the rows without a text, which are left out.

## Main definitions

* `parseCsvRows` — the reader, one character after another.
* `encodeCsv` — the text of a table, with the choice of quoting cell by cell.

## Main results

* `parseCsvRows_encodeCsv` — the reader inverts every quoting.
-/

namespace Fuatilia.Intake

/-! ## The reader -/

/-- What the loop holds; `skip` stands for the extra `i += 1`, with which the next character is not
read. -/
structure CsvReader where
  rows : List (List String)
  row : List String
  field : List Char
  inQuotes : Bool
  skip : Bool

/-- A row is left out when it is one empty cell. -/
def keep (rows : List (List String)) (row : List String) : List (List String) :=
  if 1 < row.length ∨ row.head? ≠ some "" then rows ++ [row] else rows

namespace CsvReader

def pushRow (s : CsvReader) : List (List String) := keep s.rows (s.row ++ [String.ofList s.field])

def step (s : CsvReader) (c : Char) (next : Option Char) : CsvReader :=
  if s.skip then { s with skip := false }
  else if s.inQuotes then
    if c = '"' then
      if next = some '"' then { s with field := s.field ++ ['"'], skip := true }
      else { s with inQuotes := false }
    else { s with field := s.field ++ [c] }
  else if c = '"' then { s with inQuotes := true }
  else if c = ',' then { s with row := s.row ++ [String.ofList s.field], field := [] }
  else if c = '\n' ∨ c = '\r' then
    { s with rows := s.pushRow, row := [], field := [], skip := c = '\r' ∧ next = some '\n' }
  else { s with field := s.field ++ [c] }

def read (s : CsvReader) : List Char → List (List String)
  | [] => s.pushRow
  | c :: text => (s.step c text.head?).read text

end CsvReader

def parseCsvRows (text : String) : List (List String) :=
  CsvReader.read ⟨[], [], [], false, false⟩ text.toList

/-! ## Quoting -/

def isSpecial (c : Char) : Bool := c = '"' || c = ',' || c = '\r' || c = '\n'

def escape (c : Char) : List Char := if c = '"' then ['"', '"'] else [c]

/-- A cell at its place in the table, and whether the writer quotes it there. -/
structure Cell where
  quoted : Bool
  text : String

/-- The texts of the cells. -/
def texts (row : List Cell) : List String := row.map Cell.text

/-- Cells with special characters are quoted; of the others the writer quotes any it likes. -/
def encodeCell (cell : Cell) : List Char :=
  if cell.quoted || cell.text.toList.any isSpecial then
    '"' :: cell.text.toList.flatMap escape ++ ['"']
  else cell.text.toList

def encodeRow (row : List Cell) : List Char := [','].intercalate (row.map encodeCell)

/-- Rows end with CRLF, the last one only if the writer likes. -/
def encodeCsv (final : Bool) (rows : List (List Cell)) : String :=
  String.ofList (['\r', '\n'].intercalate (rows.map encodeRow) ++
    if final then ['\r', '\n'] else [])

/-! ## The reader on quoted text -/

def HasText (row : List String) : Prop := row ≠ [] ∧ row ≠ [""]
  deriving Decidable

lemma keep_cons {rows : List (List String)} (cell : String) (cells : List String) :
    keep rows (cell :: cells) = rows ++ [cell :: cells].filter (HasText ·) := by
  by_cases hcells : cells = [] <;> by_cases hcell : cell = "" <;>
    simp [keep, HasText, hcells, hcell, List.length_pos_iff]

namespace CsvReader

variable {rows : List (List String)} {row : List String} {field rest : List Char}

lemma read_quoted (cell : List Char) (h : rest.head? ≠ some '"') :
    read ⟨rows, row, field, true, false⟩ (cell.flatMap escape ++ '"' :: rest) =
      read ⟨rows, row, field ++ cell, false, false⟩ rest := by
  induction cell generalizing field with
  | nil => simp [read, step, h]
  | cons c cell ih =>
    by_cases hc : c = '"'
    · simpa [hc, escape, read, step] using @ih (field ++ ['"'])
    · simpa [escape, read, step, hc] using @ih (field ++ [c])

lemma read_plain {cell : List Char} (h : ∀ c ∈ cell, isSpecial c = false) :
    read ⟨rows, row, field, false, false⟩ (cell ++ rest) =
      read ⟨rows, row, field ++ cell, false, false⟩ rest := by
  induction cell generalizing field with
  | nil => simp
  | cons c cell ih =>
    obtain ⟨hc, hcell⟩ := List.forall_mem_cons.mp h
    simp only [isSpecial, Bool.or_eq_false_iff, decide_eq_false_iff_not] at hc
    simpa [read, step, hc] using @ih (field ++ [c]) hcell

lemma read_encodeCell (cell : Cell) (h : rest.head? ≠ some '"') :
    read ⟨rows, row, [], false, false⟩ (encodeCell cell ++ rest) =
      read ⟨rows, row, cell.text.toList, false, false⟩ rest := by
  rw [encodeCell]
  split_ifs with hcell
  · simpa [read, step] using @read_quoted rows row [] rest cell.text.toList h
  · rw [read_plain (by simp_all), List.nil_append]

/-- The cells of a row are read up to the rest of the text. -/
lemma read_encodeRow {f : List (List String) → List (List String)} (h : rest.head? ≠ some '"')
    (hf : ∀ row field, read ⟨rows, row, field, false, false⟩ rest =
      f (keep rows (row ++ [String.ofList field]))) (cell : Cell) (cells : List Cell) :
    read ⟨rows, row, [], false, false⟩ (encodeRow (cell :: cells) ++ rest) =
      f (keep rows (row ++ texts (cell :: cells))) := by
  induction cells generalizing cell row with
  | nil => simp [encodeRow, texts, read_encodeCell cell h, hf]
  | cons next cells ih =>
    have hrest := @ih (row ++ [cell.text]) next
    simp only [encodeRow, List.map_cons, List.intercalate_cons_cons, List.append_assoc] at hrest ⊢
    rw [read_encodeCell cell (by simp)]
    simpa [read, step, texts] using hrest

lemma read_row {f : List (List String) → List (List String)} (h : rest.head? ≠ some '"')
    (hf : ∀ row field, read ⟨rows, row, field, false, false⟩ rest =
      f (keep rows (row ++ [String.ofList field]))) (row : List Cell) :
    read ⟨rows, [], [], false, false⟩ (encodeRow row ++ rest) =
      f (rows ++ [texts row].filter (HasText ·)) := by
  cases row with
  | nil => simpa [encodeRow, keep, HasText, texts] using hf [] []
  | cons cell cells =>
    rw [read_encodeRow h hf, List.nil_append]
    exact congrArg f (keep_cons _ _)

lemma read_rows (rest : List Char) (h : rest.head? ≠ some '"')
    (hrest : ∀ rows row field, read ⟨rows, row, field, false, false⟩ rest =
      keep rows (row ++ [String.ofList field])) (table : List (List Cell)) :
    read ⟨rows, [], [], false, false⟩ (['\r', '\n'].intercalate (table.map encodeRow) ++ rest) =
      rows ++ (table.map texts).filter (HasText ·) := by
  induction table generalizing rows with
  | nil => simpa [keep] using hrest rows [] []
  | cons row table ih =>
    cases table with
    | nil => simpa using read_row h (f := id) (hrest rows) row
    | cons next table =>
      simp only [List.map_cons, List.intercalate_cons_cons, List.append_assoc] at ih ⊢
      refine (read_row (f := (read ⟨·, [], [], false, false⟩ _)) (by simp) (fun _ _ => rfl)
        row).trans (ih.trans ?_)
      rw [List.append_assoc, ← List.filter_append, List.singleton_append]

end CsvReader

/-- **CSV.** What the reader makes of the quoted text of a table is the table without the rows that
have no cell or one empty cell, whichever of the other cells the writer quotes, place by place. -/
theorem parseCsvRows_encodeCsv (final : Bool) (rows : List (List Cell)) :
    parseCsvRows (encodeCsv final rows) = (rows.map texts).filter (HasText ·) := by
  rw [parseCsvRows, encodeCsv, String.toList_ofList]
  cases final with
  | false => exact CsvReader.read_rows [] (by simp) (fun _ _ _ => rfl) rows
  | true =>
    refine CsvReader.read_rows ['\r', '\n'] (by simp) (fun rows row field => ?_) rows
    simp [CsvReader.read, CsvReader.step, CsvReader.pushRow, keep]

/-- Equal cells, the first in quotes and the second not. -/
example : parseCsvRows (encodeCsv false [[⟨true, "a"⟩, ⟨false, "a"⟩]]) = [["a", "a"]] := by decide

theorem row_without_cells_lost : parseCsvRows (encodeCsv false [[]]) = [] := by
  decide

end Fuatilia.Intake
