import Mathlib.Data.List.Forall2
import Rusnel.Foundation.Utf8

/-!
# Tables in columns

A text printed in columns, as a reader sees it: the text is cut into lines, and
each cell of a row is looked for in the row's line, at an offset that belongs to
its column.  What is printed pads every cell but the last of a row and puts a
gap between the columns.

Main results:

- Definition {lit}`LaidOut`: a text shows rows, one line each, with every column
  at one offset.
- Theorem {lit}`laidOut_iff`: rows whose cells fit their columns are shown exactly
  if no cell has a newline in it.
-/

namespace Columns

open Text

/-! ## Lines -/

/-- The lines of a text; a newline at its end does not start another line. -/
def lines : List Char → List (List Char)
  | [] => []
  | c :: rest =>
      if c = '\n' then [] :: lines rest
      else
        match lines rest with
        | [] => [[c]]
        | line :: more => (c :: line) :: more

theorem lines_newline (rest : List Char) : lines ('\n' :: rest) = [] :: lines rest := by
  rw [lines, if_pos rfl]

theorem lines_cons {c : Char} (hc : c ≠ '\n') {rest line : List Char} {more : List (List Char)}
    (hlines : lines rest = line :: more) : lines (c :: rest) = (c :: line) :: more := by
  rw [lines, if_neg hc, hlines]

/-- A text without a newline, up to the newline behind it, is a line. -/
theorem lines_line {line : List Char} (hline : '\n' ∉ line) (rest : List Char) :
    lines (line ++ '\n' :: rest) = line :: lines rest := by
  induction line with
  | nil => exact lines_newline rest
  | cons c line ih =>
      rw [List.mem_cons, not_or] at hline
      exact lines_cons (Ne.symm hline.1) (ih hline.2)

/-- Every newline ends a line. -/
theorem length_lines (text rest : List Char) :
    (lines (text ++ '\n' :: rest)).length = text.count '\n' + 1 + (lines rest).length := by
  induction text with
  | nil => rw [List.nil_append, lines_newline, List.length_cons, List.count_nil]; omega
  | cons c text ih =>
      rw [List.cons_append]
      by_cases hc : c = '\n'
      · subst hc
        rw [lines_newline, List.length_cons, ih, List.count_cons_self]
        omega
      · obtain ⟨line, more, hlines⟩ := List.exists_cons_of_length_pos
          (show 0 < (lines (text ++ '\n' :: rest)).length by omega)
        rw [lines_cons hc hlines, List.count_cons_of_ne hc, ← ih, hlines]
        rfl

/-- Texts printed one behind the other, with a newline behind each. -/
def unlines (texts : List (List Char)) : List Char :=
  texts.flatMap fun text => text ++ ['\n']

theorem unlines_cons (text : List Char) (texts : List (List Char)) :
    unlines (text :: texts) = text ++ '\n' :: unlines texts := by
  simp [unlines]

theorem lines_unlines {texts : List (List Char)} (h : ∀ text ∈ texts, '\n' ∉ text) :
    lines (unlines texts) = texts := by
  induction texts with
  | nil => rfl
  | cons text texts ih =>
      rw [List.forall_mem_cons] at h
      rw [unlines_cons, lines_line h.1, ih h.2]

/-- Every printed text is at least one line. -/
theorem length_le_lines_unlines (texts : List (List Char)) :
    texts.length ≤ (lines (unlines texts)).length := by
  induction texts with
  | nil => exact Nat.zero_le _
  | cons text texts ih =>
      rw [unlines_cons, length_lines, List.length_cons]
      omega

/-- The lines of printed texts are as many as the texts only if no text has a
newline in it. -/
theorem length_lines_unlines_iff (texts : List (List Char)) :
    (lines (unlines texts)).length = texts.length ↔ ∀ text ∈ texts, '\n' ∉ text := by
  refine ⟨fun hlength => ?_, fun h => by rw [lines_unlines h]⟩
  induction texts with
  | nil => simp
  | cons text texts ih =>
      have hle := length_le_lines_unlines texts
      rw [unlines_cons, length_lines, List.length_cons] at hlength
      have hcount : text.count '\n' = 0 := by omega
      exact List.forall_mem_cons.mpr ⟨List.count_eq_zero.mp hcount, ih (by omega)⟩

/-! ## Rows shown in lines -/

/-- Blanks between two columns. -/
def blanks (gap : Nat) : List Char :=
  List.replicate gap ' '

/-- A line shows the cells of a row: each starts at its column's offset, and up to
the next column blanks follow, at least one. -/
def ShowsRow (offset : Nat → Nat) (cells : List (List Char)) (line : List Char) : Prop :=
  ∀ (j : Nat) (cell : List Char), cells[j]? = some cell → ∃ gap,
    cell ++ blanks gap <+: line.drop (offset j) ∧
    (j + 1 < cells.length → 0 < gap ∧ offset (j + 1) = offset j + cell.length + gap)

/-- A text shows rows: it has one line for each, and every column starts at the
same offset in every line. -/
structure LaidOut (rows : List (List (List Char))) (text : List Char) : Prop where
  count : (lines text).length = rows.length
  aligned : ∃ offset, ∀ (k : Nat) (cells : List (List Char)) (line : List Char),
    rows[k]? = some cells → (lines text)[k]? = some line → ShowsRow offset cells line

/-! ## Padding -/

/-- How strings are padded.  The widths a formatter takes may have a bound, but
every 16-bit width is taken. -/
structure Formatter where
  maxWidth : Option Nat
  wide : ∀ bound ∈ maxWidth, 65535 ≤ bound

namespace Formatter

/-- The formatter takes a width. -/
def Takes (f : Formatter) (width : Nat) : Prop :=
  ∀ bound ∈ f.maxWidth, width ≤ bound

instance (f : Formatter) (width : Nat) : Decidable (f.Takes width) :=
  inferInstanceAs (Decidable (∀ bound ∈ f.maxWidth, width ≤ bound))

theorem takes_of_le (f : Formatter) {width : Nat} (h : width ≤ 65535) : f.Takes width :=
  fun bound hbound => Nat.le_trans h (f.wide bound hbound)

/-- Pad with blanks on the right up to a number of characters.  A width that the
formatter does not take is an abort. -/
def pad (f : Formatter) (width : Nat) (cell : List Char) : Except Failure (List Char) :=
  if f.Takes width then .ok (cell.rightpad width ' ') else .error .abort

end Formatter

/-! ## Rows printed in columns -/

/-- A row printed in columns: each cell but the last padded to its column's width,
with blanks between the columns. -/
def row (gap : Nat) : List Nat → List (List Char) → List Char
  | width :: widths, cell :: next :: cells =>
      cell.rightpad width ' ' ++ blanks gap ++ row gap widths (next :: cells)
  | _, cells => cells.flatten

/-- Where a column starts. -/
def offset (gap : Nat) : List Nat → Nat → Nat
  | width :: widths, j + 1 => width + gap + offset gap widths j
  | _, _ => 0

/-- There is a column for each cell, and every cell fits its column. -/
def Fits (widths : List Nat) (cells : List (List Char)) : Prop :=
  List.Forall₂ (fun width cell => cell.length ≤ width) widths cells

section Printed

variable {gap : Nat}

theorem row_cons (width : Nat) (widths : List Nat) (cell next : List Char)
    (cells : List (List Char)) :
    row gap (width :: widths) (cell :: next :: cells) =
      cell.rightpad width ' ' ++ blanks gap ++ row gap widths (next :: cells) :=
  rfl

theorem row_single (widths : List Nat) (cell : List Char) : row gap widths [cell] = cell := by
  cases widths <;> simp [row]

theorem offset_succ (width : Nat) (widths : List Nat) (j : Nat) :
    offset gap (width :: widths) (j + 1) = width + gap + offset gap widths j :=
  rfl

/-- Padding and the gap behind it are blanks. -/
theorem rightpad_append_blanks (width : Nat) (cell : List Char) :
    cell.rightpad width ' ' ++ blanks gap = cell ++ blanks (width - cell.length + gap) := by
  rw [List.rightpad, List.append_assoc, blanks, List.replicate_append_replicate]
  rfl

/-- What is printed of a row contains its cells, and otherwise blanks. -/
theorem mem_row {c : Char} (hc : c ≠ ' ') (widths : List Nat) (cells : List (List Char)) :
    c ∈ row gap widths cells ↔ ∃ cell ∈ cells, c ∈ cell := by
  induction widths generalizing cells with
  | nil => simp [row]
  | cons width widths ih =>
      rcases cells with _ | ⟨cell, _ | ⟨next, cells⟩⟩
      · simp [row]
      · simp [row]
      · rw [row_cons, rightpad_append_blanks, List.mem_append, List.mem_append, ih]
        simp [blanks, hc]

/-- The printed row shows cells that fit their columns. -/
theorem showsRow_row (hgap : 0 < gap) {widths : List Nat} {cells : List (List Char)}
    (hfits : Fits widths cells) : ShowsRow (offset gap widths) cells (row gap widths cells) := by
  induction hfits with
  | nil => exact fun j cell hj => by cases hj
  | @cons width cell widths cells hcell hcells ih =>
      intro j shown hj
      cases cells with
      | nil =>
          cases j with
          | zero =>
              cases hj
              exact ⟨0, by simp [row_single, offset, blanks], fun hlast => by simp at hlast⟩
          | succ j => cases hj
      | cons next cells =>
          have hlength : (cell ++ blanks (width - cell.length + gap)).length = width + gap := by
            simp [blanks]
            omega
          rw [row_cons, rightpad_append_blanks]
          cases j with
          | zero =>
              cases hj
              refine ⟨width - cell.length + gap, List.prefix_append _ _, fun _ => ⟨by omega, ?_⟩⟩
              rw [offset_succ]
              simp [offset]
              omega
          | succ j =>
              obtain ⟨room, hprefix, hnext⟩ := ih j shown hj
              refine ⟨room, ?_, fun hlast => ?_⟩
              · rw [offset_succ, ← hlength, List.drop_length_add_append]
                exact hprefix
              · have hlast' := hnext (by simpa using hlast)
                rw [offset_succ, offset_succ]
                omega

/-! ## Printed tables -/

/-- Rows printed in columns, one behind the other. -/
def print (gap : Nat) (widths : List Nat) (rows : List (List (List Char))) : List Char :=
  unlines (rows.map (row gap widths))

/-- Rows whose cells fit their columns are shown by what is printed exactly if no
cell has a newline in it. -/
theorem laidOut_iff (hgap : 0 < gap) {widths : List Nat} {rows : List (List (List Char))}
    (hfits : ∀ cells ∈ rows, Fits widths cells) :
    LaidOut rows (print gap widths rows) ↔ ∀ cells ∈ rows, ∀ cell ∈ cells, '\n' ∉ cell := by
  have hbroken : (∀ text ∈ rows.map (row gap widths), '\n' ∉ text) ↔
      ∀ cells ∈ rows, ∀ cell ∈ cells, '\n' ∉ cell := by
    simp only [List.forall_mem_map, mem_row (by decide : '\n' ≠ ' '), not_exists, not_and]
  rw [← hbroken]
  constructor
  · intro h
    rw [← length_lines_unlines_iff, List.length_map]
    exact h.count
  · intro h
    have hlines : lines (print gap widths rows) = rows.map (row gap widths) := lines_unlines h
    refine ⟨by rw [hlines, List.length_map], offset gap widths, fun k cells line hcells hline => ?_⟩
    rw [hlines, List.getElem?_map, hcells] at hline
    cases hline
    exact showsRow_row hgap (hfits cells (List.mem_of_getElem? hcells))

end Printed

end Columns
