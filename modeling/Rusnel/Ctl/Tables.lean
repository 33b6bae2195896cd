import Mathlib.Data.Vector.Defs
import Rusnel.Foundation.Columns

/-!
# The tables of the control client

The control client prints the lists that the admin API answers with.  A table
takes the width of a column from the bytes of its cells and pads by characters;
a cell is printed as it is.  That every row has a cell for each header is part
of the type of a table.  Which widths the formatter takes depends on the toolchain:
newer ones abort beyond 16 bits.

Main results:

- Theorem {lit}`Table.render_eq`: what a table prints, or that it aborts.
- Theorem {lit}`Table.laidOut_iff`: a table is printed with one line for each row
  and its columns aligned exactly if no cell has a newline in it and the formatter
  takes every padded cell.
-/

namespace Rusnel
namespace Ctl

open Text
open Columns (Formatter LaidOut)

/-! ## Tables -/

/-- The bytes of a string. -/
def len (s : List Char) : Nat :=
  (asBytes s).length

theorem length_le_len (s : List Char) : s.length ≤ len s := by
  induction s with
  | nil => exact Nat.zero_le _
  | cons c s ih =>
      have hpos := c.utf8Size_pos
      rw [len] at ih
      rw [len, length_asBytes_cons, List.length_cons]
      omega

theorem len_le (s : List Char) : len s ≤ 4 * s.length := by
  induction s with
  | nil => exact Nat.le_refl _
  | cons c s ih =>
      have hmax := c.utf8Size_le_four
      rw [len] at ih
      rw [len, length_asBytes_cons, List.length_cons]
      omega

/-- The cells of one row of a table with `n` columns. -/
abbrev Cells (n : Nat) := List.Vector (List Char) n

structure Table (n : Nat) where
  headers : Cells n
  rows : List (Cells n)

/-- One cell of the width loop: a column never gets narrower. -/
def widen (widths : List Nat) (entry : List Char × Nat) : List Nat :=
  match widths[entry.2]? with
  | none => widths
  | some width => if width < len entry.1 then widths.set entry.2 (len entry.1) else widths

/-- One cell of a row; the last one is not padded. -/
def pushCell (f : Formatter) (count : Nat) (widths : List Nat) (out : List Char)
    (entry : List Char × Nat) : Except Failure (List Char) := do
  let out := if 0 < entry.2 then out ++ [' ', ' '] else out
  if entry.2 + 1 < count then
    match widths[entry.2]? with
    | none => .error .abort
    | some width =>
        let padded ← f.pad width entry.1
        .ok (out ++ padded)
  else .ok (out ++ entry.1)

def pushRow (f : Formatter) (out : List Char) (cells : List (List Char)) (widths : List Nat) :
    Except Failure (List Char) := do
  let out ← cells.zipIdx.foldlM (pushCell f cells.length widths) out
  .ok (out ++ ['\n'])

namespace Table

variable {n : Nat}

def new (headers : Cells n) : Table n where
  headers := headers
  rows := []

def row (t : Table n) (cells : Cells n) : Table n :=
  { t with rows := t.rows ++ [cells] }

/-- The width of each column: the bytes of its longest cell. -/
def widths (t : Table n) : List Nat :=
  t.rows.foldl (fun widths row => row.toList.zipIdx.foldl widen widths)
    (t.headers.toList.map len)

def render (f : Formatter) (t : Table n) : Except Failure (List Char) := do
  let out ← pushRow f [] t.headers.toList t.widths
  t.rows.foldlM (fun out row => pushRow f out row.toList t.widths) out

end Table

/-! ## Widths -/

theorem widen_append (front rest : List Nat) (width : Nat) (cell : List Char) :
    widen (front ++ width :: rest) (cell, front.length) =
      front ++ [max width (len cell)] ++ rest := by
  simp only [widen, List.getElem?_append_right (Nat.le_refl _), Nat.sub_self,
    List.getElem?_cons_zero]
  split_ifs with hlt
  · rw [List.set_append_right _ _ (Nat.le_refl _), Nat.sub_self, List.set_cons_zero,
      Nat.max_eq_right (Nat.le_of_lt hlt), List.append_assoc]
    rfl
  · rw [Nat.max_eq_left (Nat.le_of_not_lt hlt), List.append_assoc]
    rfl

variable {cells : List (List Char)}

/-- The width loop over one row takes the larger of each width and the bytes of the
cell. -/
theorem foldl_widen (front : List Nat) {rest : List Nat} (hlength : cells.length = rest.length) :
    (cells.zipIdx front.length).foldl widen (front ++ rest) =
      front ++ List.zipWith max rest (cells.map len) := by
  -- The columns in `front` are done; the index of the loop is their number.
  induction cells generalizing front rest with
  | nil =>
      rw [List.length_eq_zero_iff.mp hlength.symm]
      rfl
  | cons cell cells ih =>
      cases rest with
      | nil => cases hlength
      | cons width rest =>
          have hnext : front.length + 1 = (front ++ [max width (len cell)]).length := by simp
          rw [List.zipIdx_cons, List.foldl_cons, widen_append, hnext,
            ih _ (Nat.succ.inj hlength), List.append_assoc]
          rfl

variable {widths : List Nat}

/-- The width loop keeps one width for each column, and each is the least upper
bound of what it was and the bytes of the column's cells. -/
theorem foldl_widths {n : Nat} (rows : List (Cells n)) (hlength : widths.length = n) :
    let widened := rows.foldl (fun widths row => row.toList.zipIdx.foldl widen widths) widths
    widened.length = n ∧ ∀ (j width : Nat), widened[j]? = some width → ∀ bound,
      width ≤ bound ↔ (∀ old ∈ widths[j]?, old ≤ bound) ∧
        ∀ row ∈ rows, ∀ cell ∈ row.toList[j]?, len cell ≤ bound := by
  induction rows generalizing widths with
  | nil => exact ⟨hlength, fun j width hj bound => by simp_all⟩
  | cons row rows ih =>
      have hsame : row.toList.length = widths.length := by simp [hlength]
      have hrow : row.toList.zipIdx.foldl widen widths =
          List.zipWith max widths (row.toList.map len) :=
        foldl_widen [] hsame
      rw [List.foldl_cons, hrow]
      have hwidened : (List.zipWith max widths (row.toList.map len)).length = n := by
        simp [hlength]
      obtain ⟨hkept, hwidth⟩ := ih hwidened
      refine ⟨hkept, fun j width hj bound => ?_⟩
      have hj' : j < widths.length := by
        have := (List.getElem?_eq_some_iff.mp hj).1
        omega
      have hcell := List.getElem?_eq_getElem (hsame ▸ hj')
      rw [hwidth j width hj bound, List.forall_mem_cons, ← and_assoc]
      refine and_congr_left' ?_
      simp only [List.getElem?_zipWith, List.getElem?_eq_getElem hj', List.getElem?_map, hcell,
        Option.map_some, Option.mem_some_iff, forall_eq']
      exact Nat.max_le

namespace Table

variable {n : Nat} (t : Table n)

/-- The rows of a table as they are printed, the headers first. -/
def printed : List (List (List Char)) :=
  (t.headers :: t.rows).map List.Vector.toList

theorem length_widths : t.widths.length = n :=
  (foldl_widths t.rows (by simp)).1

theorem length_of_mem_printed (h : cells ∈ t.printed) : cells.length = n := by
  obtain ⟨row, -, rfl⟩ := List.mem_map.mp h
  exact row.2

/-- A width is the least upper bound of the bytes of its column's cells. -/
theorem width_le_iff {j width : Nat} (hj : t.widths[j]? = some width) (bound : Nat) :
    width ≤ bound ↔ ∀ cells ∈ t.printed, ∀ cell ∈ cells[j]?, len cell ≤ bound := by
  rw [(foldl_widths t.rows (by simp)).2 j width hj bound]
  simp [printed]

/-- Every cell fits its column: it has at least as many bytes as characters. -/
theorem fits (h : cells ∈ t.printed) : Columns.Fits t.widths cells := by
  rw [Columns.Fits, List.forall₂_iff_get]
  have hlength := t.length_of_mem_printed h
  refine ⟨by rw [t.length_widths, hlength], fun j hj hj' => ?_⟩
  have hbytes := (t.width_le_iff (List.getElem?_eq_getElem hj) _).mp (Nat.le_refl _) cells h
    cells[j] (List.getElem?_eq_getElem hj')
  exact Nat.le_trans (length_le_len _) hbytes

end Table

/-! ## Printing -/

/-- What is printed in front of a cell. -/
def separator (i : Nat) : List Char :=
  if 0 < i then [' ', ' '] else []

theorem pushCell_padded (f : Formatter) {count width i : Nat} (out cell : List Char)
    (hwidth : widths[i]? = some width) (hi : i + 1 < count) :
    pushCell f count widths out (cell, i) =
      if f.Takes width then .ok (out ++ separator i ++ cell.rightpad width ' ')
      else .error .abort := by
  simp only [pushCell, if_pos hi, hwidth, Formatter.pad, separator]
  split_ifs <;> simp [bind, Except.bind]

theorem pushCell_last (f : Formatter) {count i : Nat} (widths : List Nat)
    (out cell : List Char) (hi : ¬i + 1 < count) :
    pushCell f count widths out (cell, i) = .ok (out ++ separator i ++ cell) := by
  simp only [pushCell, if_neg hi, separator]
  split_ifs <;> simp

/-- The rest of a row is printed behind its first cells, unless a padded column is
wider than the formatter takes. -/
theorem foldlM_pushCell (f : Formatter) (front : List Nat) {rest : List Nat} {cell : List Char}
    (hlength : (cell :: cells).length = rest.length) (out : List Char) :
    ((cell :: cells).zipIdx front.length).foldlM
        (pushCell f (front ++ rest).length (front ++ rest)) out =
      if ∀ width ∈ rest.dropLast, f.Takes width then
        .ok (out ++ separator front.length ++ Columns.row 2 rest (cell :: cells))
      else .error .abort := by
  induction cells generalizing front rest cell out with
  | nil =>
      obtain ⟨width, rfl⟩ := List.length_eq_one_iff.mp hlength.symm
      have hlast : ¬front.length + 1 < (front ++ [width]).length := by simp
      rw [List.zipIdx_cons, List.foldlM_cons, pushCell_last f _ out cell hlast,
        Columns.row_single, if_pos (by simp)]
      rfl
  | cons next cells ih =>
      rcases rest with _ | ⟨width, rest⟩
      · cases hlength
      rcases rest with _ | ⟨width', rest⟩
      · cases hlength
      have hwidth : (front ++ width :: width' :: rest)[front.length]? = some width := by simp
      have hmore : front.length + 1 < (front ++ width :: width' :: rest).length := by simp
      have hsplit : front ++ width :: width' :: rest = (front ++ [width]) ++ width' :: rest := by
        simp
      have hnext : front.length + 1 = (front ++ [width]).length := by simp
      rw [List.zipIdx_cons, List.foldlM_cons, pushCell_padded f out cell hwidth hmore,
        List.dropLast_cons_cons]
      by_cases htakes : f.Takes width
      · rw [if_pos htakes, hsplit, hnext]
        have hrest := ih (front ++ [width]) (Nat.succ.inj hlength)
          (out ++ separator front.length ++ cell.rightpad width ' ')
        refine hrest.trans ?_
        simp [htakes, Columns.row_cons, separator, Columns.blanks, List.replicate]
      · rw [if_neg htakes, if_neg fun h => htakes (h width List.mem_cons_self)]
        rfl

theorem pushRow_eq (f : Formatter) (out : List Char) (hlength : cells.length = widths.length) :
    pushRow f out cells widths =
      if ∀ width ∈ widths.dropLast, f.Takes width then
        .ok (out ++ Columns.row 2 widths cells ++ ['\n'])
      else .error .abort := by
  cases cells with
  | nil =>
      rw [List.length_eq_zero_iff.mp hlength.symm]
      simp [pushRow, Columns.row]
  | cons cell cells =>
      have hcells := foldlM_pushCell f [] hlength out
      rw [List.nil_append, List.length_nil, ← hlength] at hcells
      rw [pushRow, hcells]
      split_ifs
      · rw [show separator 0 = [] from rfl, List.append_nil]
        rfl
      · rfl

/-! ## Layout -/

/-- The cells of a row can be printed on one line; the last one is not padded. -/
def Printable (f : Formatter) (cells : List (List Char)) : Prop :=
  (∀ cell ∈ cells, '\n' ∉ cell) ∧ ∀ cell ∈ cells.dropLast, f.Takes (len cell)

/-- The padded cells of a row are those in front of its last one. -/
theorem mem_dropLast_iff {α : Type} {l : List α} {x : α} :
    x ∈ l.dropLast ↔ ∃ j, j + 1 < l.length ∧ l[j]? = some x := by
  rw [List.mem_iff_getElem?]
  refine exists_congr fun j => ?_
  rw [List.getElem?_dropLast]
  split_ifs with hj
  · exact ⟨fun h => ⟨by omega, h⟩, fun h => h.2⟩
  · simp only [false_iff, not_and]
    exact fun hj' => absurd hj' (by omega)

namespace Table

variable {n : Nat} (t : Table n)

/-- Rows are printed one behind the other if the formatter takes the widths. -/
theorem foldlM_pushRow (f : Formatter) (hlength : widths.length = n)
    (htakes : ∀ width ∈ widths.dropLast, f.Takes width) (rows : List (Cells n)) (out : List Char) :
    rows.foldlM (fun out row => pushRow f out row.toList widths) out =
      .ok (out ++ Columns.print 2 widths (rows.map List.Vector.toList)) := by
  induction rows generalizing out with
  | nil => simp [Columns.print, Columns.unlines]; rfl
  | cons row rows ih =>
      have hrow : row.toList.length = widths.length := by rw [hlength, row.toList_length]
      rw [List.foldlM_cons, pushRow_eq f out hrow, if_pos htakes]
      refine (ih _).trans ?_
      simp [Columns.print, Columns.unlines]

/-- A table is printed in columns two blanks apart, unless a padded column is wider
than the formatter takes. -/
theorem render_eq (f : Formatter) :
    t.render f =
      if ∀ width ∈ t.widths.dropLast, f.Takes width then
        .ok (Columns.print 2 t.widths t.printed)
      else .error .abort := by
  have hheaders : t.headers.toList.length = t.widths.length := by
    rw [t.length_widths, t.headers.toList_length]
  rw [render, pushRow_eq f [] hheaders]
  by_cases htakes : ∀ width ∈ t.widths.dropLast, f.Takes width
  · rw [if_pos htakes, if_pos htakes]
    refine (foldlM_pushRow f t.length_widths htakes t.rows _).trans ?_
    simp [printed, Columns.print, Columns.unlines]
  · rw [if_neg htakes, if_neg htakes]
    rfl

/-- The widths of the padded columns are those the formatter takes if it takes the
bytes of their cells. -/
theorem takes_widths_iff (f : Formatter) :
    (∀ width ∈ t.widths.dropLast, f.Takes width) ↔
      ∀ cells ∈ t.printed, ∀ cell ∈ cells.dropLast, f.Takes (len cell) := by
  constructor
  · intro h cells hcells cell hcell bound hbound
    obtain ⟨j, hj, hcell⟩ := mem_dropLast_iff.mp hcell
    have hlength := t.length_of_mem_printed hcells
    have hwidth := List.getElem?_eq_getElem (show j < t.widths.length by
      rw [t.length_widths]; omega)
    have htakes := h _ (mem_dropLast_iff.mpr ⟨j, by rw [t.length_widths]; omega, hwidth⟩)
    exact (t.width_le_iff hwidth bound).mp (htakes bound hbound) cells hcells cell hcell
  · intro h width hwidth bound hbound
    obtain ⟨j, hj, hwidth⟩ := mem_dropLast_iff.mp hwidth
    rw [t.length_widths] at hj
    refine (t.width_le_iff hwidth bound).mpr fun cells hcells cell hcell => ?_
    have hpadded : cell ∈ cells.dropLast :=
      mem_dropLast_iff.mpr ⟨j, by rw [t.length_of_mem_printed hcells]; exact hj, hcell⟩
    exact h cells hcells cell hpadded bound hbound

/-- A table is printed with one line for each row and its columns aligned exactly
if every row can be printed. -/
theorem laidOut_iff (f : Formatter) :
    (∃ text, t.render f = .ok text ∧ LaidOut t.printed text) ↔
      ∀ cells ∈ t.printed, Printable f cells := by
  have hlaid := Columns.laidOut_iff (by decide : 0 < 2) fun _ hcells => t.fits hcells
  simp only [Printable]
  rw [forall₂_and, ← hlaid, ← t.takes_widths_iff f, t.render_eq f]
  by_cases htakes : ∀ width ∈ t.widths.dropLast, f.Takes width
  · rw [if_pos htakes]
    constructor
    · rintro ⟨text, hprint, h⟩
      cases hprint
      exact ⟨h, htakes⟩
    · exact fun h => ⟨_, rfl, h.1⟩
  · rw [if_neg htakes]
    constructor
    · rintro ⟨text, hprint, h⟩
      cases hprint
    · exact fun h => absurd h.2 htakes

end Table

end Ctl
end Rusnel
