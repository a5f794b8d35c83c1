import SheetTemplate.Formula.Spec

namespace SheetTemplate

inductive Scalar where
  | str (s : String)
  | int (n : Int)
  | float (x : Float)

namespace Scalar

def padding : FormatKind → Scalar
  | .string => .str ""
  | .int => .int 0
  | .float | .percent => .float Number.nan

def matchesKind : Scalar → FormatKind → Bool
  | .str _, .string => true
  | .int _, .int => true
  | .float _, .float | .float _, .percent => true
  | _, _ => false

end Scalar

structure Grid where
  rows : List (List Scalar)
  width : Nat
  rows_ne_nil : rows ≠ []
  width_pos : 0 < width
  length_row : ∀ r ∈ rows, r.length = width

namespace Grid

def height (g : Grid) : Nat := g.rows.length

def get? (g : Grid) (row col : Nat) : Option Scalar := (g.rows[row]?).bind (·[col]?)

def widest (rows : List (List Scalar)) : Nat := rows.foldl (fun n r => max n r.length) 0

theorem le_foldl_max (rows : List (List Scalar)) (n : Nat) :
    n ≤ rows.foldl (fun n r => max n r.length) n := by
  induction rows generalizing n with
  | nil => exact Nat.le_refl n
  | cons r rows ih => exact Nat.le_trans (Nat.le_max_left n r.length) (ih _)

theorem length_le_foldl_max {rows : List (List Scalar)} {r : List Scalar} (h : r ∈ rows) (n : Nat) :
    r.length ≤ rows.foldl (fun n r => max n r.length) n := by
  induction rows generalizing n with
  | nil => cases h
  | cons r' rows ih =>
    rcases List.mem_cons.1 h with rfl | h
    · exact Nat.le_trans (Nat.le_max_right n r.length) (le_foldl_max rows _)
    · exact ih h _

theorem length_le_widest {rows : List (List Scalar)} {r : List Scalar} (h : r ∈ rows) :
    r.length ≤ widest rows :=
  length_le_foldl_max h 0

def padRow (kind : FormatKind) (width : Nat) (row : List Scalar) : List Scalar :=
  row ++ List.replicate (width - row.length) (.padding kind)

/-- The grid of rows of any lengths: short rows are filled up, and no rows count as one. -/
def ofRows (kind : FormatKind) (rows : List (List Scalar)) : Grid :=
  let rows' := if rows.isEmpty then [[]] else rows
  let width := max (widest rows') 1
  { rows := rows'.map (padRow kind width)
    width
    rows_ne_nil := by cases rows <;> simp [rows']
    width_pos := by omega
    length_row := by
      intro r hr
      obtain ⟨r', hr', rfl⟩ := List.mem_map.1 hr
      have := length_le_widest hr'
      simp only [padRow, List.length_append, List.length_replicate]
      omega }

end Grid

end SheetTemplate
