import SheetTemplate.Book.Sheet
import SheetTemplate.Book.Style
import SheetTemplate.Error

namespace SheetTemplate

structure Workbook where
  sheets : List Sheet := []
  styles : List Style := [{}]
  names_nodup : (sheets.map (·.name)).Nodup := by first | exact List.nodup_nil | simp

namespace Workbook

def sheetNames (b : Workbook) : List String := b.sheets.map (·.name)

def findSheet? (b : Workbook) (name : String) : Option Sheet := b.sheets.find? (·.name == name)

def sheet (b : Workbook) (name : String) : Except SheetError Sheet :=
  match b.findSheet? name with
  | some s => .ok s
  | none => .error (.unknownSheet name)

def addSheet (b : Workbook) (name : String) : Workbook :=
  if h : (b.findSheet? name).isSome then b
  else
    { b with
      sheets := b.sheets ++ [{ name }]
      names_nodup := by
        simp only [findSheet?, List.find?_isSome, beq_iff_eq, not_exists, not_and] at h
        rw [List.map_append, List.nodup_append]
        refine ⟨b.names_nodup, by simp, ?_⟩
        intro x hx y hy
        obtain ⟨s, hs, rfl⟩ := List.mem_map.1 hx
        obtain rfl : y = name := by simpa using hy
        exact h s hs }

def updateFirst (name : String) (f : Sheet → Sheet) : List Sheet → List Sheet
  | [] => []
  | s :: rest =>
    if s.name == name then { f s with name := s.name } :: rest else s :: updateFirst name f rest

theorem map_name_updateFirst (name : String) (f : Sheet → Sheet) (sheets : List Sheet) :
    (updateFirst name f sheets).map (·.name) = sheets.map (·.name) := by
  induction sheets with
  | nil => rfl
  | cons s rest ih =>
    rw [updateFirst]
    split <;> simp [ih]

def modifySheet (b : Workbook) (name : String) (f : Sheet → Sheet) : Except SheetError Workbook :=
  match b.findSheet? name with
  | some _ =>
    .ok
      { b with
        sheets := updateFirst name f b.sheets
        names_nodup := by rw [map_name_updateFirst]; exact b.names_nodup }
  | none => .error (.unknownSheet name)

def style (b : Workbook) (id : Nat) : Except SheetError Style :=
  match b.styles[id]? with
  | some s => .ok s
  | none => .error (.unknownStyle id)

/-- The place of a style in a table, which grows only if no equal style is there. -/
def addToTable (styles : List Style) (s : Style) : Nat × List Style :=
  match styles.findIdx? (· == s) with
  | some i => (i, styles)
  | none => (styles.length, styles ++ [s])

def addStyle (b : Workbook) (s : Style) : Nat × Workbook :=
  let (id, styles) := addToTable b.styles s
  (id, { b with styles })

def setValue (b : Workbook) (name : String) (pos : CellRef) (v : CellValue) :
    Except SheetError Workbook :=
  b.modifySheet name (·.setValue pos v)

def merge (b : Workbook) (name : String) (area : Area) : Except SheetError Workbook :=
  b.modifySheet name (·.merge area)

def insert (b : Workbook) (name : String) (axis : Axis) (start count : Nat) :
    Except SheetError Workbook :=
  b.modifySheet name (·.insert axis start count)

def setStyle (b : Workbook) (name : String) (area : Area) (id : Nat) : Except SheetError Workbook :=
  if id < b.styles.length then b.modifySheet name (·.setStyle area id)
  else .error (.unknownStyle id)

end Workbook

end SheetTemplate
