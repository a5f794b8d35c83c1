import Mathlib.Data.List.SplitBy
import SheetTemplate.Proofs.NumberTexts
import SheetTemplate.Proofs.Positions
import SheetTemplate.Proofs.StoredTexts

namespace SheetTemplate.Xlsx

open Xml Number

structure Bare (s : String) : Prop where
  ne_nil : s.toList ≠ []
  plain : unmarked s.toList = true

theorem Bare.not_mem {s : String} (h : Bare s) : '<' ∉ s.toList := by
  intro hmem
  have := List.all_eq_true.1 h.plain _ hmem
  revert this
  decide

theorem unmarked_number {s : List Char} (h : ∀ c ∈ s, c = '-' ∨ c = '.' ∨ c.isDigit) :
    unmarked s = true := by
  refine List.all_eq_true.2 fun c hc => ?_
  rcases h c hc with rfl | rfl | hdigit
  · decide
  · decide
  · simp only [List.mem_cons, List.not_mem_nil, or_false, not_or, decide_eq_true_eq]
    refine ⟨?_, ?_, ?_, ?_, ?_⟩ <;> rintro rfl <;> cases hdigit

theorem bare_plainText (x : Float) : Bare (Number.plainText x) := by
  have hspecial {s : String} (h : specialText x = some s) : Bare s := by
    unfold specialText at h
    split at h
    case isTrue =>
      cases h
      exact ⟨by decide, by decide⟩
    case isFalse =>
      split at h
      case isTrue => cases h
      case isFalse =>
        cases h
        split <;> exact ⟨by decide, by decide⟩
  unfold Number.plainText
  cases h : specialText x with
  | some s => exact hspecial h
  | none =>
    rw [Option.getD_none]
    constructor
    · unfold signed
      rw [String.toList_ofList]
      split
      case isTrue => exact List.cons_ne_nil _ _
      case isFalse => exact plain_ne_nil _
    · exact unmarked_number fun c hc => (mem_signed hc).imp id mem_plain

theorem bare_natText (n : Nat) : Bare (natText n) := by
  unfold natText
  constructor <;> rw [String.toList_ofList]
  · exact natDigits_ne_nil n
  · exact unmarked_number fun c hc => .inr (.inr (isDigit_of_mem_natDigits hc))

structure PlacedCell where
  next : Nat
  place : CellRef
  cell : StoredCell

def Content.texts : Content → Nat
  | .text _ => 1
  | _ => 0

def numbered (next : Nat) : List (CellRef × StoredCell) → List PlacedCell
  | [] => []
  | (c, cell) :: rest => ⟨next, c, cell⟩ :: numbered (next + cell.content.texts) rest

def nextAfter (next : Nat) (cells : List (CellRef × StoredCell)) : Nat :=
  next + (cells.map fun p => p.2.content.texts).sum

namespace PlacedCell

def attributes (p : PlacedCell) : List (String × String) :=
  ("r", p.place.toText) :: (if p.cell.format = 0 then [] else [("s", natText p.cell.format)])

def typeAttributes (p : PlacedCell) : List (String × String) :=
  match p.cell.content with
  | .text _ => [("t", "s")]
  | .bool _ => [("t", "b")]
  | _ => []

def tag (p : PlacedCell) : Tag := tagOf "c" (p.attributes ++ p.typeAttributes)

def valueText (p : PlacedCell) : Option String :=
  match p.cell.content with
  | .blank => none
  | .number x => some (Number.plainText x)
  | .text _ => some (natText p.next)
  | .bool b => some (if b then "1" else "0")
  | .formula _ => some "0"

def formulaText (p : PlacedCell) : Option String :=
  match p.cell.content with
  | .formula s => some s
  | _ => none

end PlacedCell

def valueEvents (v : String) : List Event :=
  [.start (tagOf "v" []), .text (utf8 v.toList), .stop "v"]

def formulaEvents (s : String) : List Event :=
  .start (tagOf "f" []) ::
    ((if s = "" then [] else [.text (utf8 (escaped s.toList))]) ++ [.stop "f"])

namespace PlacedCell

def innerEvents (p : PlacedCell) : List Event :=
  p.formulaText.toList.flatMap formulaEvents ++ p.valueText.toList.flatMap valueEvents

def events (p : PlacedCell) : List Event := .start p.tag :: (p.innerEvents ++ [.stop "c"])

def element (p : PlacedCell) : String :=
  Xml.element "c" (p.attributes ++ p.typeAttributes)
    (p.formulaText.toList.map (fun s => Xml.element "f" [] [escape s]) ++
      p.valueText.toList.map fun v => Xml.element "v" [] [v])

end PlacedCell

theorem cellElement_eq (p : PlacedCell) :
    cellElement p.next p.place p.cell = (p.element, p.next + p.cell.content.texts) := by
  obtain ⟨next, place, content, format⟩ := p
  cases content <;>
    simp [cellElement, PlacedCell.element, PlacedCell.attributes, PlacedCell.typeAttributes,
      PlacedCell.formulaText, PlacedCell.valueText, Content.texts]

theorem cellElements_eq (next : Nat) (cells : List (CellRef × StoredCell)) :
    cellElements next cells =
      ((numbered next cells).map fun p => (p.place.row, p.element), nextAfter next cells) := by
  induction cells generalizing next with
  | nil => rfl
  | cons e cells ih =>
    obtain ⟨c, cell⟩ := e
    have hcell := cellElement_eq ⟨next, c, cell⟩
    dsimp only at hcell
    rw [cellElements, hcell]
    dsimp only
    rw [ih]
    simp [numbered, nextAfter, Nat.add_assoc]

theorem areNames_cell (p : PlacedCell) : areNames (p.attributes ++ p.typeAttributes) = true := by
  unfold PlacedCell.attributes PlacedCell.typeAttributes
  split <;> split <;> simp +decide [areNames]

theorem prints_value {v : String} (h : Bare v) : Prints [element "v" [] [v]] (valueEvents v) :=
  Prints.leaf (show isName "v" = true by decide) (show areNames [] = true from rfl) h.ne_nil h.not_mem

theorem prints_formula (s : String) : Prints [element "f" [] [escape s]] (formulaEvents s) := by
  unfold formulaEvents
  by_cases hs : s = ""
  · subst hs
    have hempty : Marked (String.join [escape ""]).toList .nil [] := marked_nil
    exact ⟨_, markedList_element (by decide) rfl hempty⟩
  · have htext := Prints.leaf (show isName "f" = true by decide)
      (show areNames [] = true from rfl) (escape_ne_nil (toList_ne_nil hs)) (not_mem_escape s)
    rw [toList_escape] at htext
    rw [if_neg hs]
    exact htext

theorem bare_valueText {p : PlacedCell} {v : String} (h : p.valueText = some v) : Bare v := by
  unfold PlacedCell.valueText at h
  split at h
  case h_1 => cases h
  case h_2 => cases h; exact bare_plainText _
  case h_3 => cases h; exact bare_natText _
  case h_4 => cases h; split <;> exact ⟨by decide, by decide⟩
  case h_5 => cases h; exact ⟨by decide, by decide⟩

theorem prints_cell (p : PlacedCell) : Prints [p.element] p.events := by
  have hformula : Prints (p.formulaText.toList.map fun s => element "f" [] [escape s])
      (p.formulaText.toList.flatMap formulaEvents) :=
    .map fun s _ => prints_formula s
  have hvalue : Prints (p.valueText.toList.map fun v => element "v" [] [v])
      (p.valueText.toList.flatMap valueEvents) :=
    .map fun v hv => prints_value (bare_valueText (Option.mem_toList.1 hv))
  exact (hformula.append hvalue).element (by decide) (areNames_cell p)

theorem splitBy_map {α β : Type} (f : α → β) (r : β → β → Bool) (l : List α) :
    (l.map f).splitBy r = (l.splitBy fun a b => r (f a) (f b)).map (List.map f) := by
  have hloop (l : List α) (a : α) (g : List α) (gs : List (List α)) :
      List.splitBy.loop r (l.map f) (f a) (g.map f) (gs.map (List.map f)) =
        (List.splitBy.loop (fun a b => r (f a) (f b)) l a g gs).map (List.map f) := by
    induction l generalizing a g gs with
    | nil => simp [List.splitBy.loop]
    | cons b l ih =>
      rw [List.map_cons, List.splitBy.loop, List.splitBy.loop]
      cases r (f a) (f b) with
      | true => exact ih b (a :: g) gs
      | false =>
        have hnext := ih b [] ((a :: g).reverse :: gs)
        simp only [List.map_cons, List.map_nil, List.map_reverse] at hnext ⊢
        exact hnext
  cases l with
  | nil => rfl
  | cons a l => exact hloop l a [] []

def runs (cells : List PlacedCell) : List (List PlacedCell) :=
  cells.splitBy fun p q => p.place.row == q.place.row

def runRow (run : List PlacedCell) : Nat := (run.head?.map (·.place.row)).getD 0

def runEvents (run : List PlacedCell) : List Event :=
  .start (tagOf "row" [("r", natText (runRow run + 1))]) ::
    (run.flatMap PlacedCell.events ++ [.stop "row"])

theorem prints_rows (cells : List PlacedCell) :
    Prints (rowElements (cells.map fun p => (p.place.row, p.element)))
      ((runs cells).flatMap runEvents) := by
  have hrows : rowElements (cells.map fun p => (p.place.row, p.element)) =
      (runs cells).map fun run =>
        element "row" [("r", natText (runRow run + 1))] (run.map PlacedCell.element) := by
    unfold rowElements runs
    rw [splitBy_map, List.map_map]
    refine List.map_congr_left fun run _ => ?_
    simp [runRow, List.head?_map, Function.comp_def]
  rw [hrows]
  refine .map fun run _ => ?_
  exact (Prints.map fun p _ => prints_cell p).element (by decide) (by simp +decide [areNames])

def mergesTree (merges : List Area) : Elements :=
  if merges.isEmpty then .nil
  else
    .single "mergeCells" [("count", natText merges.length)]
      (.each "mergeCell" (fun a => [("ref", a.toText)]) (fun _ => .nil) merges)

theorem writes_merges (merges : List Area) : Writes (mergesElement merges) (mergesTree merges) := by
  unfold mergesElement mergesTree
  split
  case isTrue => exact writes_nil
  case isFalse =>
    have hentries : Writes (merges.map fun a => element "mergeCell" [("ref", a.toText)] [])
        (.each "mergeCell" (fun a => [("ref", a.toText)]) (fun _ => .nil) merges) :=
      writes_each (by decide) (fun _ _ => by simp +decide [areNames]) fun _ _ => writes_nil
    unfold counted
    rw [List.length_map]
    exact writes_element (by decide) (by simp +decide [areNames]) hentries

def sheetStart : List Event :=
  [.text [byte '\n'], .start (tagOf "worksheet" [("xmlns", mainNamespace)]),
    .start (tagOf "sheetData" [])]

def sheetEvents (cells : List PlacedCell) (merges : List Area) : List Event :=
  sheetStart ++ ((runs cells).flatMap runEvents ++
    (.stop "sheetData" :: ((mergesTree merges).events ++ [.stop "worksheet"])))

/-- The part of a sheet, as both readers have it. -/
theorem events_sheetPart (next : Nat) (s : StoredSheet) :
    let events := sheetEvents (numbered next s.cells.toList) s.merges
    lenientEvents (utf8 (sheetPart next s).1.toList) = events ∧
      strictEvents (utf8 (sheetPart next s).1.toList) = events ∧
      (sheetPart next s).2 = nextAfter next s.cells.toList := by
  have htable := (prints_rows (numbered next s.cells.toList)).element
    (show isName "sheetData" = true by decide) (show areNames [] = true from rfl)
  have hroot := (htable.append (.ofWrites (writes_merges s.merges))).element
    (show isName "worksheet" = true by decide)
    (show areNames [("xmlns", mainNamespace)] = true from rfl)
  obtain ⟨hlenient, hstrict⟩ := hroot.document
  unfold sheetPart
  rw [cellElements_eq]
  refine ⟨hlenient.trans ?_, hstrict.trans ?_, rfl⟩
  all_goals simp only [sheetEvents, sheetStart, List.cons_append, List.append_assoc, List.nil_append]

end SheetTemplate.Xlsx
