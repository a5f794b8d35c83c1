import SheetTemplate.Proofs.NumberTexts
import SheetTemplate.Proofs.StyleReading
import SheetTemplate.Xlsx.CellFormat

namespace SheetTemplate.Xlsx

open Xml StyleTree

def CellFormat.size? (f : CellFormat) : Option Float := Number.readFloat? f.fontSize.toList

section

variable {t : StyleTables} {record : FormatRecord} {font : Font} {name : String} {size : Float}

theorem fontName_style (hfont : t.fonts[record.font]? = some font) (hname : font.name = some name) :
    (CellFormat.ofStyle (t.style record)).fontName =
      if t.defaultFont.name = some name then "Calibri" else name := by
  change (if (t.fonts[record.font]?.getD {}).name == t.defaultFont.name then none
    else (t.fonts[record.font]?.getD {}).name : Option String).getD "Calibri" = _
  rw [hfont, Option.getD_some, hname]
  by_cases h : t.defaultFont.name = some name
  · rw [if_pos h, h, if_pos (beq_self_eq_true _)]
    rfl
  · rw [if_neg h, if_neg fun heq => h (eq_of_beq heq).symm]
    rfl

theorem size?_style (hfont : t.fonts[record.font]? = some font) (hsize : font.size = some size) :
    (CellFormat.ofStyle (t.style record)).size? =
      if some size == t.defaultFont.size then Number.readFloat? "11".toList else some size := by
  change Number.readFloat? (((if (t.fonts[record.font]?.getD {}).size == t.defaultFont.size
    then none else (t.fonts[record.font]?.getD {}).size : Option Float).map
      Number.plainText).getD "11").toList = _
  rw [hfont, Option.getD_some, hsize]
  split
  · rfl
  · exact Number.readFloat?_plainText size

end

/-- The font that a cell has after its style was read and written again, for every record whose
font states a name and a size, and when they are those of the record's font. -/
theorem restored_font (events : List Event) :
    readStyles events = (readStyleTables events).map StyleTables.styles ∧
      ∀ (t : StyleTables) (i : Nat) (record : FormatRecord) (font : Font) (name : String)
        (size : Float), readStyleTables events = .ok t → t.records[i]? = some record →
          t.fonts[record.font]? = some font → font.name = some name → font.size = some size →
            ∃ style, t.styles[i]? = some style ∧
              (CellFormat.ofStyle style).fontName =
                (if t.defaultFont.name = some name then "Calibri" else name) ∧
              (CellFormat.ofStyle style).size? =
                (if some size == t.defaultFont.size then Number.readFloat? "11".toList
                  else some size) ∧
              ((CellFormat.ofStyle style).fontName = name ↔
                (t.defaultFont.name = some name → name = "Calibri")) ∧
              ((CellFormat.ofStyle style).size? = some size ↔
                ((some size == t.defaultFont.size) = true →
                  Number.readFloat? "11".toList = some size)) := by
  refine ⟨readStyles_eq_map events, ?_⟩
  intro t i record font name size _ hrecord hfont hname hsize
  have hstyle : t.styles[i]? = some (t.style record) := by
    rw [StyleTables.styles, List.getElem?_map, hrecord]
    rfl
  refine ⟨_, hstyle, fontName_style hfont hname, size?_style hfont hsize, ?_, ?_⟩
  · rw [fontName_style hfont hname]
    split
    · rename_i h
      exact ⟨fun hkept _ => hkept.symm, fun hkept => (hkept h).symm⟩
    · rename_i h
      exact ⟨fun _ heq => absurd heq h, fun _ => rfl⟩
  · rw [size?_style hfont hsize]
    split
    · rename_i h
      exact ⟨fun hkept _ => hkept, fun hkept => hkept h⟩
    · rename_i h
      exact ⟨fun _ heq => absurd heq h, fun _ => rfl⟩

def officeStyles : String :=
  document (element "styleSheet" []
    [element "fonts" []
      [element "font" [] [element "sz" [("val", "10")] [], element "name" [("val", "Arial")] []],
        element "font" []
          [element "b" [] [], element "sz" [("val", "10")] [],
            element "name" [("val", "Arial")] []],
        element "font" []
          [element "sz" [("val", "12")] [], element "name" [("val", "Georgia")] []]],
      element "cellXfs" []
        [element "xf" [("fontId", "1")] [], element "xf" [("fontId", "2")] []]])

open Elements in
def officeRoot : Elements :=
  single "fonts" []
      (single "font" []
          (single "sz" [("val", "10")] .nil ++ single "name" [("val", "Arial")] .nil) ++
        (single "font" []
            (single "b" [] .nil ++
              (single "sz" [("val", "10")] .nil ++ single "name" [("val", "Arial")] .nil)) ++
          single "font" []
            (single "sz" [("val", "12")] .nil ++ single "name" [("val", "Georgia")] .nil))) ++
    single "cellXfs" []
      (single "xf" [("fontId", "1")] .nil ++ single "xf" [("fontId", "2")] .nil)

theorem spells_officeStyles :
    Spells (tokens .strict (utf8 officeStyles.toList)) (.single "styleSheet" [] officeRoot) := by
  refine (marked_document (writes_element (by decide) (by decide) ?_)).spells .strict
  unfold officeRoot
  repeat' first
    | exact writes_nil
    | refine writes_element (by decide) (by decide) ?_
    | refine Writes.cons ?_ ?_

def officeEvents : List Event := strictEvents (utf8 officeStyles.toList)

theorem readStyleTables_officeEvents :
    readStyleTables officeEvents = .ok (extended {} officeRoot) :=
  readStyleTables_eq spells_officeStyles (by decide) (by decide) (by decide)

theorem defaultFont_officeRoot : (extended {} officeRoot).defaultFont.name = some "Arial" := rfl

/-- The bold font becomes that of written packages, and the third one stays. -/
theorem restored_font_office :
    ∃ style style', readStyles officeEvents = .ok [style, style'] ∧
      (CellFormat.ofStyle style).fontName = "Calibri" ∧
      (CellFormat.ofStyle style').fontName = "Georgia" := by
  obtain ⟨hread, hrestored⟩ := restored_font officeEvents
  rw [readStyleTables_officeEvents] at hread
  obtain ⟨style, hstyle, hname, -⟩ := hrestored _ 0 { font := 1 }
    { bold := true, name := some "Arial", size := some (Number.ofDecimal false 10 0) } "Arial" _
    readStyleTables_officeEvents rfl rfl rfl rfl
  obtain ⟨style', hstyle', hname', -⟩ := hrestored _ 1 { font := 2 }
    { name := some "Georgia", size := some (Number.ofDecimal false 12 0) } "Georgia" _
    readStyleTables_officeEvents rfl rfl rfl rfl
  have hdefault := defaultFont_officeRoot
  refine ⟨style, style', ?_, hname.trans (if_pos hdefault), hname'.trans (if_neg (by decide))⟩
  have hstyles : (extended {} officeRoot).styles = [style, style'] :=
    congrArg₂ (fun a b => [a, b]) (Option.some.inj hstyle) (Option.some.inj hstyle')
  exact hread.trans (congrArg Except.ok hstyles)

/-- A font that states its name and its size need not come back. -/
theorem not_forall_font_restored :
    ¬ ∀ (events : List Event) (t : StyleTables) (i : Nat) (record : FormatRecord) (font : Font)
        (style : Style) (name : String) (size : Float), readStyleTables events = .ok t →
          t.records[i]? = some record → t.fonts[record.font]? = some font →
            font.name = some name → font.size = some size → t.styles[i]? = some style →
              (CellFormat.ofStyle style).fontName = name ∧
                (CellFormat.ofStyle style).size? = some size := by
  intro h
  obtain ⟨hname, -⟩ := h officeEvents _ 0 { font := 1 }
    { bold := true, name := some "Arial", size := some (Number.ofDecimal false 10 0) } _ "Arial" _
    readStyleTables_officeEvents rfl rfl rfl rfl rfl
  have hcalibri := @fontName_style (extended {} officeRoot) { font := 1 }
    { bold := true, name := some "Arial", size := some (Number.ofDecimal false 10 0) } "Arial"
    rfl rfl
  exact absurd (hname.symm.trans (hcalibri.trans (if_pos defaultFont_officeRoot))) (by decide)

end SheetTemplate.Xlsx
