import SheetTemplate.Render.Pass

namespace SheetTemplate

structure Rendering (σ : Type) where
  book : Workbook
  engine : σ
  stats : RenderStats := {}
  journal : Journal := #[]

namespace Rendering

variable {σ : Type}

def startPass (κ : Type) [MergeLookup κ] (r : Rendering σ) (s : Sheet) (area : Area) : Pass κ σ :=
  { sheet := s
    styles := r.book.styles
    area
    written := []
    merges := MergeLookup.start
    engine := r.engine
    stats := r.stats
    journal := r.journal }

def ofPass {κ : Type} (r : Rendering σ) (p : Pass κ σ) : Rendering σ :=
  { book :=
      { sheets := Workbook.updateFirst p.sheet.name (fun _ => p.sheet) r.book.sheets
        styles := p.styles
        names_nodup := by rw [Workbook.map_name_updateFirst]; exact r.book.names_nodup }
    engine := p.engine
    stats := p.stats
    journal := p.journal }

def addLine (r : Rendering σ) (e : LogEntry) : Rendering σ :=
  { r with journal := r.journal.push e }

def renderSheet (κ : Type) [MergeLookup κ] [Evaluator σ] (r : Rendering σ) (s : Sheet) :
    Except SheetError Unit × Rendering σ :=
  match s.extent? with
  | none => (.ok (), r.addLine ⟨.debug, Pass.topic, "sheet " ++ s.name ++ " is empty"⟩)
  | some area =>
    let (result, p) := (r.startPass κ s area).run area.topLeft s.textCount
    (result, r.ofPass p)

def finishSheet (r : Rendering σ) (name : String) (before : Nat) : Rendering σ :=
  let r := { r with stats.sheets := r.stats.sheets + 1 }
  r.addLine ⟨.info, Pass.topic, "rendered sheet " ++ name ++ " (" ++
    Number.natText (r.stats.formulas - before) ++ " formulas)"⟩

def renderSheets (κ : Type) [MergeLookup κ] [Evaluator σ] (r : Rendering σ) :
    List String → Except SheetError Unit × Rendering σ
  | [] => (.ok (), r)
  | name :: rest =>
    match r.book.sheet name with
    | .error e => (.error e, r)
    | .ok s =>
      match r.renderSheet κ s with
      | (.error e, r') => (.error e, r')
      | (.ok _, r') => (r'.finishSheet name r.stats.formulas).renderSheets κ rest

end Rendering

def renderWith (κ : Type) [MergeLookup κ] {σ : Type} [Evaluator σ] (book : Workbook) (engine : σ) :
    Except SheetError Unit × Rendering σ :=
  Rendering.renderSheets κ { book, engine } book.sheetNames

def render {σ : Type} [Evaluator σ] (book : Workbook) (engine : σ) :
    Except SheetError Unit × Rendering σ :=
  renderWith MergeCache book engine

end SheetTemplate
