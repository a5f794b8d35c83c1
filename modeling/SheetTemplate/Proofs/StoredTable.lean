import SheetTemplate.Proofs.StoredCells
import SheetTemplate.Proofs.StoredOutline

namespace SheetTemplate.Xlsx

open Xml Number

theorem unmarked_toChars (c : CellRef) : unmarked c.toChars = true := by
  refine List.all_eq_true.2 fun x hx => ?_
  have halnum : x.isAlpha ∨ x.isDigit := by
    rcases List.mem_append.1 hx with h | h
    · exact .inl (CellRef.isAlpha_of_mem_columnLetters h)
    · exact .inr (isDigit_of_mem_natDigits h)
  simp only [List.mem_cons, List.not_mem_nil, or_false, not_or, decide_eq_true_eq]
  refine ⟨?_, ?_, ?_, ?_, ?_⟩ <;> rintro rfl <;> revert halnum <;> decide

namespace PlacedCell

variable (p : PlacedCell)

theorem find?_place : p.tag.find? "r" = some (some (p.place.toChars.map byte)) := by
  have htext : p.place.toText.toList = p.place.toChars := String.toList_ofList
  unfold tag
  rw [find?_tagOf (areNames_cell p), attributes, List.cons_append, List.lookup_cons_self,
    Option.map_some, htext, escapedValue_unmarked (unmarked_toChars _), utf8_toChars]

def typeBytes : Option Bytes :=
  match p.cell.content with
  | .text _ => some [byte 's']
  | .bool _ => some [byte 'b']
  | _ => none

theorem find?_type : p.tag.find? "t" = some p.typeBytes := by
  have hlookup : (p.attributes ++ p.typeAttributes).lookup "t" = p.typeAttributes.lookup "t" := by
    unfold attributes
    split <;> rfl
  unfold tag
  rw [find?_tagOf (areNames_cell p), hlookup]
  unfold typeAttributes typeBytes
  cases p.cell.content <;> rfl

end PlacedCell

section

variable {τ α : Type} (reader : CellReader τ α) (st : τ)

def Reads (events : List Event) (l : List (CellRef × α)) : Prop :=
  ∀ pos fuel, events.length < fuel → readTable? reader fuel st pos events = some l

theorem reads_stop (rest : List Event) : Reads reader st (.stop "sheetData" :: rest) [] := by
  intro pos fuel hfuel
  obtain ⟨fuel, rfl⟩ := Nat.exists_eq_add_one_of_ne_zero (Nat.ne_zero_of_lt hfuel)
  rfl

variable {reader st} {rest : List Event} {l : List (CellRef × α)}

theorem reads_cell {p : PlacedCell} {a : α} (hsmall : Small p.place)
    (h : reader st p.place p.tag (p.innerEvents ++ .stop "c" :: rest) = some (a, st, rest))
    (hrest : Reads reader st rest l) : Reads reader st (p.events ++ rest) ((p.place, a) :: l) := by
  intro pos fuel hfuel
  obtain ⟨fuel, rfl⟩ := Nat.exists_eq_add_one_of_ne_zero (Nat.ne_zero_of_lt hfuel)
  have hevents : p.events ++ rest = .start p.tag :: (p.innerEvents ++ .stop "c" :: rest) := by
    simp [PlacedCell.events]
  have hname : localName p.tag.name = "c" := show localName "c" = "c" by decide
  rw [hevents] at hfuel ⊢
  simp only [List.length_cons, List.length_append] at hfuel
  rw [readTable?]
  simp only [hname, p.find?_place, cellPosition?_toChars hsmall]
  change ((reader st p.place p.tag _).bind _) = _
  rw [h]
  change (readTable? reader fuel st _ rest).bind _ = _
  rw [hrest _ fuel (by omega)]
  rfl

theorem reads_cells {value : PlacedCell → α} {run : List PlacedCell}
    (hsmall : ∀ p ∈ run, Small p.place)
    (h : ∀ p ∈ run, ∀ rest,
      reader st p.place p.tag (p.innerEvents ++ .stop "c" :: rest) = some (value p, st, rest))
    (hrest : Reads reader st rest l) :
    Reads reader st (run.flatMap PlacedCell.events ++ rest)
      (run.map (fun p => (p.place, value p)) ++ l) := by
  induction run with
  | nil => exact hrest
  | cons p run ih =>
    rw [List.forall_mem_cons] at hsmall h
    rw [List.flatMap_cons, List.append_assoc]
    exact reads_cell hsmall.1 (h.1 _) (ih hsmall.2 h.2)

theorem reads_run {value : PlacedCell → α} {run : List PlacedCell}
    (hrow : runRow run + 1 < 0x100000000) (hsmall : ∀ p ∈ run, Small p.place)
    (h : ∀ p ∈ run, ∀ rest,
      reader st p.place p.tag (p.innerEvents ++ .stop "c" :: rest) = some (value p, st, rest))
    (hrest : Reads reader st rest l) :
    Reads reader st (runEvents run ++ rest) (run.map (fun p => (p.place, value p)) ++ l) := by
  have hstop : Reads reader st (.stop "row" :: rest) l := by
    intro pos fuel hfuel
    obtain ⟨fuel, rfl⟩ := Nat.exists_eq_add_one_of_ne_zero (Nat.ne_zero_of_lt hfuel)
    exact hrest _ fuel (Nat.lt_of_succ_lt_succ hfuel)
  have hcells := reads_cells hsmall h hstop
  intro pos fuel hfuel
  obtain ⟨fuel, rfl⟩ := Nat.exists_eq_add_one_of_ne_zero (Nat.ne_zero_of_lt hfuel)
  have hnames : areNames [("r", natText (runRow run + 1))] = true := by simp +decide [areNames]
  have hplace : (tagOf "row" [("r", natText (runRow run + 1))]).find? "r" =
      some (some ((natDigits (runRow run + 1)).map byte)) := by
    rw [find?_tagOf hnames, List.lookup_cons_self, Option.map_some,
      escapedValue_unmarked (bare_natText _).plain, natText, String.toList_ofList, utf8_natDigits]
  have hname : localName "row" = "row" := by decide
  have hevents : runEvents run ++ rest = .start (tagOf "row" [("r", natText (runRow run + 1))]) ::
      (run.flatMap PlacedCell.events ++ .stop "row" :: rest) := by
    simp [runEvents]
  rw [hevents] at hfuel ⊢
  rw [readTable?]
  simp only [tagOf_name, hname, hplace, position?_digits hrow]
  exact hcells _ fuel (Nat.lt_of_succ_lt_succ hfuel)

theorem reads_runs {value : PlacedCell → α} {cells : List PlacedCell}
    (hsmall : ∀ p ∈ cells, Small p.place)
    (h : ∀ p ∈ cells, ∀ rest,
      reader st p.place p.tag (p.innerEvents ++ .stop "c" :: rest) = some (value p, st, rest))
    (hrest : Reads reader st rest l) :
    Reads reader st ((runs cells).flatMap runEvents ++ rest)
      (cells.map (fun p => (p.place, value p)) ++ l) := by
  have hflatten : (runs cells).flatten = cells := List.flatten_splitBy _ _
  have hruns (rs : List (List PlacedCell)) (hne : ∀ run ∈ rs, run ≠ [])
      (hcells : ∀ p ∈ rs.flatten, p ∈ cells) :
      Reads reader st (rs.flatMap runEvents ++ rest)
        (rs.flatten.map (fun p => (p.place, value p)) ++ l) := by
    induction rs with
    | nil => exact hrest
    | cons run rs ih =>
      rw [List.forall_mem_cons] at hne
      rw [List.flatten_cons, List.forall_mem_append] at hcells
      have hrow : runRow run + 1 < 0x100000000 := by
        obtain ⟨p, run, rfl⟩ := List.exists_cons_of_ne_nil hne.1
        exact (hsmall p (hcells.1 p List.mem_cons_self)).1
      rw [List.flatMap_cons, List.append_assoc, List.flatten_cons, List.map_append,
        List.append_assoc]
      exact reads_run hrow (fun p hp => hsmall p (hcells.1 p hp)) (fun p hp => h p (hcells.1 p hp))
        (ih hne.2 hcells.2)
  have hall := hruns (runs cells) (fun run hrun => List.ne_nil_of_mem_splitBy hrun)
    (by rw [hflatten]; exact fun _ => id)
  rwa [hflatten] at hall

/-- The cells of a sheet part, in order, with what the reader makes of each. -/
theorem cellsOf?_sheetEvents {value : PlacedCell → α} {cells : List PlacedCell}
    {merges : List Area} (hsmall : ∀ p ∈ cells, Small p.place)
    (h : ∀ p ∈ cells, ∀ rest,
      reader st p.place p.tag (p.innerEvents ++ .stop "c" :: rest) = some (value p, st, rest)) :
    cellsOf? reader st (sheetEvents cells merges) = some (cells.map fun p => (p.place, value p)) := by
  have htable := reads_runs hsmall h
    (reads_stop reader st ((mergesTree merges).events ++ [.stop "worksheet"]))
  rw [List.append_nil] at htable
  exact htable _ _ (Nat.lt_succ_self _)

end

def Content.stored? : Content → Option StoredValue
  | .blank => none
  | .number x => some (numberOrText (Number.plainText x))
  | .text s => some (.text (spelled s))
  | .bool b => some (.bool b)
  | .formula _ => some (numberOrText "0")

def PlacedCell.TextIn (strings : Array String) (p : PlacedCell) : Prop :=
  ∀ s, p.cell.content = .text s → p.next ≤ greatestNat64 ∧ strings[p.next]? = some (spelled s)

section

variable {strings : Array String} {cell : Tag} {rest : List Event}

theorem readText?_bare {name v : String} (h : Bare v) (rest : List Event) :
    readText? name (.text (utf8 v.toList) :: .stop name :: rest) = some (v, rest) := by
  have htext := readText?_escaped name v rest
  rwa [escaped_unmarked h.plain] at htext

theorem childValue?_value {v : String} (h : Bare v) {type : Option Bytes}
    (htype : cell.find? "t" = some type) (rest : List Event) :
    childValue? strings cell (tagOf "v" []) (.text (utf8 v.toList) :: .stop "v" :: rest) =
      (typedValue? strings type v).map (·, rest) := by
  have hname : localName "v" = "v" := by decide
  unfold childValue?
  simp only [tagOf_name, hname, readText?_bare h, htype, Option.bind_eq_bind, Option.bind_some]
  cases typedValue? strings type v <;> rfl

theorem skipElement?_formula (s : String) (rest : List Event) :
    skipElement? "f" 0 ((if s = "" then [] else [.text (utf8 (escaped s.toList))]) ++
      .stop "f" :: rest) = some rest := by
  split <;> rfl

theorem childValue?_formula (s : String) (rest : List Event) :
    childValue? strings cell (tagOf "f" []) ((if s = "" then [] else
      [.text (utf8 (escaped s.toList))]) ++ .stop "f" :: rest) = some (none, rest) := by
  have hname : localName "f" = "f" := by decide
  unfold childValue?
  simp only [tagOf_name, hname, skipElement?_formula]
  rfl

theorem readValue?_stop (fuel : Nat) (v : Option StoredValue) (rest : List Event) :
    readValue? strings cell (fuel + 1) v (.stop "c" :: rest) = some (v, rest) := by
  rw [readValue?, if_pos (by decide)]

theorem readValue?_child {child : Tag} {events : List Event} {v' : Option StoredValue}
    (h : childValue? strings cell child events = some (v', rest)) (fuel : Nat)
    (v : Option StoredValue) :
    readValue? strings cell (fuel + 1) v (.start child :: events) =
      readValue? strings cell fuel v' rest := by
  rw [readValue?, h]
  rfl

theorem readValue?_single {v : String} {value : Option StoredValue} (h : Bare v)
    {type : Option Bytes} (htype : cell.find? "t" = some type)
    (hvalue : typedValue? strings type v = some value) (fuel : Nat) (before : Option StoredValue)
    (rest : List Event) :
    readValue? strings cell (fuel + 2) before (valueEvents v ++ .stop "c" :: rest) =
      some (value, rest) := by
  have hchild := @childValue?_value strings cell v h type htype (.stop "c" :: rest)
  rw [hvalue] at hchild
  exact (readValue?_child hchild _ _).trans (readValue?_stop _ _ _)

end

section

variable {strings : Array String} {p : PlacedCell}

theorem typedValue?_number (v : String) :
    typedValue? strings none v = some (some (numberOrText v)) := rfl

theorem typedValue?_text {n : Nat} {s : String} (hn : n ≤ greatestNat64)
    (hs : strings[n]? = some s) :
    typedValue? strings (some [byte 's']) (natText n) = some (some (.text s)) := by
  have htype : Option.map Xml.plainText (some [byte 's']) = some "s" := by decide
  unfold typedValue?
  rw [htype]
  simp only [natText, String.toList_ofList, readUnsigned?_natDigits hn, Option.bind_eq_bind,
    Option.bind_some, hs]
  rfl

theorem typedValue?_bool (b : Bool) :
    typedValue? strings (some [byte 'b']) (if b then "1" else "0") = some (some (.bool b)) := by
  have htype : Option.map Xml.plainText (some [byte 'b']) = some "b" := by decide
  unfold typedValue?
  rw [htype]
  cases b <;> rfl

/-- In a cell with a formula a value follows, for readers that do not calculate. -/
theorem innerEvents_formula (next : Nat) (place : CellRef) (s : String) (format : Nat)
    (rest : List Event) :
    PlacedCell.innerEvents ⟨next, place, .formula s, format⟩ ++ .stop "c" :: rest =
      .start (tagOf "f" []) ::
        ((if s = "" then [] else [.text (utf8 (escaped s.toList))]) ++ .stop "f" ::
          (valueEvents "0" ++ .stop "c" :: rest)) := by
  simp [PlacedCell.innerEvents, PlacedCell.formulaText, PlacedCell.valueText, formulaEvents]

theorem exists_fuel_formula (next : Nat) (place : CellRef) (s : String) (format : Nat)
    (rest : List Event) :
    ∃ fuel, (PlacedCell.innerEvents ⟨next, place, .formula s, format⟩ ++
      .stop "c" :: rest).length + 1 = fuel + 2 + 1 := by
  rw [innerEvents_formula]
  exact ⟨_, by simp only [List.length_cons, List.length_append, valueEvents]; rfl⟩

theorem valueReader_cell (h : p.TextIn strings) (rest : List Event) :
    valueReader strings () p.place p.tag (p.innerEvents ++ .stop "c" :: rest) =
      some (p.cell.content.stored?, (), rest) := by
  have hread : readValue? strings p.tag ((p.innerEvents ++ .stop "c" :: rest).length + 1) none
      (p.innerEvents ++ .stop "c" :: rest) = some (p.cell.content.stored?, rest) := by
    have htype := p.find?_type
    obtain ⟨next, place, content, format⟩ := p
    cases content with
    | blank => exact readValue?_stop _ _ _
    | number x =>
      exact readValue?_single (bare_plainText x) htype (typedValue?_number _) (rest.length + 3) _ _
    | text s =>
      obtain ⟨hnext, hs⟩ := h s rfl
      exact readValue?_single (bare_natText next) htype (typedValue?_text hnext hs)
        (rest.length + 3) _ _
    | bool b =>
      exact readValue?_single (by cases b <;> exact ⟨by decide, by decide⟩) htype
        (typedValue?_bool b) (rest.length + 3) _ _
    | formula s =>
      obtain ⟨fuel, hfuel⟩ := exists_fuel_formula next place s format rest
      rw [hfuel, innerEvents_formula, readValue?_child (childValue?_formula s _)]
      exact readValue?_single ⟨by decide, by decide⟩ htype (typedValue?_number _) fuel _ _
  unfold valueReader
  rw [hread]
  rfl

end

section

variable {fs : SharedFormulas} {pos : CellRef}

theorem sharedFormula?_plain (name : String) (own before : Option String) :
    sharedFormula? fs pos (tagOf name []) own before = some (own <|> before, fs) := by
  have hnames : areNames [] = true := rfl
  unfold sharedFormula?
  rw [find?_tagOf hnames]
  rfl

theorem readFormula?_stop (fuel : Nat) (v : Option String) (rest : List Event) :
    readFormula? pos (fuel + 1) v fs (.stop "c" :: rest) = some (v, fs, rest) := by
  rw [readFormula?, if_pos (by decide)]

theorem readFormula?_child {name : String} {events rest : List Event} {own : Option String}
    (h : childFormula? (tagOf name []) events = some (own, rest)) (fuel : Nat)
    (v : Option String) :
    readFormula? pos (fuel + 1) v fs (.start (tagOf name []) :: events) =
      readFormula? pos fuel (own <|> v) fs rest := by
  simp only [readFormula?, h, Option.bind_eq_bind, Option.bind_some, sharedFormula?_plain]

theorem childFormula?_value (v : String) (rest : List Event) :
    childFormula? (tagOf "v" []) (.text (utf8 v.toList) :: .stop "v" :: rest) = some (none, rest) := by
  have hname : localName "v" = "v" := by decide
  unfold childFormula?
  simp only [tagOf_name, hname]
  rfl

theorem childFormula?_formula (s : String) (rest : List Event) :
    childFormula? (tagOf "f" []) ((if s = "" then [] else [.text (utf8 (escaped s.toList))]) ++
      .stop "f" :: rest) = some (some s, rest) := by
  have hname : localName "f" = "f" := by decide
  have hread : readText? "f" ((if s = "" then [] else [.text (utf8 (escaped s.toList))]) ++
      .stop "f" :: rest) = some (s, rest) := by
    split
    case isTrue hs =>
      subst hs
      rfl
    case isFalse => exact readText?_escaped "f" s rest
  unfold childFormula?
  simp only [tagOf_name, hname, hread]
  rfl

/-- A value inside of a cell does not change its formula. -/
theorem readFormula?_value (v : String) (fuel : Nat) (before : Option String) (rest : List Event) :
    readFormula? pos (fuel + 2) before fs (valueEvents v ++ .stop "c" :: rest) =
      some (before, fs, rest) :=
  (readFormula?_child (childFormula?_value v _) _ _).trans (readFormula?_stop _ _ _)

end

def Content.formulaText : Content → String
  | .formula s => s
  | _ => ""

def Content.formula? : Content → Option String
  | .formula s => if s.isEmpty then none else some s
  | _ => none

theorem formulaReader_cell (p : PlacedCell) (fs : SharedFormulas) (rest : List Event) :
    formulaReader fs p.place p.tag (p.innerEvents ++ .stop "c" :: rest) =
      some (p.cell.content.formulaText, fs, rest) := by
  have hread : readFormula? p.place ((p.innerEvents ++ .stop "c" :: rest).length + 1) none fs
      (p.innerEvents ++ .stop "c" :: rest) = some (p.formulaText, fs, rest) := by
    obtain ⟨next, place, content, format⟩ := p
    cases content with
    | blank => exact readFormula?_stop _ _ _
    | number x => exact readFormula?_value _ (rest.length + 3) _ _
    | text s => exact readFormula?_value _ (rest.length + 3) _ _
    | bool b => exact readFormula?_value _ (rest.length + 3) _ _
    | formula s =>
      obtain ⟨fuel, hfuel⟩ := exists_fuel_formula next place s format rest
      rw [hfuel, innerEvents_formula, readFormula?_child (childFormula?_formula s _)]
      exact readFormula?_value _ fuel _ _
  have htext : p.formulaText.getD "" = p.cell.content.formulaText := by
    unfold PlacedCell.formulaText
    cases p.cell.content <;> rfl
  unfold formulaReader
  rw [hread, ← htext]
  rfl

/-- Cells in order of their rows are all kept. -/
theorem withinRows_eq {α : Type} {l : List (CellRef × α)}
    (h : l.Pairwise fun a b => a.1.row ≤ b.1.row) : withinRows l = l := by
  rcases l.eq_nil_or_concat with rfl | ⟨before, last, rfl⟩
  · rfl
  rw [List.concat_eq_append] at h ⊢
  have hlast : ∀ a ∈ before ++ [last], a.1.row ≤ last.1.row := by
    rw [List.pairwise_append] at h
    rw [List.forall_mem_append]
    exact ⟨fun a ha => h.2.2 a ha last List.mem_cons_self, by simp⟩
  obtain ⟨first, after, hfirst⟩ := List.exists_cons_of_ne_nil
    (List.append_ne_nil_of_right_ne_nil before (List.cons_ne_nil last []))
  have hhead : ∀ a ∈ before ++ [last], first.1.row ≤ a.1.row := by
    rw [hfirst] at h ⊢
    rw [List.forall_mem_cons]
    exact ⟨Nat.le_refl _, (List.pairwise_cons.1 h).1⟩
  have hends : (before ++ [last]).head? = some first ∧ (before ++ [last]).getLast? = some last :=
    ⟨by rw [hfirst]; rfl, List.getLast?_concat⟩
  unfold withinRows
  rw [hends.1, hends.2]
  refine List.filter_eq_self.2 fun a ha => ?_
  simp [hhead a ha, hlast a ha]

section

variable {cells : List PlacedCell} {merges : List Area}

theorem values?_sheetEvents {strings : Array String} (hsmall : ∀ p ∈ cells, Small p.place)
    (hrows : cells.Pairwise fun p q => p.place.row ≤ q.place.row)
    (htexts : ∀ p ∈ cells, p.TextIn strings) :
    values? strings (sheetEvents cells merges) =
      some (cells.filterMap fun p => p.cell.content.stored?.map (p.place, ·)) := by
  have hcells := @cellsOf?_sheetEvents _ _ (valueReader strings) () _ cells merges hsmall
    fun p hp => valueReader_cell (htexts p hp)
  unfold values? storedValues?
  rw [hcells]
  change some (withinRows ((cells.map _).filterMap _)) = _
  rw [List.filterMap_map, withinRows_eq]
  · rfl
  · refine List.Pairwise.filterMap _ (fun p q hpq a ha b hb => ?_) hrows
    obtain ⟨v, -, rfl⟩ := Option.map_eq_some_iff.1 ha
    obtain ⟨w, -, rfl⟩ := Option.map_eq_some_iff.1 hb
    exact hpq

theorem formulas?_sheetEvents (hsmall : ∀ p ∈ cells, Small p.place)
    (hrows : cells.Pairwise fun p q => p.place.row ≤ q.place.row) :
    formulas? (sheetEvents cells merges) =
      some (cells.filterMap fun p => p.cell.content.formula?.map (p.place, ·)) := by
  have hcells := @cellsOf?_sheetEvents _ _ formulaReader [] _ cells merges hsmall
    fun p _ => formulaReader_cell p []
  have hkept : (cells.map fun p => (p.place, p.cell.content.formulaText)).filter
      (fun c => !c.2.isEmpty) =
        cells.filterMap fun p => p.cell.content.formula?.map (p.place, ·) := by
    rw [List.filter_map, ← List.filterMap_eq_filter, List.map_filterMap]
    refine List.filterMap_congr fun p _ => ?_
    cases hcontent : p.cell.content with
    | formula s =>
      by_cases hs : s.isEmpty <;>
        simp [Option.guard, hcontent, Content.formulaText, Content.formula?, hs]
    | _ => simp [Option.guard, hcontent, Content.formulaText, Content.formula?]
  unfold formulas?
  rw [hcells]
  change some (withinRows (List.filter (fun c : CellRef × String => !c.2.isEmpty) _)) = _
  rw [withinRows_eq, hkept]
  refine List.Pairwise.filter _ (List.pairwise_map.2 ?_)
  exact hrows

theorem merges?_append {l l' : List Event} {a b : List (CellRef × CellRef)}
    (h : merges? l = some a) (h' : merges? l' = some b) : merges? (l ++ l') = some (a ++ b) := by
  induction l generalizing a with
  | nil =>
    cases h
    exact h'
  | cons e l ih =>
    cases e with
    | broken => cases h
    | stop _ => exact ih h
    | text _ => exact ih h
    | start t =>
      rw [List.cons_append]
      unfold merges? at h ⊢
      split at h
      case isFalse hname =>
        rw [if_neg hname]
        exact ih h
      case isTrue hname =>
        rw [if_pos hname]
        obtain ⟨r, hr, h⟩ := Option.bind_eq_some_iff.1 h
        rw [hr]
        cases r with
        | none => exact ih h
        | some r =>
          obtain ⟨corners, hcorners, h⟩ := Option.bind_eq_some_iff.1 h
          obtain ⟨more, hmore, h⟩ := Option.bind_eq_some_iff.1 h
          cases h
          simp only [Option.bind_eq_bind, Option.bind_some, hcorners, ih hmore]
          rfl

theorem merges?_silent {l : List Event} (h : ∀ e ∈ l, Silent "mergeCell" e) :
    merges? l = some [] := by
  induction l with
  | nil => rfl
  | cons e l ih =>
    rw [List.forall_mem_cons] at h
    cases e with
    | broken => exact h.1.elim
    | stop _ => exact ih h.2
    | text _ => exact ih h.2
    | start t =>
      rw [merges?, if_neg h.1]
      exact ih h.2

theorem silent_inner {element : String} (h : element ∉ ["f", "v"]) (p : PlacedCell) :
    ∀ e ∈ p.innerEvents, Silent element e := by
  simp only [List.mem_cons, List.not_mem_nil, or_false, not_or] at h
  have hvalue (v : String) : ∀ e ∈ valueEvents v, Silent element e := by
    have hname : localName "v" = "v" := by decide
    simp [valueEvents, Silent, hname, Ne.symm h.2]
  have hformula (s : String) : ∀ e ∈ formulaEvents s, Silent element e := by
    have hname : localName "f" = "f" := by decide
    unfold formulaEvents
    split <;> simp [Silent, hname, Ne.symm h.1]
  unfold PlacedCell.innerEvents
  simp only [List.forall_mem_append, List.forall_mem_flatMap]
  exact ⟨fun s _ => hformula s, fun v _ => hvalue v⟩

/-- Between the cells of the table stands nothing but rows. -/
theorem silent_rows {element : String} (h : element ∉ ["row", "c", "f", "v"]) :
    ∀ e ∈ (runs cells).flatMap runEvents, Silent element e := by
  have hinner : element ∉ ["f", "v"] :=
    fun hmem => h (List.mem_cons_of_mem _ (List.mem_cons_of_mem _ hmem))
  simp only [List.mem_cons, List.not_mem_nil, or_false, not_or] at h
  have hrow : localName "row" = "row" := by decide
  have hcell (p : PlacedCell) : localName p.tag.name = "c" := show localName "c" = "c" by decide
  simp only [List.forall_mem_flatMap, runEvents, PlacedCell.events, List.forall_mem_cons,
    List.forall_mem_append, Silent, tagOf_name, hrow, hcell]
  exact fun run _ => ⟨Ne.symm h.1, fun p _ => ⟨Ne.symm h.2.1, silent_inner hinner p, trivial,
    List.forall_mem_nil _⟩, trivial, List.forall_mem_nil _⟩

/-- The merged regions of a stored sheet, as their corners. -/
theorem merges?_region {a : Area} (h : Small a.topLeft ∧ Small a.bottomRight) :
    merges? [.start (tagOf "mergeCell" [("ref", a.toText)]), .stop "mergeCell"] =
      some [(a.topLeft, a.bottomRight)] := by
  have hname : localName "mergeCell" = "mergeCell" := by decide
  have hnames : areNames [("ref", a.toText)] = true := by simp +decide [areNames]
  have htext : a.toText.toList = a.toChars := String.toList_ofList
  have hunmarked : unmarked a.toChars = true := by
    have := unmarked_toChars a.topLeft
    have := unmarked_toChars a.bottomRight
    simp_all [unmarked, Area.toChars]
  rw [merges?, tagOf_name, if_pos hname, find?_tagOf hnames, List.lookup_cons_self,
    Option.map_some, htext, escapedValue_unmarked hunmarked]
  simp only [Option.bind_eq_bind, Option.bind_some, dimension?_toChars h.1 h.2]
  rfl

theorem merges?_mergesTree (h : ∀ a ∈ merges, Small a.topLeft ∧ Small a.bottomRight) :
    merges? (mergesTree merges).events = some (merges.map fun a => (a.topLeft, a.bottomRight)) := by
  have hregions : merges? (merges.flatMap fun a => [.start (tagOf "mergeCell" [("ref", a.toText)]),
      .stop "mergeCell"]) = some (merges.map fun a => (a.topLeft, a.bottomRight)) := by
    induction merges with
    | nil => rfl
    | cons a merges ih =>
      rw [List.forall_mem_cons] at h
      exact merges?_append (merges?_region h.1) (ih h.2)
  unfold mergesTree
  split
  case isTrue hempty =>
    rw [List.isEmpty_iff.1 hempty]
    rfl
  case isFalse =>
    rw [Elements.single, Elements.events, Elements.events, events_each_nil, List.cons_append,
      merges?, tagOf_name, if_neg (by decide)]
    have hall := merges?_append hregions (show merges? [.stop "mergeCells"] = some [] from rfl)
    rwa [List.append_nil] at hall

theorem merges?_sheetEvents (h : ∀ a ∈ merges, Small a.topLeft ∧ Small a.bottomRight) :
    merges? (sheetEvents cells merges) = some (merges.map fun a => (a.topLeft, a.bottomRight)) := by
  have hstart : merges? sheetStart = some [] :=
    merges?_silent (by simp +decide [sheetStart, Silent])
  have hrows := merges?_silent (@silent_rows cells "mergeCell" (by decide))
  have hend : merges? [.stop "worksheet"] = some [] := rfl
  have hall := merges?_append hstart (merges?_append hrows (merges?_append
    (show merges? [.stop "sheetData"] = some [] from rfl)
    (merges?_append (merges?_mergesTree h) hend)))
  rwa [List.nil_append, List.nil_append, List.nil_append, List.append_nil] at hall

def StoredCell.style? (cell : StoredCell) : Option Nat :=
  if cell.format = 0 then none else some cell.format

def PlacedCell.styled (p : PlacedCell) : Option (CellRef × Nat) := p.cell.style?.map (p.place, ·)

theorem written_cell (p : PlacedCell) :
    (Fields.written (p.attributes ++ p.typeAttributes)).get? "r" = some p.place.toText ∧
      (Fields.written (p.attributes ++ p.typeAttributes)).get? "s" =
        if p.cell.format = 0 then none else some (natText p.cell.format) := by
  have htype : (Fields.written p.typeAttributes).get? "r" = none ∧
      (Fields.written p.typeAttributes).get? "s" = none := by
    unfold PlacedCell.typeAttributes
    cases p.cell.content <;> exact ⟨rfl, rfl⟩
  have hget (key : String) (h : (Fields.written p.typeAttributes).get? key = none) :
      (Fields.written (p.attributes ++ p.typeAttributes)).get? key =
        (Fields.written p.attributes).get? key := by
    unfold Fields.written Fields.get? at h ⊢
    rw [List.map_append, List.reverse_append, List.lookup_append, h, Option.none_or]
  rw [hget _ htype.1, hget _ htype.2]
  unfold PlacedCell.attributes
  split <;> simp +decide [Fields.written, Fields.get?, localName_plain, List.lookup_cons]

theorem pairs_cell (p : PlacedCell) : Fields.pairs "c" "r" "s" p.events =
    .ok (p.styled.toList.map fun e => (e.1.toText, natText e.2)) := by
  have hstart : Fields.pairs "c" "r" "s" [.start p.tag] =
      .ok (p.styled.toList.map fun e => (e.1.toText, natText e.2)) := by
    unfold PlacedCell.tag
    rw [pairs_startTag (by decide) (areNames_cell p), pairOf, (written_cell p).1, (written_cell p).2]
    unfold PlacedCell.styled StoredCell.style?
    by_cases h : p.cell.format = 0 <;> simp [h]
  have hinner := @pairs_silent "c" "r" "s" _ (silent_inner (by decide) p)
  have hall := pairs_append hstart (pairs_append hinner
    (show Fields.pairs "c" "r" "s" [.stop "c"] = .ok [] from rfl))
  rwa [List.append_nil, List.append_nil] at hall

theorem ofText?_toText {c : CellRef} (h : Small c) : CellRef.ofText? c.toText = some c := by
  obtain ⟨hrow, hcol⟩ := h
  have haddressable : c.Addressable := by
    unfold CellRef.Addressable greatestNat64
    omega
  unfold CellRef.ofText? CellRef.toText
  rw [String.toList_ofList]
  exact CellRef.ofChars?_toChars haddressable

theorem readStyledCells_eq {events : List Event} {l : List (CellRef × Nat)}
    (h : Fields.pairs "c" "r" "s" events = .ok (l.map fun e => (e.1.toText, natText e.2)))
    (hl : ∀ e ∈ l, Small e.1 ∧ e.2 ≤ greatestNat64) : readStyledCells events = .ok l := by
  unfold readStyledCells
  rw [h]
  change List.mapM _ _ = _
  clear h
  induction l with
  | nil => rfl
  | cons e l ih =>
    rw [List.forall_mem_cons] at hl
    rw [List.map_cons, List.mapM_cons, ih hl.2]
    simp only [ofText?_toText hl.1.1, natText, String.toList_ofList, readUnsigned?_natDigits hl.1.2]
    rfl

/-- The styled cells of a stored sheet, each with its format. -/
theorem pairs_run (run : List PlacedCell) :
    Fields.pairs "c" "r" "s" (runEvents run) =
      .ok (run.flatMap fun p => p.styled.toList.map fun e => (e.1.toText, natText e.2)) := by
  have hcells := @pairs_flatMap "c" "r" "s" _ run _ _ fun p _ => pairs_cell p
  have hrow : Fields.pairs "c" "r" "s" [.start (tagOf "row" [("r", natText (runRow run + 1))])] =
      .ok [] := by
    refine pairs_silent ?_
    simp +decide [Silent]
  have hall := pairs_append hrow (pairs_append hcells
    (show Fields.pairs "c" "r" "s" [.stop "row"] = .ok [] from rfl))
  rwa [List.nil_append, List.append_nil] at hall

theorem pairs_mergesTree (merges : List Area) :
    Fields.pairs "c" "r" "s" (mergesTree merges).events = .ok [] := by
  refine pairs_silent ?_
  unfold mergesTree
  split
  case isTrue => exact List.forall_mem_nil _
  case isFalse =>
    have hname : localName "mergeCells" ≠ "c" ∧ localName "mergeCell" ≠ "c" := by decide
    rw [Elements.single, Elements.events, Elements.events, events_each_nil]
    simp only [List.forall_mem_cons, List.forall_mem_append, List.forall_mem_flatMap, Silent,
      tagOf_name]
    exact ⟨⟨hname.1, fun _ _ => ⟨hname.2, trivial, List.forall_mem_nil _⟩⟩, trivial,
      List.forall_mem_nil _⟩

theorem readStyledCells_sheetEvents (hsmall : ∀ p ∈ cells, Small p.place)
    (hformats : ∀ p ∈ cells, p.cell.format ≤ greatestNat64) :
    readStyledCells (sheetEvents cells merges) = .ok (cells.filterMap PlacedCell.styled) := by
  have hstart : Fields.pairs "c" "r" "s" sheetStart = .ok [] :=
    pairs_silent (by simp +decide [sheetStart, Silent])
  have hflatten : (runs cells).flatMap (fun run => run) = cells :=
    List.flatMap_id'.trans (List.flatten_splitBy _ _)
  have hrows := pairs_flatMap fun run (_ : run ∈ runs cells) => pairs_run run
  have hall := pairs_append hstart (pairs_append hrows
    (pairs_append (show Fields.pairs "c" "r" "s" [.stop "sheetData"] = .ok [] from rfl)
      (pairs_append (pairs_mergesTree merges)
        (show Fields.pairs "c" "r" "s" [.stop "worksheet"] = .ok [] from rfl))))
  rw [List.nil_append, List.nil_append, List.nil_append, List.append_nil, ← List.flatMap_assoc,
    hflatten, ← List.map_flatMap, ← List.filterMap_eq_flatMap_toList] at hall
  refine readStyledCells_eq hall fun e he => ?_
  obtain ⟨p, hp, hstyled⟩ := List.mem_filterMap.1 he
  obtain ⟨format, hformat, rfl⟩ := Option.map_eq_some_iff.1 hstyled
  unfold StoredCell.style? at hformat
  split at hformat
  case isTrue => cases hformat
  case isFalse =>
    cases hformat
    exact ⟨hsmall p hp, hformats p hp⟩

end

end SheetTemplate.Xlsx
