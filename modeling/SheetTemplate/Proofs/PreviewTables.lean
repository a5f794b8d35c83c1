import SheetTemplate.Proofs.Delimiters
import SheetTemplate.Proofs.Spelling

namespace SheetTemplate.Preview

open Number

def padded (s : String) : List Char := ' ' :: (s.toList ++ [' '])

/-- The pipes of a text that stay unescaped when it is escaped: those that already have an odd
number of backslashes before them, where carriage returns are left out. -/
def loosePipes (s : String) : Nat := pipes true (s.toList.filter (· ≠ '\r'))

def rowTexts (book : Workbook) (s : Sheet) (a : Area) (row : Nat) : List String :=
  (List.range a.width).map fun col => cellText book s ⟨row, a.left + col⟩

/-- The unescaped pipes of a line are those around a first cell and the cells of `width` columns. -/
structure Framed (width : Nat) (line : String) (first : List Char) (cells : List (List Char)) :
    Prop where
  pipes_eq : pipes false line.toList = width + 2
  fields_eq : fields line.toList = [] :: first :: (cells ++ [[]])

structure ShowsRow (width : Nat) (line : String) (number : Nat) (texts : List String) :
    Prop where
  pipes_eq : pipes false line.toList = width + 2 + (texts.map loosePipes).sum
  fields_eq : fields line.toList =
    [] :: padded (natText number) ::
      ((texts.flatMap fun text => fields (padded (escape text))) ++ [[]])
  framed : (∀ text ∈ texts, loosePipes text = 0) →
    Framed width line (padded (natText number)) (texts.map fun text => padded (escape text))

/-- The lines of a table over an area: the letters of the columns, a rule, and the rows. -/
structure ShowsTable (book : Workbook) (s : Sheet) (a : Area) (table : List String) : Prop where
  length_eq : table.length = a.height + 2
  unbroken : ∀ line ∈ table, '\n' ∉ line.toList ∧ '\r' ∉ line.toList
  header : ∃ line, table[0]? = some line ∧
    Framed a.width line (padded " ")
      ((List.range a.width).map fun col => padded (CellRef.columnText (a.left + col)))
  rule : ∃ line, table[1]? = some line ∧
    Framed a.width line "---".toList (List.replicate a.width "---".toList)
  row : ∀ r < a.height, ∃ line, table[r + 2]? = some line ∧
    ShowsRow a.width line (a.top + r + 1) (rowTexts book s a (a.top + r))

theorem toList_escape (s : String) : (escape s).toList = s.toList.flatMap escapeChar :=
  String.toList_ofList

/-- The escape is one backslash, so that it turns the parity before each pipe. -/
theorem flatMap_escapeChar (e : Bool) (t : List Char) :
    escaping (t.flatMap escapeChar) = escaping (t.filter (· ≠ '\r')) ∧
      pipes e (t.flatMap escapeChar) = pipes (!e) (t.filter (· ≠ '\r')) := by
  -- Whether a pipe is escaped is told by what stands before it, so the text grows at its end.
  induction t using List.reverseRecOn with
  | nil => exact ⟨rfl, rfl⟩
  | append_singleton t c ih =>
    obtain ⟨hescaping, hpipes⟩ := ih
    rw [List.flatMap_append, List.filter_append, List.flatMap_singleton]
    generalize t.flatMap escapeChar = escaped at *
    generalize t.filter (· ≠ '\r') = kept at *
    fun_cases escapeChar c with
    | case1 =>
      have hkept : ['|'].filter (· ≠ '\r') = ['|'] := rfl
      rw [List.append_cons, hkept, escaping_concat, escaping_concat, pipes_concat, pipes_concat,
        pipes_concat, escaping_concat, hpipes]
      simp [hescaping]
    | case2 =>
      have hkept : ['\n'].filter (· ≠ '\r') = ['\n'] := rfl
      rw [hkept]
      simp [hpipes]
    | case3 =>
      have hkept : ['\r'].filter (· ≠ '\r') = [] := rfl
      rw [hkept, List.append_nil, List.append_nil]
      exact ⟨hescaping, hpipes⟩
    | case4 c hpipe hbreak hreturn =>
      have hkept : [c].filter (· ≠ '\r') = [c] := List.filter_eq_self.2 (by simpa using hreturn)
      have hnot (b : Bool) (s : List Char) : ¬ (c = '|' ∧ escaping s = b) := fun h => hpipe h.1
      rw [hkept, escaping_concat, escaping_concat, pipes_concat, pipes_concat, hescaping, hpipes,
        if_neg (hnot _ _), if_neg (hnot _ _)]
      exact ⟨rfl, rfl⟩

theorem pipes_escape (s : String) : pipes false (escape s).toList = loosePipes s := by
  rw [toList_escape, (flatMap_escapeChar false s.toList).2]
  rfl

theorem unbroken_escape (s : String) : '\n' ∉ (escape s).toList ∧ '\r' ∉ (escape s).toList := by
  have hchar (c : Char) : '\n' ∉ escapeChar c ∧ '\r' ∉ escapeChar c := by
    fun_cases escapeChar c with
    | case1 | case2 | case3 => decide
    | case4 c hpipe hbreak hreturn => simp [Ne.symm hbreak, Ne.symm hreturn]
  rw [toList_escape, List.mem_flatMap, List.mem_flatMap]
  exact ⟨fun ⟨c, _, h⟩ => (hchar c).1 h, fun ⟨c, _, h⟩ => (hchar c).2 h⟩

theorem escaping_padded (s : String) : escaping (padded s) = false := by
  change escaping ([' '] ++ s.toList ++ [' ']) = false
  rw [escaping_concat]
  rfl

theorem pipes_padded (e : Bool) (s : String) : pipes e (padded s) = pipes e s.toList := by
  have hspace : pipes e [' '] = 0 := pipes_eq_zero e (by decide)
  change pipes e ([' '] ++ (s.toList ++ [' '])) = _
  rw [pipes_append e rfl, hspace, Nat.zero_add, pipes_concat, if_neg (by simp), Nat.add_zero]

theorem toList_tableLine (first : String) (cells : List String) :
    (tableLine first cells).toList = framed ((first :: cells).map padded) := by
  have hcells : (String.join (cells.map fun c => " " ++ c ++ " |")).toList =
      (cells.map padded).flatMap (· ++ ['|']) := by
    rw [String.toList_join, List.flatMap_map, List.flatMap_map]
    refine List.flatMap_congr fun c _ => ?_
    simp [padded]
  rw [tableLine, String.toList_append, hcells]
  simp [framed, padded]

theorem toList_ruleLine (width : Nat) :
    (ruleLine width).toList = framed (List.replicate (width + 1) "---".toList) := by
  have hcells : (String.join (List.replicate width "---|")).toList =
      (List.replicate width "---".toList).flatMap (· ++ ['|']) := by
    induction width with
    | zero => rfl
    | succ width ih =>
      rw [List.replicate_succ, List.replicate_succ, String.join_cons, String.toList_append, ih]
      rfl
  rw [ruleLine, String.toList_append, hcells]
  rfl

theorem Framed.of_toList {line : String} {first : List Char} {cells : List (List Char)}
    (h : line.toList = framed (first :: cells))
    (hcells : ∀ c ∈ first :: cells, escaping c = false ∧ pipes false c = 0) :
    Framed cells.length line first cells := by
  have hfields : fields line.toList = [] :: first :: (cells ++ [[]]) := by
    rw [h, fields_framed fun c hc => (hcells c hc).1,
      List.flatMap_congr fun c hc => fields_eq_singleton (hcells c hc).2, List.flatMap_singleton',
      List.cons_append]
  have hlength := length_fields line.toList
  rw [hfields, List.length_cons, List.length_cons, List.length_append,
    List.length_singleton] at hlength
  exact ⟨by omega, hfields⟩

theorem isAlphanum_of_mem_columnText {col : Nat} :
    ∀ c ∈ (CellRef.columnText col).toList, c.isAlphanum := by
  intro c hc
  rw [CellRef.columnText, String.toList_ofList] at hc
  rw [Char.isAlphanum, CellRef.isAlpha_of_mem_columnLetters hc, Bool.true_or]

theorem isAlphanum_of_mem_natText {n : Nat} : ∀ c ∈ (natText n).toList, c.isAlphanum := by
  intro c hc
  rw [natText, String.toList_ofList] at hc
  rw [Char.isAlphanum, isDigit_of_mem_natDigits hc, Bool.or_true]

theorem not_mem_of_isAlphanum {s : List Char} (h : ∀ c ∈ s, c.isAlphanum) :
    '|' ∉ s ∧ '\n' ∉ s ∧ '\r' ∉ s :=
  ⟨fun hc => absurd (h _ hc) (by decide), fun hc => absurd (h _ hc) (by decide),
    fun hc => absurd (h _ hc) (by decide)⟩

theorem escaping_of_mem_padded {cells : List String} :
    ∀ c ∈ cells.map padded, escaping c = false := by
  rw [List.forall_mem_map]
  exact fun text _ => escaping_padded text

/-- A line whose cells hold no unescaped pipe of their own. -/
theorem framed_tableLine {first : String} {cells : List String}
    (h : ∀ c ∈ first :: cells, pipes false c.toList = 0) :
    Framed cells.length (tableLine first cells) (padded first) (cells.map padded) := by
  have hcells : ∀ c ∈ (first :: cells).map padded, escaping c = false ∧ pipes false c = 0 := by
    rw [List.forall_mem_map]
    exact fun text htext =>
      ⟨escaping_padded text, (pipes_padded false text).trans (h text htext)⟩
  have hframed := Framed.of_toList (toList_tableLine first cells) hcells
  rwa [List.length_map] at hframed

theorem framed_ruleLine (width : Nat) :
    Framed width (ruleLine width) "---".toList (List.replicate width "---".toList) := by
  have hframed := Framed.of_toList (toList_ruleLine width) fun c hc => by
    rw [List.eq_of_mem_replicate (n := width + 1) hc]
    decide
  rwa [List.length_replicate] at hframed

theorem pipes_tableLine (first : String) (cells : List String) :
    pipes false (tableLine first cells).toList =
      cells.length + 2 + ((first :: cells).map fun c => pipes false c.toList).sum := by
  rw [toList_tableLine, pipes_framed escaping_of_mem_padded, List.length_map, List.length_cons,
    List.map_map]
  congr 2
  refine List.map_congr_left fun c _ => ?_
  rw [Function.comp_apply, pipes_padded]

theorem showsRow (number : Nat) (texts : List String) :
    ShowsRow texts.length (tableLine (natText number) (texts.map escape)) number texts := by
  have hnumber : pipes false (natText number).toList = 0 :=
    pipes_eq_zero false (not_mem_of_isAlphanum isAlphanum_of_mem_natText).1
  constructor
  case pipes_eq =>
    have hloose : (texts.map escape).map (fun c => pipes false c.toList) =
        texts.map loosePipes := by
      rw [List.map_map]
      refine List.map_congr_left fun text _ => ?_
      rw [Function.comp_apply, pipes_escape]
    rw [pipes_tableLine, List.length_map, List.map_cons, hloose, List.sum_cons, hnumber,
      Nat.zero_add]
  case fields_eq =>
    have hfirst : fields (padded (natText number)) = [padded (natText number)] :=
      fields_eq_singleton ((pipes_padded false _).trans hnumber)
    rw [toList_tableLine, fields_framed escaping_of_mem_padded, List.map_cons, List.flatMap_cons,
      hfirst, List.map_map, List.flatMap_map]
    rfl
  case framed =>
    intro h
    have hcells : ∀ c ∈ natText number :: texts.map escape, pipes false c.toList = 0 := by
      rw [List.forall_mem_cons, List.forall_mem_map]
      exact ⟨hnumber, fun text htext => (pipes_escape text).trans (h text htext)⟩
    have hframed := framed_tableLine hcells
    rwa [List.length_map, List.map_map] at hframed

theorem unbroken_tableLine {first : String} {cells : List String}
    (h : ∀ s ∈ first :: cells, '\n' ∉ s.toList ∧ '\r' ∉ s.toList) :
    '\n' ∉ (tableLine first cells).toList ∧ '\r' ∉ (tableLine first cells).toList := by
  have hpadded {c : Char} (hspace : c ≠ ' ') (hcells : ∀ s ∈ first :: cells, c ∉ s.toList) :
      ∀ s ∈ (first :: cells).map padded, c ∉ s := by
    intro s hs
    obtain ⟨text, htext, rfl⟩ := List.mem_map.1 hs
    simp [padded, hspace, hcells text htext]
  rw [toList_tableLine]
  exact ⟨not_mem_framed (by decide) (hpadded (by decide) fun s hs => (h s hs).1),
    not_mem_framed (by decide) (hpadded (by decide) fun s hs => (h s hs).2)⟩

theorem unbroken_ruleLine (width : Nat) :
    '\n' ∉ (ruleLine width).toList ∧ '\r' ∉ (ruleLine width).toList := by
  have hdashes {c : Char} (hc : c ∉ "---".toList) :
      ∀ s ∈ List.replicate (width + 1) "---".toList, c ∉ s := by
    intro s hs
    rwa [List.eq_of_mem_replicate hs]
  rw [toList_ruleLine]
  exact ⟨not_mem_framed (by decide) (hdashes (by decide)),
    not_mem_framed (by decide) (hdashes (by decide))⟩

section

variable (book : Workbook) (s : Sheet) (a : Area)

theorem tableLines_eq :
    tableLines book s a =
      tableLine " " ((List.range a.width).map fun col => CellRef.columnText (a.left + col)) ::
        ruleLine a.width :: (List.range a.height).map fun r =>
          tableLine (natText (a.top + r + 1)) ((rowTexts book s a (a.top + r)).map escape) := by
  simp only [tableLines, rowTexts, List.range'_eq_map_range, List.map_map]
  rfl

theorem length_rowTexts (row : Nat) : (rowTexts book s a row).length = a.width := by
  rw [rowTexts, List.length_map, List.length_range]

theorem showsTable : ShowsTable book s a (tableLines book s a) where
  length_eq := by rw [tableLines_eq]; simp
  unbroken := by
    rw [tableLines_eq, List.forall_mem_cons, List.forall_mem_cons, List.forall_mem_map]
    refine ⟨unbroken_tableLine ?_, unbroken_ruleLine _, fun r _ => unbroken_tableLine ?_⟩
    · rw [List.forall_mem_cons, List.forall_mem_map]
      exact ⟨by decide, fun col _ => (not_mem_of_isAlphanum isAlphanum_of_mem_columnText).2⟩
    · rw [List.forall_mem_cons, List.forall_mem_map]
      exact ⟨(not_mem_of_isAlphanum isAlphanum_of_mem_natText).2,
        fun text _ => unbroken_escape text⟩
  header := by
    rw [tableLines_eq]
    refine ⟨_, rfl, ?_⟩
    have hcells : ∀ c ∈ " " :: (List.range a.width).map
        fun col => CellRef.columnText (a.left + col), pipes false c.toList = 0 := by
      rw [List.forall_mem_cons, List.forall_mem_map]
      exact ⟨by decide, fun col _ =>
        pipes_eq_zero false (not_mem_of_isAlphanum isAlphanum_of_mem_columnText).1⟩
    have hframed := framed_tableLine hcells
    rwa [List.length_map, List.length_range, List.map_map] at hframed
  rule := by
    rw [tableLines_eq]
    exact ⟨_, rfl, framed_ruleLine _⟩
  row := by
    intro r hr
    have hrow := showsRow (a.top + r + 1) (rowTexts book s a (a.top + r))
    rw [length_rowTexts] at hrow
    rw [tableLines_eq]
    refine ⟨_, ?_, hrow⟩
    rw [List.getElem?_cons_succ, List.getElem?_cons_succ, List.getElem?_map,
      List.getElem?_range hr]
    rfl

end

variable {book : Workbook}

theorem intercalate_cons (sep x : List String) (back : List (List String)) :
    sep.intercalate (x :: back) = x ++ back.flatMap (sep ++ ·) := by
  induction back generalizing x with
  | nil => rw [List.intercalate_singleton, List.flatMap_nil, List.append_nil]
  | cons y back ih => rw [List.intercalate_cons_cons, ih, List.flatMap_cons, List.append_assoc,
      List.append_assoc]

theorem intercalate_append_cons (sep x : List String) (front back : List (List String)) :
    sep.intercalate (front ++ x :: back) =
      front.flatMap (· ++ sep) ++ (x ++ back.flatMap (sep ++ ·)) := by
  induction front with
  | nil => exact intercalate_cons sep x back
  | cons y front ih =>
    obtain ⟨z, rest, hrest⟩ := List.exists_cons_of_ne_nil
      (List.append_ne_nil_of_right_ne_nil front (List.cons_ne_nil x back))
    rw [List.cons_append, hrest, List.intercalate_cons_cons, ← hrest, ih, List.flatMap_cons,
      List.append_assoc, List.append_assoc, List.append_assoc]

theorem splitOn_joined {ls : List String} (h : ∀ line ∈ ls, '\n' ∉ line.toList) :
    (String.join (ls.map (· ++ "\n"))).toList.splitOn '\n' = ls.map String.toList ++ [[]] := by
  induction ls with
  | nil => rfl
  | cons line ls ih =>
    rw [List.forall_mem_cons] at h
    have hline : (line ++ "\n").toList = line.toList ++ ['\n'] := String.toList_append
    rw [List.map_cons, String.join_cons, String.toList_append, hline, List.append_assoc,
      List.singleton_append, List.splitOn_append_cons_self_of_not_mem h.1, ih h.2]
    rfl

theorem unbroken_sheetLines {s : Sheet} (hname : '\n' ∉ s.name.toList) :
    ∀ line ∈ sheetLines book s, '\n' ∉ line.toList := by
  rw [sheetLines, List.forall_mem_cons, List.forall_mem_cons]
  refine ⟨?_, by decide, ?_⟩
  · rw [String.toList_append, List.mem_append]
    exact fun h => h.elim (by decide) hname
  · split
    · decide
    · exact fun line hline => ((showsTable book s _).unbroken line hline).1

theorem lines_eq {front back : List Sheet} {s : Sheet} (h : book.sheets = front ++ s :: back) :
    lines book =
      (front.flatMap fun s => sheetLines book s ++ [""]) ++
        (sheetLines book s ++ back.flatMap fun s => "" :: sheetLines book s) := by
  have hjoined := intercalate_append_cons [""] (sheetLines book s) (front.map (sheetLines book))
    (back.map (sheetLines book))
  rw [List.flatMap_map, List.flatMap_map] at hjoined
  rw [lines, h, List.map_append, List.map_cons]
  exact hjoined

theorem unbroken_lines (hnames : ∀ s ∈ book.sheets, '\n' ∉ s.name.toList) :
    ∀ line ∈ lines book, '\n' ∉ line.toList := by
  rcases hsheets : book.sheets with _ | ⟨s, back⟩
  · rw [lines, hsheets]
    exact List.forall_mem_nil _
  · rw [hsheets, List.forall_mem_cons] at hnames
    intro line hline
    have hlines := @lines_eq book [] back s hsheets
    rw [hlines, List.flatMap_nil, List.nil_append, List.mem_append, List.mem_flatMap] at hline
    rcases hline with hline | ⟨s', hs', hline⟩
    · exact unbroken_sheetLines hnames.1 line hline
    · rcases List.mem_cons.1 hline with rfl | hline
      · decide
      · exact unbroken_sheetLines (hnames.2 s' hs') line hline

/-- The lines of the preview, and among them those of the table of each sheet that is not empty. -/
theorem text_tables (hnames : ∀ s ∈ book.sheets, '\n' ∉ s.name.toList) :
    (text book).toList.splitOn '\n' = (lines book).map String.toList ++ [[]] ∧
      ∀ front s back a, book.sheets = front ++ s :: back → s.extent? = some a →
        ∃ table, ShowsTable book s a table ∧
          lines book =
            (front.flatMap fun s => sheetLines book s ++ [""]) ++
              (("# " ++ s.name) :: "" :: table ++
                back.flatMap fun s => "" :: sheetLines book s) := by
  refine ⟨splitOn_joined (unbroken_lines hnames), fun front s back a hsheets harea => ?_⟩
  refine ⟨tableLines book s a, showsTable book s a, ?_⟩
  have hsheet : sheetLines book s = ("# " ++ s.name) :: "" :: tableLines book s a := by
    rw [sheetLines, harea]
  rw [lines_eq hsheets, hsheet]

def pipedSheet (text : String) : Sheet :=
  (({ name := "S" } : Sheet).setValue ⟨0, 0⟩ (.text text)).setValue ⟨0, 1⟩ (.text "x")

def pipedBook (text : String) : Workbook where
  sheets := [pipedSheet text]

theorem text_tables_pipe :
    ∃ line, (lines (pipedBook "a|b"))[4]? = some line ∧
      Framed 2 line (padded "1") [padded "a\\|b", padded "x"] := by
  have harea : (pipedSheet "a|b").extent? = some ⟨0, 0, 1, 0⟩ := by cbv
  have htexts : rowTexts (pipedBook "a|b") (pipedSheet "a|b") ⟨0, 0, 1, 0⟩ 0 = ["a|b", "x"] := by
    cbv
  obtain ⟨-, htables⟩ := @text_tables (pipedBook "a|b") (by decide)
  obtain ⟨table, htable, hlines⟩ := htables [] (pipedSheet "a|b") [] _ rfl harea
  obtain ⟨line, hline, hrow⟩ := htable.row 0 (by decide)
  rw [htexts] at hrow
  refine ⟨line, ?_, hrow.framed (by decide)⟩
  rw [hlines, List.flatMap_nil, List.nil_append, List.flatMap_nil, List.append_nil]
  exact hline

/-- A backslash before a pipe takes the escape, and the line has a pipe too many. -/
theorem not_forall_pipes_eq :
    ¬ ∀ (book : Workbook) (s : Sheet) (a : Area),
        (∀ s ∈ book.sheets, '\n' ∉ s.name.toList ∧ '\r' ∉ s.name.toList) →
          s ∈ book.sheets → s.extent? = some a →
            ∀ line ∈ tableLines book s a, pipes false line.toList = a.width + 2 := by
  have harea : (pipedSheet "\\|").extent? = some ⟨0, 0, 1, 0⟩ := by cbv
  have hlines : tableLines (pipedBook "\\|") (pipedSheet "\\|") ⟨0, 0, 1, 0⟩ =
      ["|   | A | B |", "|---|---|---|", "| 1 | \\\\| | x |"] := by cbv
  intro h
  have hpipes := h (pipedBook "\\|") (pipedSheet "\\|") _ (by decide) (List.mem_singleton_self _)
    harea "| 1 | \\\\| | x |" (by rw [hlines]; decide)
  exact absurd hpipes (by decide)

end SheetTemplate.Preview
