import Mathlib.Data.List.Induction
import SheetTemplate.Proofs.ElementTree
import SheetTemplate.Proofs.Failing
import SheetTemplate.Xlsx.StyleTable

namespace SheetTemplate.Xlsx

open Xml

def Fields.readable (t : Tag) : Bool := (Fields.ofTag t).toOption.isSome

def Section.title : Section → String
  | numberFormats => "numFmts"
  | fonts => "fonts"
  | fills => "fills"
  | borders => "borders"
  | records => "cellXfs"
  | outside | other => ""

def Section.entry : Section → String
  | numberFormats => "numFmt"
  | fonts => "font"
  | fills => "fill"
  | borders => "border"
  | records => "xf"
  | outside | other => ""

def Section.properties : Section → List String
  | fonts => ["b", "i", "sz", "name", "color"]
  | fills => ["patternFill", "fgColor"]
  | borders => ["left", "start", "right", "end", "top", "bottom"]
  | records => ["alignment", "protection"]
  | outside | numberFormats | other => []

namespace StyleTree

def fields (t : Tag) : Fields := (Fields.ofTag t).toOption.getD []

def lastNamed (names : List String) (l : List Tag) : Option Fields :=
  ((l.filter fun t => localName t.name ∈ names).getLast?).map fields

def children (es : Elements) : List Tag := es.list.map (·.1)

def font (l : List Tag) : Font :=
  { bold := (lastNamed ["b"] l).any (·.flag "val" true)
    italic := (lastNamed ["i"] l).any (·.flag "val" true)
    size := (lastNamed ["sz"] l).bind fun f => (f.get? "val").bind (Number.readFloat? ·.toList)
    name := (lastNamed ["name"] l).bind (·.get? "val")
    color := (lastNamed ["color"] l).bind color? }

def foregrounds (es : Elements) : List Tag :=
  (es.named "patternFill").flatMap fun (tag, inside) =>
    if (fields tag).get? "patternType" = some "solid" then (inside.named "fgColor").map (·.1) else []

def fill (es : Elements) : Option Nat := (foregrounds es).getLast?.bind fun t => color? (fields t)

def edge (names : List String) (l : List Tag) : BorderLine :=
  match lastNamed names l with
  | some f => borderLine ((f.get? "style").getD "")
  | none => .none

def border (l : List Tag) : Border :=
  { left := edge ["left", "start"] l
    right := edge ["right", "end"] l
    top := edge ["top"] l
    bottom := edge ["bottom"] l }

def alignment (l : List Tag) : Alignment :=
  match lastNamed ["alignment"] l with
  | some f =>
    ⟨horizontalAlign (f.get? "horizontal"), verticalAlign (f.get? "vertical"),
      f.flag "wrapText" false⟩
  | none => {}

def protection (l : List Tag) : Protection :=
  match lastNamed ["protection"] l with
  | some f => ⟨f.flag "locked" true, f.flag "hidden" false⟩
  | none => {}

def entries (root : Elements) (s : Section) : List (Tag × Elements) :=
  (root.named s.title).flatMap fun e => e.2.named s.entry

def codes (root : Elements) : List (Nat × String) :=
  (entries root .numberFormats).filterMap fun e => numberCode? (fields e.1)

def fonts (root : Elements) : List Font :=
  (entries root .fonts).map fun e => font (children e.2)

def fills (root : Elements) : List (Option Nat) :=
  (entries root .fills).map fun e => fill e.2

def borders (root : Elements) : List Border :=
  (entries root .borders).map fun e => border (children e.2)

/-- The format of an index: the last code that the sheet gives for it, before the known ones. -/
def numberFormat (root : Elements) (index : Nat) : NumberFormat :=
  match (codes root).reverse.lookup index with
  | some code => .ofCode code
  | none =>
    if index = 0 then .general
    else
      match builtinCode? index with
      | some code => .custom code
      | none => .builtin index

/-- The font at a place, without the name and size that the first font has too. -/
def ownFont (root : Elements) (i : Nat) : Font :=
  let own := (fonts root).getD i {}
  let first := (fonts root).getD 0 {}
  { own with
    name := if own.name == first.name then none else own.name
    size := if own.size == first.size then none else own.size }

/-- The style of a record; a place that is not there stands for the default. -/
def style (root : Elements) (xf : Tag × Elements) : Style :=
  let f := fields xf.1
  let index := f.index "numFmtId"
  { font := ownFont root (f.index "fontId")
    fill := (fills root).getD (f.index "fillId") none
    border := (borders root).getD (f.index "borderId") {}
    alignment := alignment (children xf.2)
    protection := protection (children xf.2)
    numberFormat := numberFormat root (if index ≤ 0xFFFF then index else 0) }

def styles (root : Elements) : List Style := (entries root .records).map (style root)

/-- Only the sections that count decide the styles. -/
theorem styles_congr {root root' : Elements}
    (h : ∀ s, Section.title s ≠ "" → root'.named (Section.title s) = root.named (Section.title s)) :
    styles root' = styles root := by
  have hentries (s : Section) (hs : s.title ≠ "") : entries root' s = entries root s := by
    unfold entries
    rw [h s hs]
  unfold styles style ownFont numberFormat fonts fills borders codes
  simp only [hentries .numberFormats (by decide), hentries .fonts (by decide),
    hentries .fills (by decide), hentries .borders (by decide), hentries .records (by decide)]

inductive Place where
  | root
  | uncounted
  | within (s : Section)
  | entry (s : Section)
  | pattern
  | beyond (s : Section)
deriving DecidableEq

/-- The place inside of an element of this name, if such an element may stand at the place:
sections that count are children of the root, entries of their section, properties of their
entry, and the colours of a pattern are inside of it. -/
def Place.next? (p : Place) (name : String) : Option Place :=
  match p, Section.ofName? name with
  | root, none | root, some .other | uncounted, none | uncounted, some .other => some uncounted
  | root, some s => some (within s)
  | within s, none =>
    if name = s.entry then some (entry s)
    else if name ∈ s.properties then none
    else some (beyond s)
  | entry .fills, none =>
    if name = "patternFill" then some pattern
    else if name = "fill" ∨ name = "fgColor" then none
    else some (beyond .fills)
  | entry s, none => if name = s.entry then none else some (beyond s)
  | pattern, none => if name = "fill" ∨ name = "patternFill" then none else some (beyond .fills)
  | beyond s, none => if name = s.entry ∨ name ∈ s.properties then none else some (beyond s)
  | _, some _ => none

/-- Every element stands where it may stand. The attributes of all elements but sections must be
readable. -/
def fits : Place → Elements → Bool
  | _, .nil => true
  | p, .cons tag inside after =>
    let name := localName tag.name
    ((Section.ofName? name).isSome || Fields.readable tag) &&
      (match p.next? name with
      | some q => fits q inside
      | none => false) &&
      fits p after

theorem fits_cons_iff {p : Place} {tag : Tag} {inside after : Elements} :
    fits p (.cons tag inside after) = true ↔
      (Section.ofName? (localName tag.name) = none → Fields.readable tag = true) ∧
      (∃ q, p.next? (localName tag.name) = some q ∧ fits q inside = true) ∧
      fits p after = true := by
  simp only [fits, Bool.and_eq_true, Bool.or_eq_true, and_assoc]
  refine and_congr ?_ (and_congr ?_ Iff.rfl)
  · cases Section.ofName? (localName tag.name) <;> simp
  · cases p.next? (localName tag.name) <;> simp

section

variable {s : Section} {name : String} {q : Place}

theorem next?_root :
    Place.root.next? name = some q ↔
      (Section.ofName? name = none ∨ Section.ofName? name = some .other) ∧ q = .uncounted ∨
        ∃ s, Section.ofName? name = some s ∧ s ≠ .other ∧ q = .within s := by
  unfold Place.next?
  rcases Section.ofName? name with _ | (_ | _ | _ | _ | _ | _ | _) <;> simp [eq_comm]

theorem next?_uncounted :
    Place.uncounted.next? name = some q ↔
      (Section.ofName? name = none ∨ Section.ofName? name = some .other) ∧ q = .uncounted := by
  unfold Place.next?
  rcases Section.ofName? name with _ | (_ | _ | _ | _ | _ | _ | _) <;> simp [eq_comm]

theorem next?_within :
    (Place.within s).next? name = some q ↔ Section.ofName? name = none ∧
      (name = s.entry ∧ q = .entry s ∨
        name ≠ s.entry ∧ name ∉ s.properties ∧ q = .beyond s) := by
  unfold Place.next?
  cases Section.ofName? name with
  | some _ => simp
  | none => grind

theorem next?_entry (hs : s ≠ .fills) :
    (Place.entry s).next? name = some q ↔
      Section.ofName? name = none ∧ name ≠ s.entry ∧ q = .beyond s := by
  unfold Place.next?
  cases Section.ofName? name with
  | some _ => simp
  | none => cases s <;> grind

theorem next?_fill :
    (Place.entry .fills).next? name = some q ↔ Section.ofName? name = none ∧
      (name = "patternFill" ∧ q = .pattern ∨ name ≠ "patternFill" ∧ name ≠ "fill" ∧
        name ≠ "fgColor" ∧ q = .beyond .fills) := by
  unfold Place.next?
  cases Section.ofName? name with
  | some _ => simp
  | none => grind

theorem next?_pattern :
    Place.pattern.next? name = some q ↔ Section.ofName? name = none ∧
      name ≠ "fill" ∧ name ≠ "patternFill" ∧ q = .beyond .fills := by
  unfold Place.next?
  cases Section.ofName? name with
  | some _ => simp
  | none => grind

theorem next?_beyond :
    (Place.beyond s).next? name = some q ↔ Section.ofName? name = none ∧
      name ≠ s.entry ∧ name ∉ s.properties ∧ q = .beyond s := by
  unfold Place.next?
  cases Section.ofName? name with
  | some _ => simp
  | none => grind

end

def Place.InEntry (s : Section) (p : Place) : Prop :=
  p = entry s ∨ p = beyond s ∨ p = pattern ∧ s = .fills

theorem Place.InEntry.next {s : Section} {p q : Place} {name : String} (h : p.InEntry s)
    (hq : p.next? name = some q) :
    Section.ofName? name = none ∧ name ≠ s.entry ∧ q.InEntry s := by
  rcases h with rfl | rfl | ⟨rfl, rfl⟩
  · by_cases hs : s = .fills
    · subst hs
      obtain ⟨hname, ⟨rfl, rfl⟩ | ⟨-, hfill, -, rfl⟩⟩ := next?_fill.1 hq
      · exact ⟨hname, by decide, .inr (.inr ⟨rfl, rfl⟩)⟩
      · exact ⟨hname, hfill, .inr (.inl rfl)⟩
    · obtain ⟨hname, hentry, rfl⟩ := (next?_entry hs).1 hq
      exact ⟨hname, hentry, .inr (.inl rfl)⟩
  · obtain ⟨hname, hentry, -, rfl⟩ := next?_beyond.1 hq
    exact ⟨hname, hentry, .inr (.inl rfl)⟩
  · obtain ⟨hname, hfill, -, rfl⟩ := next?_pattern.1 hq
    exact ⟨hname, hfill, .inr (.inl rfl)⟩

/-- Nothing inside of an entry is a section or another entry. -/
theorem Place.InEntry.tags {s : Section} {p : Place} (h : p.InEntry s) {es : Elements}
    (hfits : fits p es = true) :
    ∀ t ∈ es.tags, Section.ofName? (localName t.name) = none ∧ localName t.name ≠ s.entry ∧
      Fields.readable t = true := by
  induction es generalizing p with
  | nil => rintro t ⟨⟩
  | cons tag inside after ihinside ihafter =>
    obtain ⟨hreadable, ⟨q, hq, hinside⟩, hafter⟩ := fits_cons_iff.1 hfits
    obtain ⟨hname, hentry, hnext⟩ := h.next hq
    change ∀ t ∈ tag :: (inside.tags ++ after.tags), _
    rw [List.forall_mem_cons, List.forall_mem_append]
    exact ⟨⟨hname, hentry, hreadable hname⟩, ihinside hnext hinside, ihafter h hafter⟩

def amended {α : Type} (amend : α → String → Fields → α) (l : List Tag) (x : α) : α :=
  l.foldl (fun x t => amend x (localName t.name) (fields t)) x

/-- What a property of each next element changes, all elements together say. -/
theorem amended_eq {α : Type} {amend : α → String → Fields → α} {value : List Tag → α}
    (h : ∀ l t, value (l ++ [t]) = amend (value l) (localName t.name) (fields t)) (l : List Tag) :
    amended amend l (value []) = value l := by
  induction l using List.reverseRecOn with
  | nil => rfl
  | append_singleton l t ih =>
    unfold amended at ih ⊢
    rw [List.foldl_append, ih, h]
    rfl

theorem lastNamed_concat (names : List String) (l : List Tag) (t : Tag) :
    lastNamed names (l ++ [t]) =
      if localName t.name ∈ names then some (fields t) else lastNamed names l := by
  unfold lastNamed
  rw [List.filter_append]
  by_cases h : localName t.name ∈ names
  · simp [h]
  · simp [h]

theorem font_concat (l : List Tag) (t : Tag) :
    font (l ++ [t]) = fontWith (font l) (localName t.name) (fields t) := by
  unfold font
  simp only [lastNamed_concat, List.mem_singleton]
  generalize localName t.name = name
  fun_cases fontWith <;> simp_all

theorem border_concat (l : List Tag) (t : Tag) :
    border (l ++ [t]) = borderWith (border l) (localName t.name) (fields t) := by
  unfold border edge
  simp only [lastNamed_concat, List.mem_cons, List.not_mem_nil, or_false]
  generalize localName t.name = name
  fun_cases borderWith <;> simp_all <;> rfl

def record (f : Fields) (l : List Tag) : FormatRecord :=
  { recordOf f with alignment := alignment l, protection := protection l }

theorem record_concat (f : Fields) (l : List Tag) (t : Tag) :
    record f (l ++ [t]) = recordWith (record f l) (localName t.name) (fields t) := by
  unfold record alignment protection
  simp only [lastNamed_concat, List.mem_singleton]
  generalize localName t.name = name
  fun_cases recordWith <;> simp_all

def fillWith (x : Option Nat × Bool) (name : String) (f : Fields) : Option Nat × Bool :=
  match name with
  | "patternFill" => (x.1, f.get? "patternType" == some "solid")
  | "fgColor" => (if x.2 then color? f else x.1, x.2)
  | _ => x

section

variable {s : Section} {α : Type} {amend : α → String → Fields → α}

theorem amended_append (l l' : List Tag) (x : α) :
    amended amend (l ++ l') x = amended amend l' (amended amend l x) := List.foldl_append

/-- Elements that are no properties say nothing. -/
theorem amended_beyond (hother : ∀ x name f, name ∉ s.properties → amend x name f = x)
    {es : Elements} (h : fits (.beyond s) es = true) (x : α) : amended amend es.tags x = x := by
  induction es with
  | nil => rfl
  | cons tag inside after ihinside ihafter =>
    obtain ⟨-, ⟨q, hq, hinside⟩, hafter⟩ := fits_cons_iff.1 h
    obtain ⟨-, -, hname, rfl⟩ := next?_beyond.1 hq
    change amended amend (inside.tags ++ after.tags) (amend x _ _) = x
    rw [hother x _ _ hname, amended_append, ihinside hinside, ihafter hafter]

/-- Outside of fills, only the elements right inside of an entry say something of it. -/
theorem amended_entry (hother : ∀ x name f, name ∉ s.properties → amend x name f = x)
    (hs : s ≠ .fills) {es : Elements} (h : fits (.entry s) es = true) (x : α) :
    amended amend es.tags x = amended amend (children es) x := by
  induction es generalizing x with
  | nil => rfl
  | cons tag inside after _ ihafter =>
    obtain ⟨-, ⟨q, hq, hinside⟩, hafter⟩ := fits_cons_iff.1 h
    obtain ⟨-, -, rfl⟩ := (next?_entry hs).1 hq
    change amended amend (inside.tags ++ after.tags) (amend x _ _) =
      amended amend (children after) (amend x _ _)
    rw [amended_append, amended_beyond hother hinside, ihafter hafter]

end

theorem fillWith_other (x : Option Nat × Bool) (name : String) (f : Fields)
    (h : name ∉ Section.properties .fills) : fillWith x name f = x := by
  fun_cases fillWith <;> simp_all [Section.properties]

def lastColor (l : List Tag) (before : Option Nat) : Option Nat :=
  match l.getLast? with
  | some t => color? (fields t)
  | none => before

theorem lastColor_append (l l' : List Tag) (before : Option Nat) :
    lastColor (l ++ l') before = lastColor l' (lastColor l before) := by
  unfold lastColor
  rw [List.getLast?_append]
  cases l'.getLast? <;> rfl

theorem amended_pattern {es : Elements} (h : fits .pattern es = true) (color : Option Nat)
    (solid : Bool) :
    amended fillWith es.tags (color, solid) =
      (if solid then lastColor ((es.named "fgColor").map (·.1)) color else color, solid) := by
  induction es generalizing color with
  | nil => cases solid <;> rfl
  | cons tag inside after _ ihafter =>
    obtain ⟨-, ⟨q, hq, hinside⟩, hafter⟩ := fits_cons_iff.1 h
    obtain ⟨-, hfill, hpattern, rfl⟩ := next?_pattern.1 hq
    change amended fillWith (inside.tags ++ after.tags) (fillWith _ _ _) = _
    rw [amended_append, amended_beyond fillWith_other hinside]
    by_cases hname : localName tag.name = "fgColor"
    · rw [hname, Elements.named_cons, if_pos hname, List.map_append, lastColor_append]
      change amended fillWith after.tags (if solid then color? (fields tag) else color, solid) = _
      rw [ihafter hafter]
      cases solid <;> rfl
    · rw [Elements.named_cons, if_neg hname, fillWith_other, ihafter hafter]
      · rfl
      · simp [Section.properties, hpattern, hname]

theorem fill_eq (es : Elements) : fill es = lastColor (foregrounds es) none := by
  unfold fill lastColor
  cases (foregrounds es).getLast? <;> rfl

/-- A fill has the last foreground colour of its solid patterns. -/
theorem amended_fill {es : Elements} (h : fits (.entry .fills) es = true) (color : Option Nat)
    (solid : Bool) :
    (amended fillWith es.tags (color, solid)).1 = lastColor (foregrounds es) color := by
  induction es generalizing color solid with
  | nil => rfl
  | cons tag inside after _ ihafter =>
    obtain ⟨-, ⟨q, hq, hinside⟩, hafter⟩ := fits_cons_iff.1 h
    obtain ⟨-, ⟨hname, rfl⟩ | ⟨hpattern, hfill, hcolor, rfl⟩⟩ := next?_fill.1 hq
    · change (amended fillWith (inside.tags ++ after.tags) (fillWith _ _ _)).1 = _
      rw [hname, amended_append]
      change (amended fillWith after.tags (amended fillWith inside.tags (color, _))).1 = _
      rw [amended_pattern hinside, ihafter hafter]
      unfold foregrounds
      rw [Elements.named_cons, if_pos hname, List.flatMap_append, lastColor_append]
      congr 1
      by_cases hsolid : (fields tag).get? "patternType" = some "solid"
      · simp [hsolid]
      · simp [hsolid, lastColor]
    · change (amended fillWith (inside.tags ++ after.tags) (fillWith _ _ _)).1 = _
      rw [amended_append, amended_beyond fillWith_other hinside, fillWith_other, ihafter hafter]
      · unfold foregrounds
        rw [Elements.named_cons, if_neg hpattern, List.nil_append]
      · simp [Section.properties, hpattern, hcolor]

end StyleTree

end SheetTemplate.Xlsx
