import SheetTemplate.Proofs.MarkupValues
import SheetTemplate.Proofs.StyleTree

namespace SheetTemplate.Xlsx

open Xml StyleTree

def StyleReader.idle (s : Section) (T : StyleTables) : StyleReader := { inside := s, tables := T }

/-- How the reader works on the entries of a section: an entry is opened, amended by the elements
inside of it, and put into its table. -/
structure EntryKind (s : Section) (α : Type) where
  start : Fields → α
  amend : α → String → Fields → α
  opened : StyleTables → α → StyleReader
  add : StyleTables → List α → StyleTables
  add_nil : ∀ T, add T [] = T
  add_cons : ∀ T x l, add (add T [x]) l = add T (x :: l)
  enter_entry : ∀ T f, (StyleReader.idle s T).enter s.entry f = opened T (start f)
  stop_entry : ∀ T x, (opened T x).stop s.entry = .idle s (add T [x])
  enter_opened : ∀ T x name f, name ≠ s.entry → (opened T x).enter name f = opened T (amend x name f)
  stop_opened : ∀ T x name, Section.ofName? name = none → name ≠ s.entry →
    (opened T x).stop name = opened T x
  enter_idle : ∀ T name f, name ≠ s.entry → name ∉ s.properties →
    (StyleReader.idle s T).enter name f = .idle s T
  stop_idle : ∀ T name, Section.ofName? name = none → name ≠ s.entry →
    (StyleReader.idle s T).stop name = .idle s T
  amend_other : ∀ x name f, name ∉ s.properties → amend x name f = x

theorem stop_of_ne {r : StyleReader} {name : String} (hname : Section.ofName? name = none)
    (h : name ≠ r.inside.entry) : r.stop name = r := by
  unfold StyleReader.stop
  rw [hname]
  split
  case isTrue h' => cases h'
  case isFalse =>
    split
    all_goals first | rfl | simp_all [Section.entry]

def fontKind : EntryKind .fonts Font where
  start _ := {}
  amend := fontWith
  opened T x := { inside := .fonts, tables := T, font := some x }
  add T l := { T with fonts := T.fonts ++ l }
  add_nil T := by simp
  add_cons T x l := by simp
  enter_entry _ _ := rfl
  stop_entry _ _ := rfl
  enter_opened T x name f h := by simp_all [StyleReader.enter, Section.entry]
  stop_opened T x name hname h := stop_of_ne hname h
  enter_idle T name f h _ := by simp_all [StyleReader.enter, StyleReader.idle, Section.entry]
  stop_idle T name hname h := stop_of_ne hname h
  amend_other x name f h := by
    fun_cases fontWith <;> simp_all [Section.properties]

def borderKind : EntryKind .borders Border where
  start _ := {}
  amend := borderWith
  opened T x := { inside := .borders, tables := T, border := some x }
  add T l := { T with borders := T.borders ++ l }
  add_nil T := by simp
  add_cons T x l := by simp
  enter_entry _ _ := rfl
  stop_entry _ _ := rfl
  enter_opened T x name f h := by simp_all [StyleReader.enter, Section.entry]
  stop_opened T x name hname h := stop_of_ne hname h
  enter_idle T name f h _ := by simp_all [StyleReader.enter, StyleReader.idle, Section.entry]
  stop_idle T name hname h := stop_of_ne hname h
  amend_other x name f h := by
    fun_cases borderWith <;> simp_all [Section.properties]

def recordKind : EntryKind .records FormatRecord where
  start := recordOf
  amend := recordWith
  opened T x := { inside := .records, tables := T, record := some x }
  add T l := { T with records := T.records ++ l }
  add_nil T := by simp
  add_cons T x l := by simp
  enter_entry _ _ := rfl
  stop_entry _ _ := rfl
  enter_opened T x name f h := by simp_all [StyleReader.enter, Section.entry]
  stop_opened T x name hname h := stop_of_ne hname h
  enter_idle T name f h _ := by simp_all [StyleReader.enter, StyleReader.idle, Section.entry]
  stop_idle T name hname h := stop_of_ne hname h
  amend_other x name f h := by
    fun_cases recordWith <;> simp_all [Section.properties]

def numberKind : EntryKind .numberFormats (Option (Nat × String)) where
  start := numberCode?
  amend x _ _ := x
  opened T x := .idle .numberFormats { T with codes := x.toList ++ T.codes }
  add T l := { T with codes := (l.filterMap id).reverse ++ T.codes }
  add_nil T := by simp
  add_cons T x l := by cases x <;> simp
  enter_entry _ _ := rfl
  stop_entry _ x := by cases x <;> rfl
  enter_opened T x name f h := by simp_all [StyleReader.enter, StyleReader.idle, Section.entry]
  stop_opened T x name hname h := stop_of_ne hname h
  enter_idle T name f h _ := by simp_all [StyleReader.enter, StyleReader.idle, Section.entry]
  stop_idle T name hname h := stop_of_ne hname h
  amend_other _ _ _ _ := rfl

def fillKind : EntryKind .fills (Option Nat × Bool) where
  start _ := (none, false)
  amend := fillWith
  opened T x := { inside := .fills, tables := T, fill := some x.1, solid := x.2 }
  add T l := { T with fills := T.fills ++ l.map (·.1) }
  add_nil T := by simp
  add_cons T x l := by simp
  enter_entry _ _ := rfl
  stop_entry _ _ := rfl
  enter_opened T x name f h := by
    obtain ⟨color, solid⟩ := x
    cases solid <;> fun_cases fillWith <;> simp_all [StyleReader.enter, Section.entry]
  stop_opened T x name hname h := stop_of_ne hname h
  enter_idle T name f h hprops := by
    simp_all [StyleReader.enter, StyleReader.idle, Section.entry, Section.properties]
  stop_idle T name hname h := stop_of_ne hname h
  amend_other x name f h := by
    fun_cases fillWith <;> simp_all [Section.properties]

theorem step_start {r : StyleReader} {tag : Tag} (hname : Section.ofName? (localName tag.name) = none)
    (hreadable : Fields.readable tag = true) :
    r.step (.start tag) = .ok (r.enter (localName tag.name) (fields tag)) := by
  change r.start tag = _
  unfold StyleReader.start
  rw [hname]
  unfold fields
  cases h : Fields.ofTag tag with
  | ok f => rfl
  | error e =>
    rw [Fields.readable, h] at hreadable
    cases hreadable

/-- An element is read from its start over what is inside of it to its end. -/
theorem walk_cons {r r₁ r₂ : StyleReader} {tag : Tag} {inside after : Elements}
    (hstart : r.step (.start tag) = .ok r₁) (hinside : inside.walk StyleReader.step r₁ = .ok r₂) :
    (Elements.cons tag inside after).walk StyleReader.step r =
      after.walk StyleReader.step (r₂.stop (localName tag.name)) := by
  rw [Elements.walk, hstart]
  change inside.walk _ r₁ >>= _ = _
  rw [hinside]
  rfl

section

variable {s : Section} {α : Type} (K : EntryKind s α) (T : StyleTables) {es : Elements}

include K in
/-- Inside an element that is not an entry nothing is noted. -/
theorem EntryKind.walk_beyond (h : fits (.beyond s) es = true) :
    es.walk StyleReader.step (.idle s T) = .ok (.idle s T) := by
  induction es with
  | nil => rfl
  | cons tag inside after ihinside ihafter =>
    obtain ⟨hreadable, ⟨q, hq, hinside⟩, hafter⟩ := fits_cons_iff.1 h
    obtain ⟨hname, hentry, hprop, rfl⟩ := next?_beyond.1 hq
    have hstart := step_start (r := .idle s T) hname (hreadable hname)
    rw [K.enter_idle _ _ _ hentry hprop] at hstart
    rw [walk_cons hstart (ihinside hinside), K.stop_idle _ _ hname hentry, ihafter hafter]

/-- Inside an open entry all elements amend it. -/
theorem EntryKind.walk_opened
    (h : ∀ t ∈ es.tags, Section.ofName? (localName t.name) = none ∧ localName t.name ≠ s.entry ∧
      Fields.readable t = true) (x : α) :
    es.walk StyleReader.step (K.opened T x) = .ok (K.opened T (amended K.amend es.tags x)) := by
  induction es generalizing x with
  | nil => rfl
  | cons tag inside after ihinside ihafter =>
    change ∀ t ∈ tag :: (inside.tags ++ after.tags), _ at h
    rw [List.forall_mem_cons, List.forall_mem_append] at h
    obtain ⟨⟨hname, hentry, hreadable⟩, hinside, hafter⟩ := h
    have hstart := step_start (r := K.opened T x) hname hreadable
    rw [K.enter_opened _ _ _ _ hentry] at hstart
    rw [walk_cons hstart (ihinside hinside _), K.stop_opened _ _ _ hname hentry, ihafter hafter,
      ← amended_append]
    rfl

def EntryKind.value (e : Tag × Elements) : α := amended K.amend e.2.tags (K.start (fields e.1))

/-- Inside a section every entry is put into its table. -/
theorem EntryKind.walk_within (h : fits (.within s) es = true) :
    es.walk StyleReader.step (.idle s T) =
      .ok (.idle s (K.add T ((es.named s.entry).map K.value))) := by
  induction es generalizing T with
  | nil =>
    change Except.ok (StyleReader.idle s T) = .ok (.idle s (K.add T []))
    rw [K.add_nil]
  | cons tag inside after _ ihafter =>
    obtain ⟨hreadable, ⟨q, hq, hinside⟩, hafter⟩ := fits_cons_iff.1 h
    obtain ⟨hname, ⟨hentry, rfl⟩ | ⟨hentry, hprop, rfl⟩⟩ := next?_within.1 hq
    · have hstart := step_start (r := .idle s T) hname (hreadable hname)
      rw [hentry, K.enter_entry] at hstart
      rw [walk_cons hstart (K.walk_opened _ (Place.InEntry.tags (.inl rfl) hinside) _), hentry,
        K.stop_entry, ihafter _ hafter, K.add_cons, Elements.named_cons, if_pos hentry]
      rfl
    · have hstart := step_start (r := .idle s T) hname (hreadable hname)
      rw [K.enter_idle _ _ _ hentry hprop] at hstart
      rw [walk_cons hstart (K.walk_beyond _ hinside), K.stop_idle _ _ hname hentry,
        ihafter _ hafter, Elements.named_cons, if_neg hentry]
      rfl

end

theorem fontKind_value {e : Tag × Elements} (h : fits (.entry .fonts) e.2 = true) :
    fontKind.value e = font (children e.2) :=
  (amended_entry fontKind.amend_other (by decide) h _).trans (amended_eq font_concat _)

theorem borderKind_value {e : Tag × Elements} (h : fits (.entry .borders) e.2 = true) :
    borderKind.value e = border (children e.2) :=
  (amended_entry borderKind.amend_other (by decide) h _).trans (amended_eq border_concat _)

theorem recordKind_value {e : Tag × Elements} (h : fits (.entry .records) e.2 = true) :
    recordKind.value e = record (fields e.1) (children e.2) :=
  (amended_entry recordKind.amend_other (by decide) h _).trans
    (amended_eq (record_concat (fields e.1)) _)

theorem fillKind_value {e : Tag × Elements} (h : fits (.entry .fills) e.2 = true) :
    (fillKind.value e).1 = fill e.2 :=
  (amended_fill h none false).trans (fill_eq e.2).symm

theorem numberKind_value (e : Tag × Elements) : numberKind.value e = numberCode? (fields e.1) := by
  have hnothing (l : List Tag) (x : Option (Nat × String)) : amended numberKind.amend l x = x := by
    induction l with
    | nil => rfl
    | cons t l ih => exact ih
  exact hnothing _ _

namespace StyleTree

def records (root : Elements) : List FormatRecord :=
  (entries root .records).map fun e => record (fields e.1) (children e.2)

def extended (T : StyleTables) (es : Elements) : StyleTables :=
  { codes := (codes es).reverse ++ T.codes
    fonts := T.fonts ++ fonts es
    fills := T.fills ++ fills es
    borders := T.borders ++ borders es
    records := T.records ++ records es }

theorem entries_cons (tag : Tag) (inside after : Elements) (s : Section) :
    entries (.cons tag inside after) s =
      (if localName tag.name = s.title then inside.named s.entry else []) ++ entries after s := by
  unfold entries
  rw [Elements.named_cons]
  split <;> simp

@[simp]
theorem entries_nil (s : Section) : entries .nil s = [] := rfl

theorem extended_nil (T : StyleTables) : extended T .nil = T := by
  simp [extended, codes, fonts, fills, borders, records]

theorem extended_cons (T : StyleTables) (tag : Tag) (inside after : Elements) :
    extended T (.cons tag inside after) = extended (extended T (.cons tag inside .nil)) after := by
  simp [extended, codes, fonts, fills, borders, records, entries_cons]

end StyleTree

theorem ofName?_eq_some_iff {name : String} {s : Section} (hs : s ≠ .other) :
    Section.ofName? name = some s ↔ s ≠ .outside ∧ name = s.title := by
  fun_cases Section.ofName? name <;> cases s <;> simp_all [Section.title]

theorem extended_uncounted {tag : Tag}
    (hname : Section.ofName? (localName tag.name) = none ∨
      Section.ofName? (localName tag.name) = some .other) (T : StyleTables) (inside : Elements) :
    extended T (.cons tag inside .nil) = T := by
  have htitle {s : Section} (hs : s ≠ .outside ∧ s ≠ .other) : localName tag.name ≠ s.title := by
    intro heq
    have hsome := (ofName?_eq_some_iff hs.2).2 ⟨hs.1, heq⟩
    simp_all
  simp [extended, codes, fonts, fills, borders, records, entries_cons, htitle]

/-- Outside of the sections that count only sections are noted. -/
theorem enter_uncounted {s : Section} (hs : s = .outside ∨ s = .other) (T : StyleTables)
    (name : String) (f : Fields) : (StyleReader.idle s T).enter name f = .idle s T := by
  rcases hs with rfl | rfl <;> rfl

theorem stop_uncounted {s : Section} (hs : s = .outside ∨ s = .other) (T : StyleTables)
    {name : String} (hname : Section.ofName? name = none) :
    (StyleReader.idle s T).stop name = .idle s T := by
  unfold StyleReader.stop
  rw [hname]
  rcases hs with rfl | rfl <;> rfl

theorem stop_section {r : StyleReader} {name : String} {s : Section}
    (hname : Section.ofName? name = some s) : r.stop name = { r with inside := .outside } := by
  unfold StyleReader.stop
  rw [hname]
  rfl

theorem start_section {r : StyleReader} {tag : Tag} {s : Section}
    (hname : Section.ofName? (localName tag.name) = some s) :
    r.step (.start tag) = .ok { r with inside := s } := by
  change r.start tag = _
  unfold StyleReader.start
  rw [hname]

/-- Elements that do not count change nothing, whatever is inside of them. -/
theorem walk_uncounted {es : Elements} (h : fits .uncounted es = true) (T : StyleTables)
    {s : Section} (hs : s = .outside ∨ s = .other) :
    ∃ s', (s' = s ∨ s' = .outside) ∧
      es.walk StyleReader.step (.idle s T) = .ok (.idle s' T) := by
  induction es generalizing s with
  | nil => exact ⟨s, .inl rfl, rfl⟩
  | cons tag inside after ihinside ihafter =>
    obtain ⟨hreadable, ⟨q, hq, hinside⟩, hafter⟩ := fits_cons_iff.1 h
    obtain ⟨hname | hname, rfl⟩ := next?_uncounted.1 hq
    · obtain ⟨s', hs', hwalk⟩ := ihinside hinside hs
      have hs'' : s' = .outside ∨ s' = .other := by
        rcases hs' with rfl | rfl
        · exact hs
        · exact .inl rfl
      obtain ⟨t, ht, hwalk'⟩ := ihafter hafter hs''
      have hstart := step_start (r := .idle s T) hname (hreadable hname)
      rw [enter_uncounted hs] at hstart
      refine ⟨t, by grind, ?_⟩
      rw [walk_cons hstart hwalk, stop_uncounted hs'' _ hname, hwalk']
    · obtain ⟨s', -, hwalk⟩ := ihinside hinside (.inr rfl)
      obtain ⟨t, ht, hwalk'⟩ := ihafter hafter (.inl rfl)
      refine ⟨t, .inr (ht.elim id id), ?_⟩
      rw [walk_cons (start_section hname) hwalk, stop_section hname]
      exact hwalk'

theorem walk_section {s : Section} {α : Type} (K : EntryKind s α) (T : StyleTables) {tag : Tag}
    {inside after : Elements} (hname : Section.ofName? (localName tag.name) = some s)
    (h : fits (.within s) inside = true) :
    (Elements.cons tag inside after).walk StyleReader.step (.idle .outside T) =
      after.walk StyleReader.step
        (.idle .outside (K.add T ((inside.named s.entry).map K.value))) := by
  rw [walk_cons (start_section hname) (K.walk_within T h), stop_section hname]
  rfl

theorem fits_entries {s : Section} {es : Elements} (h : fits (.within s) es = true) :
    ∀ e ∈ es.named s.entry, fits (.entry s) e.2 = true := by
  induction es with
  | nil => rintro e ⟨⟩
  | cons tag inside after _ ihafter =>
    obtain ⟨-, ⟨q, hq, hinside⟩, hafter⟩ := fits_cons_iff.1 h
    rw [Elements.named_cons, List.forall_mem_append]
    refine ⟨?_, ihafter hafter⟩
    obtain ⟨-, ⟨hentry, rfl⟩ | ⟨hentry, -, -⟩⟩ := next?_within.1 hq
    · rw [if_pos hentry]
      exact List.forall_mem_singleton.2 hinside
    · rw [if_neg hentry]
      rintro e ⟨⟩

/-- An element that is no section or one that does not count. -/
theorem walk_uncountedElement {tag : Tag} {inside after : Elements}
    (hname : Section.ofName? (localName tag.name) = none ∨
      Section.ofName? (localName tag.name) = some .other)
    (hreadable : Section.ofName? (localName tag.name) = none → Fields.readable tag = true)
    (h : fits .uncounted inside = true) (T : StyleTables) :
    (Elements.cons tag inside after).walk StyleReader.step (.idle .outside T) =
      after.walk StyleReader.step (.idle .outside T) := by
  rcases hname with hname | hname
  · obtain ⟨s, hs, hwalk⟩ := walk_uncounted h T (.inl rfl)
    obtain rfl : s = .outside := hs.elim id id
    have hstart := step_start (r := .idle .outside T) hname (hreadable hname)
    rw [enter_uncounted (.inl rfl)] at hstart
    rw [walk_cons hstart hwalk, stop_uncounted (.inl rfl) _ hname]
  · obtain ⟨s, -, hwalk⟩ := walk_uncounted h T (.inr rfl)
    rw [walk_cons (start_section hname) hwalk, stop_section hname]
    rfl

/-- A section adds what the tree has in it. -/
theorem walk_counted {tag : Tag} {inside after : Elements} {s : Section} (hother : s ≠ .other)
    (hname : Section.ofName? (localName tag.name) = some s) (h : fits (.within s) inside = true)
    (T : StyleTables) :
    (Elements.cons tag inside after).walk StyleReader.step (.idle .outside T) =
      after.walk StyleReader.step (.idle .outside (extended T (.cons tag inside .nil))) := by
  obtain ⟨houtside, htitle⟩ := (ofName?_eq_some_iff hother).1 hname
  have hvalues := fits_entries h
  have hadded {T' : StyleTables} (h : T' = extended T (.cons tag inside .nil)) :
      after.walk StyleReader.step (.idle .outside T') =
        after.walk StyleReader.step (.idle .outside (extended T (.cons tag inside .nil))) := by
    rw [h]
  -- What the reader notes of the entries of each kind is what the tree says of them.
  cases s with
  | outside => exact absurd rfl houtside
  | other => exact absurd rfl hother
  | numberFormats =>
    rw [walk_section numberKind T hname h, List.map_congr_left fun e _ => numberKind_value e]
    apply hadded
    simp [extended, codes, fonts, fills, borders, records, entries_cons, htitle, Section.title,
      numberKind, List.filterMap_map]
  | fonts =>
    rw [walk_section fontKind T hname h,
      List.map_congr_left fun e he => fontKind_value (hvalues e he)]
    apply hadded
    simp [extended, codes, fonts, fills, borders, records, entries_cons, htitle, Section.title,
      fontKind]
  | fills =>
    have hfills : ((inside.named (Section.entry .fills)).map fillKind.value).map (·.1) =
        (inside.named (Section.entry .fills)).map fun e => fill e.2 := by
      rw [List.map_map]
      exact List.map_congr_left fun e he => fillKind_value (hvalues e he)
    rw [walk_section fillKind T hname h]
    apply hadded
    change { T with fills := T.fills ++ _ } = _
    rw [hfills]
    simp [extended, codes, fonts, fills, borders, records, entries_cons, htitle, Section.title]
  | borders =>
    rw [walk_section borderKind T hname h,
      List.map_congr_left fun e he => borderKind_value (hvalues e he)]
    apply hadded
    simp [extended, codes, fonts, fills, borders, records, entries_cons, htitle, Section.title,
      borderKind]
  | records =>
    rw [walk_section recordKind T hname h,
      List.map_congr_left fun e he => recordKind_value (hvalues e he)]
    apply hadded
    simp [extended, codes, fonts, fills, borders, records, entries_cons, htitle, Section.title,
      recordKind]

/-- The reader takes in the entries of all sections. -/
theorem walk_root {es : Elements} (h : fits .root es = true) (T : StyleTables) :
    es.walk StyleReader.step (.idle .outside T) = .ok (.idle .outside (extended T es)) := by
  induction es generalizing T with
  | nil =>
    rw [extended_nil]
    rfl
  | cons tag inside after _ ihafter =>
    obtain ⟨hreadable, ⟨q, hq, hinside⟩, hafter⟩ := fits_cons_iff.1 h
    rw [extended_cons]
    rcases next?_root.1 hq with ⟨hname, rfl⟩ | ⟨s, hname, hother, rfl⟩
    · rw [walk_uncountedElement hname hreadable hinside, extended_uncounted hname, ihafter hafter]
    · rw [walk_counted hother hname hinside, ihafter hafter]

theorem style_extended (root : Elements) (xf : Tag × Elements) :
    (extended {} root).style (record (fields xf.1) (children xf.2)) = StyleTree.style root xf := by
  have hfont (i : Nat) : (extended {} root).ownFont i = StyleTree.ownFont root i := by
    simp only [StyleTables.ownFont, StyleTables.defaultFont, StyleTree.ownFont, extended,
      List.nil_append, List.getD_eq_getElem?_getD, List.head?_eq_getElem?]
  have hcodes : (extended {} root).codes = (codes root).reverse := List.append_nil _
  have hnumber (i : Nat) : (extended {} root).numberFormat i = StyleTree.numberFormat root i :=
    calc
      _ = StyleTables.numberFormat { extended {} root with codes := (codes root).reverse } i := by
        rw [← hcodes]
      _ = _ := rfl
  have hfill (i : Nat) : ((extended {} root).fills[i]?).join = (fills root).getD i none := by
    rw [List.getD_eq_getElem?_getD]
    change ((fills root)[i]?).join = _
    cases (fills root)[i]? <;> rfl
  have hborder (i : Nat) : (extended {} root).borders[i]?.getD {} = (borders root).getD i {} := by
    rw [List.getD_eq_getElem?_getD]
    rfl
  unfold StyleTables.style StyleTree.style
  rw [hfont, hnumber, hfill, hborder]
  rfl

theorem styles_extended (root : Elements) : (extended {} root).styles = StyleTree.styles root := by
  change ((entries root .records).map _).map _ = (entries root .records).map _
  rw [List.map_map]
  exact List.map_congr_left fun xf _ => style_extended root xf

def readStyleTables (events : List Event) : Except SheetError StyleTables := do
  let r ← events.foldlM StyleReader.step {}
  pure r.tables

theorem readStyles_eq_map (events : List Event) :
    readStyles events = (readStyleTables events).map StyleTables.styles := by
  unfold readStyles readStyleTables
  cases events.foldlM StyleReader.step {} <;> rfl

theorem readStyleTables_eq {bytes : Bytes} {tag : Tag} {root : Elements}
    (hdocument : Spells (tokens .strict bytes) (.cons tag root .nil))
    (hname : Section.ofName? (localName tag.name) = none) (hreadable : Fields.readable tag = true)
    (hshape : fits .root root = true) :
    readStyleTables (strictEvents bytes) = .ok (extended {} root) := by
  have hwalk : (Elements.cons tag root .nil).walk StyleReader.step (.idle .outside {}) =
      .ok (.idle .outside (extended {} root)) := by
    have hstart := step_start (r := .idle .outside {}) hname hreadable
    rw [enter_uncounted (.inl rfl)] at hstart
    rw [walk_cons hstart (walk_root hshape _), stop_uncounted (.inl rfl) _ hname]
    rfl
  unfold readStyleTables
  rw [foldlM_strictEvents (fun _ _ => rfl) hdocument]
  change (Elements.cons tag root .nil).walk _ (StyleReader.idle .outside {}) >>= _ = _
  rw [hwalk]
  rfl

theorem readStyles_eq {bytes : Bytes} {tag : Tag} {root : Elements}
    (hdocument : Spells (tokens .strict bytes) (.cons tag root .nil))
    (hname : Section.ofName? (localName tag.name) = none) (hreadable : Fields.readable tag = true)
    (hshape : fits .root root = true) :
    readStyles (strictEvents bytes) = .ok (StyleTree.styles root) := by
  rw [readStyles_eq_map, readStyleTables_eq hdocument hname hreadable hshape]
  exact congrArg Except.ok (styles_extended root)

/-- On a well-formed document of the shape of a style sheet the reader finds the styles of its
tree, on which nothing has a say but the sections that count. -/
theorem readStyles_document {bytes : Bytes} {tag : Tag} {root : Elements}
    (hdocument : Spells (tokens .strict bytes) (.cons tag root .nil))
    (hname : Section.ofName? (localName tag.name) = none) (hreadable : Fields.readable tag = true)
    (hshape : fits .root root = true) :
    readStyles (strictEvents bytes) = .ok (StyleTree.styles root) ∧
      ∀ root' : Elements,
        (∀ s, Section.title s ≠ "" → root'.named s.title = root.named s.title) →
          StyleTree.styles root' = StyleTree.styles root :=
  ⟨readStyles_eq hdocument hname hreadable hshape, fun _ => styles_congr⟩

def sampleStyles : String :=
  document (element "styleSheet" []
    [element "dxfs" []
        [element "dxf" []
          [element "font" [] [element "i" [] []],
            element "fill" [] [element "patternFill" [("patternType", "solid")] []]]],
      element "fonts" []
        [element "font" [] [element "name" [("val", "Calibri")] []],
          element "font" [] [element "b" [] [], element "name" [("val", "Calibri")] []]],
      element "fills" []
        [element "fill" []
          [element "patternFill" [("patternType", "solid")]
            [element "fgColor" [("rgb", "FFFFEE00")] []]]],
      element "cellXfs" [] [element "xf" [("fontId", "1"), ("fillId", "0")] []]])

open Elements in
def sampleRoot : Elements :=
  single "dxfs" []
      (single "dxf" []
        (single "font" [] (single "i" [] .nil) ++
          single "fill" [] (single "patternFill" [("patternType", "solid")] .nil))) ++
    (single "fonts" []
        (single "font" [] (single "name" [("val", "Calibri")] .nil) ++
          single "font" [] (single "b" [] .nil ++ single "name" [("val", "Calibri")] .nil)) ++
      (single "fills" []
          (single "fill" []
            (single "patternFill" [("patternType", "solid")]
              (single "fgColor" [("rgb", "FFFFEE00")] .nil))) ++
        single "cellXfs" [] (single "xf" [("fontId", "1"), ("fillId", "0")] .nil)))

theorem spells_sampleStyles :
    Spells (tokens .strict (utf8 sampleStyles.toList)) (.single "styleSheet" [] sampleRoot) := by
  refine (marked_document (writes_element (by decide) (by decide) ?_)).spells .strict
  unfold sampleRoot
  repeat' first
    | exact writes_nil
    | refine writes_element (by decide) (by decide) ?_
    | refine Writes.cons ?_ ?_

theorem fits_sampleRoot : StyleTree.fits .root sampleRoot = true := by
  decide

theorem styles_sampleRoot :
    StyleTree.styles sampleRoot = [{ font := { bold := true }, fill := some 0xFFEE00 }] := rfl

theorem readStyles_document_sampleStyles :
    ∃ bytes tag root, Spells (tokens .strict bytes) (.cons tag root .nil) ∧
      Section.ofName? (localName tag.name) = none ∧ Fields.readable tag = true ∧
      fits .root root = true ∧
      readStyles (strictEvents bytes) =
        .ok [{ font := { bold := true }, fill := some 0xFFEE00 }] := by
  have hname : Section.ofName? (localName "styleSheet") = none := by decide
  have hreadable : Fields.readable (tagOf "styleSheet" []) = true := by decide
  obtain ⟨hread, -⟩ := readStyles_document spells_sampleStyles hname hreadable fits_sampleRoot
  rw [styles_sampleRoot] at hread
  exact ⟨_, _, _, spells_sampleStyles, hname, hreadable, fits_sampleRoot, hread⟩

/-- The style of a record need not have the font that the record names: the second font of the
sheet has a name, which the first one has as well. -/
theorem not_forall_font_eq :
    ¬ ∀ (bytes : Bytes) (tag : Tag) (root : Elements) (styles : List Style),
      Spells (tokens .strict bytes) (.cons tag root .nil) →
      Section.ofName? (localName tag.name) = none → Fields.readable tag = true →
      fits .root root = true → readStyles (strictEvents bytes) = .ok styles →
      styles.map (·.font) = (entries root .records).map fun xf =>
        (fonts root).getD ((fields xf.1).index "fontId") {} := by
  intro h
  have hread := readStyles_eq spells_sampleStyles (by decide) (by decide) fits_sampleRoot
  have hfont := h _ _ _ _ spells_sampleStyles (by decide) (by decide) fits_sampleRoot hread
  have hnamed : (entries sampleRoot .records).map
      (fun xf => (fonts sampleRoot).getD ((fields xf.1).index "fontId") {}) =
        [{ bold := true, name := some "Calibri" }] := rfl
  rw [styles_sampleRoot, hnamed] at hfont
  have hname := congrArg (List.map Font.name) hfont
  cases hname

end SheetTemplate.Xlsx
