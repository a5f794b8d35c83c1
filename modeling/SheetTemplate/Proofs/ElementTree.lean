import SheetTemplate.Xml.Event

namespace SheetTemplate.Xml

inductive Elements where
  | nil
  | cons (tag : Tag) (inside after : Elements)

namespace Elements

def list : Elements → List (Tag × Elements)
  | nil => []
  | cons tag inside after => (tag, inside) :: after.list

def named (name : String) (es : Elements) : List (Tag × Elements) :=
  es.list.filter fun e => localName e.1.name == name

theorem named_cons (name : String) (tag : Tag) (inside after : Elements) :
    (cons tag inside after).named name =
      (if localName tag.name = name then [(tag, inside)] else []) ++ after.named name := by
  unfold named
  rw [list, List.filter_cons]
  by_cases h : localName tag.name = name <;> simp [h]

def tags : Elements → List Tag
  | nil => []
  | cons tag inside after => tag :: inside.tags ++ after.tags

def append : Elements → Elements → Elements
  | nil, es => es
  | cons tag inside after, es => cons tag inside (after.append es)

instance : Append Elements := ⟨append⟩

theorem cons_append (tag : Tag) (inside after es : Elements) :
    cons tag inside after ++ es = cons tag inside (after ++ es) := rfl

theorem list_append (es es' : Elements) : (es ++ es').list = es.list ++ es'.list := by
  induction es with
  | nil => rfl
  | cons tag inside after _ ih => exact congrArg _ ih

def walk {ε σ : Type} (step : σ → Event → Except ε σ) : Elements → σ → Except ε σ
  | nil, s => pure s
  | cons tag inside after, s => do
    let s ← step s (.start tag)
    let s ← inside.walk step s
    let s ← step s (.stop tag.name)
    after.walk step s

end Elements

/-- The tokens are those of the elements; an element with nothing inside may be written in one tag
or two. Texts and markup without data stand anywhere. -/
inductive Spells : List Token → Elements → Prop
  | nil : Spells [] .nil
  | text {raw : Bytes} {ts : List Token} {es : Elements} (h : Spells ts es) :
      Spells (.text raw :: ts) es
  | aside {ts : List Token} {es : Elements} (h : Spells ts es) : Spells (.aside :: ts) es
  | empty {content : Bytes} {ts : List Token} {es : Elements}
      (hslash : content.getLast? = some (byte '/')) (h : Spells ts es) :
      Spells (.tag content :: ts) (.cons (.ofContent content.dropLast) .nil es)
  | full {content close : Bytes} {inner ts : List Token} {inside es : Elements}
      (hslash : content.getLast? ≠ some (byte '/'))
      (hclose : plainText (dropTrailingBlanks close) = (Tag.ofContent content).name)
      (hinner : Spells inner inside) (h : Spells ts es) :
      Spells (.tag content :: inner ++ .endTag close :: ts) (.cons (.ofContent content) inside es)

namespace Spells

variable {ts : List Token} {es : Elements}

theorem append {ts' : List Token} {es' : Elements} (h : Spells ts es) (h' : Spells ts' es') :
    Spells (ts ++ ts') (es ++ es') := by
  induction h with
  | nil => exact h'
  | text _ ih => exact .text ih
  | aside _ ih => exact .aside ih
  | empty hslash _ ih => exact .empty hslash ih
  | full hslash hclose hinner _ _ ih =>
    rw [List.append_assoc]
    exact .full hslash hclose hinner ih

/-- Every end closes the element opened last. -/
theorem checkNesting_append (h : Spells ts es) (opened : List String) (rest : List Event) :
    checkNesting opened (ts.flatMap Token.events ++ rest) =
      ts.flatMap Token.events ++ checkNesting opened rest := by
  induction h generalizing opened rest with
  | nil => rfl
  | text _ ih => exact congrArg _ (ih opened rest)
  | aside _ ih => exact ih opened rest
  | empty hslash _ ih =>
    simp only [List.flatMap_cons, Token.events, if_pos hslash, List.cons_append, List.nil_append,
      checkNesting, if_true, ih]
  | full hslash hclose _ _ ihinner ih =>
    simp only [List.cons_append, List.flatMap_cons, List.flatMap_append, Token.events,
      if_neg hslash, List.nil_append, List.append_assoc, checkNesting, ihinner, hclose, if_true, ih]

variable {ε σ : Type} {step : σ → Event → Except ε σ}

theorem foldlM_events (h : Spells ts es) (htext : ∀ s raw, step s (.text raw) = pure s) (s : σ) :
    (ts.flatMap Token.events).foldlM step s = es.walk step s := by
  induction h generalizing s with
  | nil => rfl
  | text _ ih =>
    change step s (.text _) >>= _ = _
    rw [htext, pure_bind]
    exact ih s
  | aside _ ih => exact ih s
  | empty hslash _ ih =>
    simp only [List.flatMap_cons, Token.events, if_pos hslash, List.cons_append, List.nil_append,
      List.foldlM_cons, Elements.walk, pure_bind, ih]
  | full hslash hclose _ _ ihinner ih =>
    simp only [List.cons_append, List.flatMap_cons, List.flatMap_append, Token.events,
      if_neg hslash, List.nil_append, List.foldlM_cons, List.foldlM_append, hclose, Elements.walk,
      ihinner, ih]

end Spells

/-- A reader of the strict events of a well-formed document walks through its tree. -/
theorem foldlM_strictEvents {ε σ : Type} {step : σ → Event → Except ε σ}
    (htext : ∀ s raw, step s (.text raw) = pure s) {bytes : Bytes} {es : Elements}
    (h : Spells (tokens .strict bytes) es) (s : σ) :
    (strictEvents bytes).foldlM step s = es.walk step s := by
  have hnesting := h.checkNesting_append [] []
  rw [List.append_nil, checkNesting, List.append_nil] at hnesting
  rw [strictEvents, hnesting, h.foldlM_events htext]

end SheetTemplate.Xml
