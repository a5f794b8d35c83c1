import SheetTemplate.Proofs.ElementTree
import SheetTemplate.Proofs.TextBytes
import SheetTemplate.Xml.Writing

namespace SheetTemplate.Xml

def AtMarkup (s : Bytes) : Prop := s = [] ∨ s.head? = some (byte '<')

theorem AtMarkup.append {b b' : Bytes} (h : AtMarkup b) (h' : AtMarkup b') : AtMarkup (b ++ b') := by
  rcases h with rfl | hhead
  · exact h'
  · exact .inr (by rw [List.head?_append, hhead]; rfl)

/-- The bytes are read as the tokens, in both disciplines and whatever markup follows. -/
structure Tokenizes (b : Bytes) (ts : List Token) : Prop where
  length_le : ts.length ≤ b.length
  tokens : ∀ (d : Discipline) (n : Nat) (rest : Bytes), AtMarkup rest →
    tokensFrom d (n + ts.length) (b ++ rest) = ts ++ tokensFrom d n rest

theorem tokensFrom_nil (d : Discipline) (n : Nat) : tokensFrom d n [] = [] := by
  cases n <;> rfl

theorem splitAt?_append {stop : UInt8} {s : Bytes} (h : stop ∉ s) (rest : Bytes) :
    splitAt? stop (s ++ stop :: rest) = some (s, rest) := by
  have hne : ∀ b ∈ s, (b != stop) = true := by
    intro b hb
    rw [bne_iff_ne]
    rintro rfl
    exact h hb
  unfold splitAt?
  rw [List.dropWhile_append_of_pos hne, List.takeWhile_append_of_pos hne]
  simp

namespace Tokenizes

variable {b b' : Bytes} {ts ts' : List Token}

theorem nil : Tokenizes [] [] := ⟨Nat.le_refl _, fun _ _ _ _ => rfl⟩

theorem append (h : Tokenizes b ts) (h' : Tokenizes b' ts') (hmarkup : AtMarkup b') :
    Tokenizes (b ++ b') (ts ++ ts') where
  length_le := by
    rw [List.length_append, List.length_append]
    exact Nat.add_le_add h.length_le h'.length_le
  tokens d n rest hrest := by
    rw [List.length_append, Nat.add_comm ts.length, ← Nat.add_assoc, List.append_assoc,
      h.tokens d _ _ (hmarkup.append hrest), h'.tokens d n rest hrest, List.append_assoc]

theorem tokens_eq (h : Tokenizes b ts) (d : Discipline) : Xml.tokens d b = ts := by
  obtain ⟨n, hn⟩ := Nat.exists_eq_add_of_le h.length_le
  have htokens := h.tokens d n [] (.inl rfl)
  rw [List.append_nil, tokensFrom_nil, List.append_nil, Nat.add_comm, ← hn] at htokens
  exact htokens

theorem text (hb : b ≠ []) (h : byte '<' ∉ b) : Tokenizes b [.text b] where
  length_le := List.length_pos_iff.2 hb
  tokens d n rest hrest := by
    have hne : ∀ x ∈ b, (x != byte '<') = true := by
      intro x hx
      rw [bne_iff_ne]
      rintro rfl
      exact h hx
    obtain ⟨x, s, rfl⟩ := List.exists_cons_of_ne_nil hb
    have hx : x ≠ byte '<' := bne_iff_ne.1 (hne x List.mem_cons_self)
    change (if x = byte '<' then _ else _) = _
    rw [if_neg hx]
    change Token.text ((x :: s ++ rest).takeWhile _) :: tokensFrom d n ((x :: s ++ rest).dropWhile _) =
      _
    rw [List.takeWhile_append_of_pos hne, List.dropWhile_append_of_pos hne]
    rcases hrest with rfl | hhead
    · rw [List.takeWhile_nil, List.append_nil]
      rfl
    · obtain ⟨y, r, rfl⟩ : ∃ y r, rest = y :: r := by
        cases rest with
        | nil => cases hhead
        | cons y r => exact ⟨y, r, rfl⟩
      obtain rfl : y = byte '<' := Option.some.inj hhead
      rw [List.takeWhile_cons_of_neg (by simp), List.dropWhile_cons_of_neg (by simp),
        List.append_nil]
      rfl

end Tokenizes

theorem tokensFrom_markup {d : Discipline} {s rest : Bytes} {t : Token}
    (h : markup d s = (t, rest)) (ht : t ≠ .broken) (n : Nat) :
    tokensFrom d (n + 1) (byte '<' :: s) = t :: tokensFrom d n rest := by
  rw [tokensFrom, if_pos rfl, h]
  cases t with
  | broken => exact absurd rfl ht
  | _ => rfl

theorem tokensFrom_tag {c : UInt8} {content : Bytes}
    (hc : c ≠ byte '!' ∧ c ≠ byte '?' ∧ c ≠ byte '/')
    (hsplit : ∀ rest, splitTag? none (c :: content ++ byte '>' :: rest) = some (c :: content, rest))
    (d : Discipline) (n : Nat) (rest : Bytes) :
    tokensFrom d (n + 1) (byte '<' :: (c :: content ++ byte '>' :: rest)) =
      .tag (c :: content) :: tokensFrom d n rest := by
  refine tokensFrom_markup ?_ Token.noConfusion n
  rw [List.cons_append, markup, if_neg hc.1, if_neg hc.2.1, if_neg hc.2.2, ← List.cons_append,
    hsplit]

theorem tokensFrom_endTag {content : Bytes} (h : byte '>' ∉ content) (d : Discipline) (n : Nat)
    (rest : Bytes) :
    tokensFrom d (n + 1) (byte '<' :: (byte '/' :: content ++ byte '>' :: rest)) =
      .endTag content :: tokensFrom d n rest := by
  refine tokensFrom_markup ?_ Token.noConfusion n
  rw [List.cons_append, markup, if_neg (by decide), if_neg (by decide), if_pos rfl,
    splitAt?_append h]

def isNameChar (c : Char) : Bool := c.isAlphanum || c == ':'

def isName (name : String) : Bool := !name.toList.isEmpty && name.toList.all isNameChar

theorem isNameChar_toNat {c : Char} (h : isNameChar c = true) :
    48 ≤ c.toNat ∧ c.toNat ≤ 58 ∨ 65 ≤ c.toNat ∧ c.toNat ≤ 90 ∨ 97 ≤ c.toNat ∧ c.toNat ≤ 122 := by
  have hrange {a b : Char} (h : (c.val ≥ a.val && c.val ≤ b.val) = true) :
      a.toNat ≤ c.toNat ∧ c.toNat ≤ b.toNat := by
    obtain ⟨hlow, hhigh⟩ := Bool.and_eq_true_iff.1 h
    exact ⟨of_decide_eq_true hlow, of_decide_eq_true hhigh⟩
  rcases Bool.or_eq_true_iff.1 h with h | h
  · rcases Bool.or_eq_true_iff.1 h with h | h
    · rcases Bool.or_eq_true_iff.1 h with h | h
      · exact .inr (.inl (of_decide_eq_true h))
      · exact .inr (.inr (hrange (a := 'a') (b := 'z') h))
    · obtain ⟨hlow, hhigh⟩ := hrange (a := '0') (b := '9') h
      exact .inl ⟨hlow, Nat.le_succ_of_le hhigh⟩
  · obtain rfl := eq_of_beq h
    exact .inl (by decide)

def escapedValue (s : List Char) : List Char :=
  s.flatMap fun c => (if c = '\n' then "&#10;" else escapeChar c).toList

def escaped (s : List Char) : List Char := s.flatMap fun c => (escapeChar c).toList

theorem toList_escape (s : String) : (escape s).toList = escaped s.toList := by
  rw [escape, String.toList_join, List.flatMap_map]
  rfl

theorem toList_escapeValue (s : String) : (escapeValue s).toList = escapedValue s.toList := by
  rw [escapeValue, String.toList_join, List.flatMap_map]
  rfl

theorem not_mem_escaped (s : List Char) : '<' ∉ escaped s := by
  unfold escaped
  rw [List.mem_flatMap]
  rintro ⟨c, -, hc⟩
  revert hc
  unfold escapeChar
  split <;> simp_all [eq_comm]

theorem not_mem_escapedValue (s : List Char) : '"' ∉ escapedValue s := by
  unfold escapedValue
  rw [List.mem_flatMap]
  rintro ⟨c, -, hc⟩
  revert hc
  unfold escapeChar
  split
  · simp
  · split <;> simp_all [eq_comm]

def attributesChars (attributes : List (String × String)) : List Char :=
  attributes.flatMap fun (n, v) => ' ' :: n.toList ++ '=' :: '"' :: escapedValue v.toList ++ ['"']

theorem toList_attributesText (attributes : List (String × String)) :
    (attributesText attributes).toList = attributesChars attributes := by
  rw [attributesText, String.toList_join, List.flatMap_map, attributesChars]
  congr 1
  funext ⟨n, v⟩
  simp [String.toList_append, toList_escapeValue]

def Passes (b : Bytes) : Prop :=
  ∀ rest, splitTag? none (b ++ rest) = (splitTag? none rest).map fun (t, r) => (b ++ t, r)

theorem Passes.append {b b' : Bytes} (h : Passes b) (h' : Passes b') : Passes (b ++ b') := by
  intro rest
  rw [List.append_assoc, h, h', Option.map_map]
  congr 1
  funext ⟨t, r⟩
  change (b ++ (b' ++ t), r) = (b ++ b' ++ t, r)
  rw [List.append_assoc]

theorem passes_of_not_mem {b : Bytes} (h : byte '>' ∉ b ∧ byte '"' ∉ b ∧ byte '\'' ∉ b) :
    Passes b := by
  intro rest
  induction b with
  | nil => simp
  | cons x b ih =>
    simp only [List.mem_cons, not_or] at h
    have hquote : (decide (x = byte '"') || decide (x = byte '\'')) = false := by
      rw [decide_eq_false (Ne.symm h.2.1.1), decide_eq_false (Ne.symm h.2.2.1), Bool.or_false]
    rw [List.cons_append, splitTag?]
    simp only [if_neg (Ne.symm h.1.1), hquote, Bool.false_eq_true, if_false]
    rw [ih ⟨h.1.2, h.2.1.2, h.2.2.2⟩, Option.map_map]
    rfl

theorem splitTag?_quoted {q : UInt8} {v : Bytes} (h : q ∉ v) (rest : Bytes) :
    splitTag? (some q) (v ++ q :: rest) =
      (splitTag? none rest).map fun (t, r) => (v ++ q :: t, r) := by
  induction v with
  | nil =>
    rw [List.nil_append, splitTag?]
    simp
  | cons x v ih =>
    simp only [List.mem_cons, not_or] at h
    rw [List.cons_append, splitTag?]
    simp only [if_neg (Ne.symm h.1)]
    rw [ih h.2, Option.map_map]
    rfl

theorem passes_quoted {v : Bytes} (h : byte '"' ∉ v) : Passes (byte '"' :: v ++ [byte '"']) := by
  intro rest
  rw [List.append_assoc, List.cons_append, List.singleton_append, splitTag?]
  simp only [if_neg (show byte '"' ≠ byte '>' by decide), decide_true, Bool.true_or, if_true]
  rw [splitTag?_quoted h, Option.map_map]
  congr 1
  funext ⟨t, r⟩
  simp

theorem isNameChar_lt {c : Char} (h : isNameChar c = true) : c.toNat < 128 := by
  have := isNameChar_toNat h
  omega

/-- Bytes of a name are none of those that mean something in tags. -/
theorem byte_not_mem_name {name : String} (h : isName name = true) {c : Char} (hc : c.toNat < 128)
    (hother : isNameChar c = false) : byte c ∉ utf8 name.toList := by
  rw [byte_mem_utf8_iff hc]
  intro hmem
  simp only [isName, Bool.and_eq_true, List.all_eq_true] at h
  rw [h.2 c hmem] at hother
  cases hother

theorem passes_name {name : String} (h : isName name = true) : Passes (utf8 name.toList) :=
  passes_of_not_mem ⟨byte_not_mem_name h (by decide) (by decide),
    byte_not_mem_name h (by decide) (by decide), byte_not_mem_name h (by decide) (by decide)⟩

theorem passes_attributes {attributes : List (String × String)}
    (h : ∀ a ∈ attributes, isName a.1 = true) : Passes (utf8 (attributesChars attributes)) := by
  induction attributes with
  | nil => exact passes_of_not_mem ⟨List.not_mem_nil, List.not_mem_nil, List.not_mem_nil⟩
  | cons a attributes ih =>
    rw [List.forall_mem_cons] at h
    obtain ⟨n, v⟩ := a
    have hquoted : byte '"' ∉ utf8 (escapedValue v.toList) := by
      rw [byte_mem_utf8_iff (by decide)]
      exact not_mem_escapedValue _
    have hpasses : Passes ([byte ' '] ++ (utf8 n.toList ++ ([byte '='] ++
        (byte '"' :: utf8 (escapedValue v.toList) ++ [byte '"'] ++
          utf8 (attributesChars attributes))))) :=
      (passes_of_not_mem (by decide)).append <| (passes_name h.1).append <|
        (passes_of_not_mem (by decide)).append <| (passes_quoted hquoted).append (ih h.2)
    have hchars : utf8 (attributesChars ((n, v) :: attributes)) = [byte ' '] ++ (utf8 n.toList ++
        ([byte '='] ++ (byte '"' :: utf8 (escapedValue v.toList) ++ [byte '"'] ++
          utf8 (attributesChars attributes)))) := by
      simp only [attributesChars, List.flatMap_cons, utf8_append, utf8_cons, List.append_assoc,
        List.cons_append]
      rfl
    rw [hchars]
    exact hpasses

def tagOf (name : String) (attributes : List (String × String)) : Tag :=
  ⟨name, utf8 (attributesChars attributes)⟩

@[simp] theorem tagOf_name (name : String) (attributes : List (String × String)) :
    (tagOf name attributes).name = name := rfl

theorem eq_of_isBlank {b : UInt8} (h : isBlank b = true) :
    b = byte ' ' ∨ b = byte '\t' ∨ b = byte '\n' ∨ b = byte '\r' := by
  simpa [isBlank, byte, or_assoc] using h

theorem not_isBlank_of_name {name : String} (h : isName name = true) :
    ∀ b ∈ utf8 name.toList, (!isBlank b) = true := by
  intro b hb
  cases hblank : isBlank b with
  | false => rfl
  | true =>
    rcases eq_of_isBlank hblank with rfl | rfl | rfl | rfl
    all_goals exact absurd hb (byte_not_mem_name h (by decide) (by decide))

theorem plainText_name {name : String} (h : isName name = true) :
    plainText (utf8 name.toList) = name := by
  rw [plainText_utf8, String.ofList_toList]
  simp only [isName, Bool.and_eq_true, List.all_eq_true] at h
  exact fun c hc => isNameChar_lt (h.2 c hc)

/-- Attributes begin with a blank, if there are any. -/
theorem attributes_blank (attributes : List (String × String)) :
    (utf8 (attributesChars attributes)).takeWhile (!isBlank ·) = [] ∧
      (utf8 (attributesChars attributes)).dropWhile (!isBlank ·) =
        utf8 (attributesChars attributes) := by
  cases attributes with
  | nil => exact ⟨rfl, rfl⟩
  | cons a attributes =>
    have hhead : ∃ r, utf8 (attributesChars (a :: attributes)) = byte ' ' :: r := ⟨_, rfl⟩
    obtain ⟨r, hr⟩ := hhead
    rw [hr]
    exact ⟨rfl, rfl⟩

theorem ofContent_tagOf {name : String} (h : isName name = true)
    (attributes : List (String × String)) :
    Tag.ofContent (utf8 name.toList ++ utf8 (attributesChars attributes)) =
      tagOf name attributes := by
  have hname := not_isBlank_of_name h
  obtain ⟨htake, hdrop⟩ := attributes_blank attributes
  unfold Tag.ofContent tagOf
  rw [List.takeWhile_append_of_pos hname, List.dropWhile_append_of_pos hname, htake, hdrop,
    List.append_nil, plainText_name h]

theorem utf8_attributes_cons (n v : String) (attributes : List (String × String)) :
    utf8 (attributesChars ((n, v) :: attributes)) =
      byte ' ' :: (utf8 n.toList ++ byte '=' :: byte '"' ::
        (utf8 (escapedValue v.toList) ++ byte '"' :: utf8 (attributesChars attributes))) := by
  simp only [attributesChars, List.flatMap_cons, utf8_append, utf8_cons, List.append_assoc,
    List.cons_append]
  rfl

theorem readAttribute?_written {n : String} (hn : isName n = true) {v : Bytes}
    (hv : byte '"' ∉ v) (rest : Bytes) :
    readAttribute? (utf8 n.toList ++ byte '=' :: byte '"' :: (v ++ byte '"' :: rest)) =
      some ((n, v), rest) := by
  have hname : ∀ b ∈ utf8 n.toList, (b != byte '=' && !isBlank b) = true := by
    intro b hb
    rw [Bool.and_eq_true, bne_iff_ne]
    refine ⟨?_, not_isBlank_of_name hn b hb⟩
    rintro rfl
    exact byte_not_mem_name hn (by decide) (by decide) hb
  have htake : (utf8 n.toList ++ byte '=' :: byte '"' :: (v ++ byte '"' :: rest)).takeWhile
      (fun b => b != byte '=' && !isBlank b) = utf8 n.toList := by
    rw [List.takeWhile_append_of_pos hname, List.takeWhile_cons_of_neg (by decide), List.append_nil]
  unfold readAttribute?
  rw [htake]
  dsimp only
  rw [List.drop_left]
  change (splitAt? (byte '"') (v ++ byte '"' :: rest)).map (fun p => ((plainText _, p.1), p.2)) = _
  rw [splitAt?_append hv, plainText_name hn]
  rfl

theorem utf8_name_cons {name : String} (h : isName name = true) :
    ∃ b rest, utf8 name.toList = b :: rest := by
  cases hbytes : utf8 name.toList with
  | cons b rest => exact ⟨b, rest, rfl⟩
  | nil =>
    have hnil : name.toList = [] := utf8_inj hbytes
    rw [isName, hnil] at h
    cases h

theorem attributesFrom_written {attributes : List (String × String)}
    (hnames : ∀ a ∈ attributes, isName a.1 = true) (hnodup : (attributes.map (·.1)).Nodup)
    {seen : List String} (hnew : ∀ a ∈ attributes, a.1 ∉ seen) {fuel : Nat}
    (hfuel : attributes.length < fuel) :
    attributesFrom fuel (some seen) (utf8 (attributesChars attributes)) =
      attributes.map fun a => .pair a.1 (utf8 (escapedValue a.2.toList)) := by
  induction attributes generalizing seen fuel with
  | nil =>
    cases fuel <;> rfl
  | cons a attributes ih =>
    obtain ⟨n, v⟩ := a
    obtain ⟨fuel, rfl⟩ : ∃ m, fuel = m + 1 := ⟨fuel - 1, by omega⟩
    rw [List.forall_mem_cons] at hnames hnew
    rw [List.map_cons, List.nodup_cons] at hnodup
    have hquoted : byte '"' ∉ utf8 (escapedValue v.toList) := by
      rw [byte_mem_utf8_iff (by decide)]
      exact not_mem_escapedValue _
    have hread := readAttribute?_written hnames.1 hquoted (utf8 (attributesChars attributes))
    obtain ⟨b, rest, hb⟩ := utf8_name_cons hnames.1
    have hblank : isBlank b = false := by
      have := not_isBlank_of_name hnames.1 b (hb ▸ List.mem_cons_self)
      rwa [Bool.not_eq_true'] at this
    rw [utf8_attributes_cons, attributesFrom, List.dropWhile_cons_of_pos (by decide)]
    rw [hb, List.cons_append] at hread ⊢
    rw [List.dropWhile_cons_of_neg (by simp [hblank])]
    dsimp only
    rw [hread]
    have hfresh : (some seen).any (fun l => decide (n ∈ l)) = false := decide_eq_false hnew.1
    simp only [hfresh, Bool.false_eq_true, if_false, Option.map_some, List.map_cons]
    rw [ih hnames.2 hnodup.2 ?_ (by rw [List.length_cons] at hfuel; omega)]
    intro a ha hmem
    rcases List.mem_cons.1 hmem with heq | hmem
    · exact hnodup.1 (List.mem_map.2 ⟨a, ha, heq⟩)
    · exact hnew.2 a ha hmem

def areNames (attributes : List (String × String)) : Bool :=
  attributes.all (fun a => isName a.1) && (attributes.map (·.1)).Nodup

theorem areNames_iff {attributes : List (String × String)} :
    areNames attributes = true ↔
      (∀ a ∈ attributes, isName a.1 = true) ∧ (attributes.map (·.1)).Nodup := by
  simp [areNames]

theorem attributeList_tagOf (name : String) {attributes : List (String × String)}
    (h : areNames attributes = true) :
    (tagOf name attributes).attributeList =
      attributes.map fun a => .pair a.1 (utf8 (escapedValue a.2.toList)) := by
  obtain ⟨hnames, hnodup⟩ := areNames_iff.1 h
  refine attributesFrom_written hnames hnodup (fun a _ => List.not_mem_nil) (Nat.lt_succ_of_le ?_)
  clear h hnames hnodup
  change attributes.length ≤ (utf8 (attributesChars attributes)).length
  induction attributes with
  | nil => exact Nat.zero_le _
  | cons a attributes ih =>
    rw [utf8_attributes_cons]
    simp only [List.length_cons, List.length_append]
    omega

/-- The characters are read as these elements and, texts included, as these events. -/
def Marked (s : List Char) (es : Elements) (events : List Event) : Prop :=
  ∃ ts, Tokenizes (utf8 s) ts ∧ Spells ts es ∧ ts.flatMap Token.events = events

theorem marked_nil : Marked [] .nil [] := ⟨[], .nil, .nil, rfl⟩

theorem toList_element (name : String) (attributes : List (String × String)) (inner : List String) :
    (element name attributes inner).toList =
      '<' :: (name.toList ++ attributesChars attributes ++
        if inner.isEmpty then ['/', '>']
        else '>' :: ((String.join inner).toList ++ '<' :: '/' :: (name.toList ++ ['>']))) := by
  unfold element
  split <;> simp [String.toList_append, toList_attributesText]

theorem attributes_getLast? (attributes : List (String × String)) :
    attributes = [] ∨ (utf8 (attributesChars attributes)).getLast? = some (byte '"') := by
  rcases List.eq_nil_or_concat attributes with rfl | ⟨l, ⟨n, v⟩, rfl⟩
  · exact .inl rfl
  · right
    rw [attributesChars, List.concat_eq_append, List.flatMap_append, List.flatMap_singleton,
      utf8_append, utf8_append, List.getLast?_append, List.getLast?_append]
    rfl

theorem startTag_getLast? {name : String} (h : isName name = true)
    (attributes : List (String × String)) :
    (utf8 name.toList ++ utf8 (attributesChars attributes)).getLast? ≠ some (byte '/') := by
  rcases attributes_getLast? attributes with rfl | hlast
  · intro hslash
    change (utf8 name.toList ++ []).getLast? = _ at hslash
    rw [List.append_nil] at hslash
    exact byte_not_mem_name h (by decide) (by decide) (List.mem_of_getLast? hslash)
  · rw [List.getLast?_append, hlast]
    change some (byte '"') ≠ some (byte '/')
    decide

theorem dropTrailingBlanks_name {name : String} (h : isName name = true) :
    dropTrailingBlanks (utf8 name.toList) = utf8 name.toList := by
  unfold dropTrailingBlanks
  cases hreverse : (utf8 name.toList).reverse with
  | nil => simpa using congrArg List.reverse hreverse.symm
  | cons b rest =>
    have hb : b ∈ utf8 name.toList := by
      rw [← List.mem_reverse, hreverse]
      exact List.mem_cons_self
    have hblank := not_isBlank_of_name h b hb
    rw [Bool.not_eq_true'] at hblank
    rw [List.dropWhile_cons_of_neg (by simp [hblank]), ← hreverse, List.reverse_reverse]

theorem tokensFrom_startTag {name : String} (hname : isName name = true)
    {attributes : List (String × String)} (hattributes : areNames attributes = true) (tail : Bytes)
    (htail : Passes tail) (d : Discipline) (n : Nat) (rest : Bytes) :
    tokensFrom d (n + 1) (byte '<' ::
      (utf8 name.toList ++ utf8 (attributesChars attributes) ++ tail ++ byte '>' :: rest)) =
        .tag (utf8 name.toList ++ utf8 (attributesChars attributes) ++ tail) ::
          tokensFrom d n rest := by
  obtain ⟨hnames, -⟩ := areNames_iff.1 hattributes
  have hpasses : Passes (utf8 name.toList ++ utf8 (attributesChars attributes) ++ tail) :=
    ((passes_name hname).append (passes_attributes hnames)).append htail
  have hsplit (rest : Bytes) := hpasses (byte '>' :: rest)
  obtain ⟨b, r, hb⟩ := utf8_name_cons hname
  have hmem : b ∈ utf8 name.toList := hb ▸ List.mem_cons_self
  have hne {c : Char} (hc : c.toNat < 128) (hother : isNameChar c = false) : b ≠ byte c := by
    rintro rfl
    exact byte_not_mem_name hname hc hother hmem
  rw [hb] at hsplit ⊢
  refine tokensFrom_tag ⟨hne (by decide) (by decide), hne (by decide) (by decide),
    hne (by decide) (by decide)⟩ (fun rest => (hsplit rest).trans ?_) d n rest
  change some (_ ++ [], rest) = _
  rw [List.append_nil]
  rfl

theorem Marked.eq_nil {es : Elements} {events : List Event} (h : Marked [] es events) :
    es = .nil ∧ events = [] := by
  obtain ⟨ts, htokens, hspells, rfl⟩ := h
  obtain rfl : ts = [] := List.length_eq_zero_iff.1 (Nat.le_zero.1 htokens.length_le)
  cases hspells
  exact ⟨rfl, rfl⟩

section

variable {name : String} {attributes : List (String × String)}

theorem marked_emptyElement (hname : isName name = true) (hattributes : areNames attributes = true) :
    Marked ('<' :: (name.toList ++ attributesChars attributes ++ ['/', '>']))
      (.cons (tagOf name attributes) .nil .nil)
      [.start (tagOf name attributes), .stop name] := by
  have hlast : (utf8 name.toList ++ utf8 (attributesChars attributes) ++ [byte '/']).getLast? =
      some (byte '/') := List.getLast?_concat
  have hcontent := ofContent_tagOf hname attributes
  have hbytes : utf8 ('<' :: (name.toList ++ attributesChars attributes ++ ['/', '>'])) =
      byte '<' :: (utf8 name.toList ++ utf8 (attributesChars attributes) ++ [byte '/'] ++
        [byte '>']) := by
    simp only [utf8_cons, utf8_append, List.append_assoc]
    rfl
  unfold Marked
  rw [hbytes]
  refine ⟨[.tag (utf8 name.toList ++ utf8 (attributesChars attributes) ++ [byte '/'])], ⟨?_, ?_⟩,
    ?_, ?_⟩
  · simp
  · intro d n rest _
    have htokens := tokensFrom_startTag hname hattributes [byte '/'] (passes_of_not_mem (by decide))
      d n rest
    simpa only [List.cons_append, List.append_assoc, List.nil_append, List.length_singleton] using
      htokens
  · have hspells := Spells.empty hlast .nil
    rwa [List.dropLast_concat, hcontent] at hspells
  · rw [List.flatMap_singleton, Token.events, if_pos hlast, List.dropLast_concat, hcontent]
    rfl

theorem marked_fullElement (hname : isName name = true) (hattributes : areNames attributes = true)
    {inner : List Char} {es : Elements} {events : List Event} (hinner : Marked inner es events) :
    Marked ('<' :: (name.toList ++ attributesChars attributes ++ '>' ::
        (inner ++ '<' :: '/' :: (name.toList ++ ['>']))))
      (.cons (tagOf name attributes) es .nil)
      (.start (tagOf name attributes) :: events ++ [.stop name]) := by
  obtain ⟨ts, htokens, hspells, rfl⟩ := hinner
  have hlast := startTag_getLast? hname attributes
  have hcontent := ofContent_tagOf hname attributes
  have hclose : plainText (dropTrailingBlanks (utf8 name.toList)) = name := by
    rw [dropTrailingBlanks_name hname, plainText_name hname]
  have hbytes : utf8 ('<' :: (name.toList ++ attributesChars attributes ++ '>' ::
      (inner ++ '<' :: '/' :: (name.toList ++ ['>'])))) =
        byte '<' :: (utf8 name.toList ++ utf8 (attributesChars attributes) ++ [] ++ byte '>' ::
          (utf8 inner ++ byte '<' :: (byte '/' :: utf8 name.toList ++ byte '>' :: []))) := by
    simp only [utf8_cons, utf8_append, List.append_assoc]
    rfl
  unfold Marked
  rw [hbytes]
  refine ⟨.tag (utf8 name.toList ++ utf8 (attributesChars attributes)) :: ts ++
    [.endTag (utf8 name.toList)], ⟨?_, ?_⟩, ?_, ?_⟩
  · have := htokens.length_le
    simp only [List.length_cons, List.length_append]
    omega
  · intro d n rest _
    have hclosing : byte '>' ∉ utf8 name.toList := byte_not_mem_name hname (by decide) (by decide)
    have hlength : n + (.tag (utf8 name.toList ++ utf8 (attributesChars attributes)) :: ts ++
        [Token.endTag (utf8 name.toList)]).length = n + 1 + ts.length + 1 := by
      simp only [List.length_cons, List.length_append, List.length_nil]
      omega
    -- The start tag comes first, then what is inside up to the next markup, then the end tag.
    have hassoc : byte '<' :: (utf8 name.toList ++ utf8 (attributesChars attributes) ++ [] ++
        byte '>' :: (utf8 inner ++ byte '<' :: (byte '/' :: utf8 name.toList ++ byte '>' :: []))) ++
          rest = byte '<' :: (utf8 name.toList ++ utf8 (attributesChars attributes) ++ [] ++
            byte '>' :: (utf8 inner ++ (byte '<' :: (byte '/' :: utf8 name.toList ++
              byte '>' :: rest)))) := by
      simp only [List.cons_append, List.append_assoc, List.nil_append]
    rw [hlength, hassoc, tokensFrom_startTag hname hattributes [] (passes_of_not_mem (by decide)),
      htokens.tokens d (n + 1) _ (.inr rfl), tokensFrom_endTag hclosing, List.append_nil]
    simp only [List.cons_append, List.append_assoc, List.nil_append]
  · have hfull := Spells.full hlast (hclose.trans (congrArg Tag.name hcontent).symm) hspells .nil
    rwa [hcontent] at hfull
  · simp only [List.cons_append, List.flatMap_cons, List.flatMap_append, Token.events,
      if_neg hlast, hcontent, hclose, List.nil_append, List.flatMap_nil]

theorem marked_element {inner : List String} {es : Elements} {events : List Event}
    (hname : isName name = true) (hattributes : areNames attributes = true)
    (hinner : Marked (String.join inner).toList es events) :
    Marked (element name attributes inner).toList (.cons (tagOf name attributes) es .nil)
      (.start (tagOf name attributes) :: events ++ [.stop name]) := by
  rw [toList_element]
  cases hempty : inner.isEmpty with
  | true =>
    obtain rfl := List.isEmpty_iff.1 hempty
    obtain ⟨rfl, rfl⟩ := hinner.eq_nil
    exact marked_emptyElement hname hattributes
  | false => exact marked_fullElement hname hattributes hinner

end

theorem Marked.append {s s' : List Char} {es es' : Elements} {events events' : List Event}
    (h : Marked s es events) (h' : Marked s' es' events') (hmarkup : AtMarkup (utf8 s')) :
    Marked (s ++ s') (es ++ es') (events ++ events') := by
  obtain ⟨ts, htokens, hspells, rfl⟩ := h
  obtain ⟨ts', htokens', hspells', rfl⟩ := h'
  unfold Marked
  rw [utf8_append]
  exact ⟨ts ++ ts', htokens.append htokens' hmarkup, hspells.append hspells',
    List.flatMap_append⟩

theorem marked_text {s : List Char} (hs : s ≠ []) (h : '<' ∉ s) :
    Marked s .nil [.text (utf8 s)] := by
  refine ⟨[.text (utf8 s)], .text ?_ ?_, .text .nil, rfl⟩
  · exact fun hnil => hs (utf8_inj hnil)
  · rwa [byte_mem_utf8_iff (by decide)]

structure MarkedList (l : List String) (es : Elements) (events : List Event) : Prop where
  marked : Marked (String.join l).toList es events
  atMarkup : AtMarkup (utf8 (String.join l).toList)

theorem markedList_nil : MarkedList [] .nil [] := ⟨marked_nil, .inl rfl⟩

theorem MarkedList.append {l l' : List String} {es es' : Elements} {events events' : List Event}
    (h : MarkedList l es events) (h' : MarkedList l' es' events') :
    MarkedList (l ++ l') (es ++ es') (events ++ events') := by
  have hjoin : (String.join (l ++ l')).toList =
      (String.join l).toList ++ (String.join l').toList := by
    simp only [String.toList_join, List.flatMap_append]
  constructor
  · rw [hjoin]
    exact h.marked.append h'.marked h'.atMarkup
  · rw [hjoin, utf8_append]
    exact h.atMarkup.append h'.atMarkup

section

variable {name : String} {attributes : List (String × String)} {inner : List String}
  {es : Elements} {events : List Event}

theorem markedList_element (hname : isName name = true) (hattributes : areNames attributes = true)
    (hinner : Marked (String.join inner).toList es events) :
    MarkedList [element name attributes inner] (.cons (tagOf name attributes) es .nil)
      (.start (tagOf name attributes) :: events ++ [.stop name]) := by
  have hjoin : String.join [element name attributes inner] = element name attributes inner := by
    rw [String.join_cons]
    simp [String.join]
  constructor
  · rw [hjoin]
    exact marked_element hname hattributes hinner
  · rw [hjoin, toList_element]
    exact .inr rfl

end

namespace Elements

def single (name : String) (attributes : List (String × String)) (inside : Elements) : Elements :=
  cons (tagOf name attributes) inside nil

def events : Elements → List Event
  | nil => []
  | cons tag inside after => .start tag :: inside.events ++ .stop tag.name :: after.events

theorem events_append (es es' : Elements) : (es ++ es').events = es.events ++ es'.events := by
  induction es with
  | nil => rfl
  | cons tag inside after _ ih =>
    rw [cons_append, events, ih, events]
    simp

def All (p : Tag → Prop) (es : Elements) : Prop := ∀ t ∈ es.tags, p t

section

variable {p : Tag → Prop}

theorem all_nil : All p nil := by rintro t ⟨⟩

theorem all_cons_iff {tag : Tag} {inside after : Elements} :
    All p (cons tag inside after) ↔ p tag ∧ All p inside ∧ All p after := by
  unfold All
  rw [tags, List.cons_append, List.forall_mem_cons, List.forall_mem_append]

theorem all_append {es es' : Elements} (h : All p es) (h' : All p es') : All p (es ++ es') := by
  induction es with
  | nil => exact h'
  | cons tag inside after _ ih =>
    obtain ⟨htag, hinside, hafter⟩ := all_cons_iff.1 h
    exact all_cons_iff.2 ⟨htag, hinside, ih hafter⟩

theorem all_single {name : String} {attributes : List (String × String)} {inside : Elements}
    (h : p (tagOf name attributes)) (hinside : All p inside) :
    All p (single name attributes inside) :=
  all_cons_iff.2 ⟨h, hinside, all_nil⟩

/-- A reader that no tag takes elsewhere stays where it is. -/
theorem foldlM_events {σ : Type} {step : σ → Event → Option σ} {s : σ} {es : Elements}
    (h : All (fun t => step s (.start t) = some s ∧ step s (.stop t.name) = some s) es) :
    es.events.foldlM step s = some s := by
  induction es with
  | nil => rfl
  | cons tag inside after ihinside ihafter =>
    obtain ⟨⟨hstart, hstop⟩, hinside, hafter⟩ := all_cons_iff.1 h
    rw [events, List.cons_append, List.foldlM_cons, hstart]
    change (inside.events ++ _).foldlM step s = _
    rw [List.foldlM_append, ihinside hinside]
    change (Event.stop tag.name :: after.events).foldlM step s = _
    rw [List.foldlM_cons, hstop]
    exact ihafter hafter

theorem foldlM_single {σ : Type} {step : σ → Event → Option σ} {s s₁ s₂ s₃ : σ} {name : String}
    {attributes : List (String × String)} {inside : Elements}
    (hstart : step s (.start (tagOf name attributes)) = some s₁)
    (hinside : inside.events.foldlM step s₁ = some s₂) (hstop : step s₂ (.stop name) = some s₃) :
    (single name attributes inside).events.foldlM step s = some s₃ := by
  rw [single, events, events, List.cons_append, List.foldlM_cons, hstart]
  change (inside.events ++ [Event.stop name]).foldlM step s₁ = _
  rw [List.foldlM_append, hinside]
  change ([.stop name] : List Event).foldlM step s₂ = _
  rw [List.foldlM_cons, hstop]
  rfl

end

end Elements

def Writes (l : List String) (es : Elements) : Prop := MarkedList l es es.events

theorem writes_nil : Writes [] .nil := markedList_nil

theorem Writes.append {l l' : List String} {es es' : Elements} (h : Writes l es)
    (h' : Writes l' es') : Writes (l ++ l') (es ++ es') := by
  unfold Writes
  rw [Elements.events_append]
  exact MarkedList.append h h'

theorem Writes.cons {s : String} {l : List String} {es es' : Elements} (h : Writes [s] es)
    (h' : Writes l es') : Writes (s :: l) (es ++ es') := h.append h'

theorem writes_element {name : String} {attributes : List (String × String)} {inner : List String}
    {es : Elements} (hname : isName name = true) (hattributes : areNames attributes = true)
    (hinner : Writes inner es) :
    Writes [element name attributes inner] (.single name attributes es) :=
  markedList_element hname hattributes hinner.marked

def Elements.each {α : Type} (name : String) (attributes : α → List (String × String))
    (inside : α → Elements) : List α → Elements
  | [] => nil
  | a :: l => cons (tagOf name (attributes a)) (inside a) (each name attributes inside l)

theorem Elements.all_each {α : Type} {p : Tag → Prop} {name : String}
    {attributes : α → List (String × String)} {inside : α → Elements} {l : List α}
    (h : ∀ a ∈ l, p (tagOf name (attributes a))) (hinside : ∀ a ∈ l, All p (inside a)) :
    All p (each name attributes inside l) := by
  induction l with
  | nil => exact all_nil
  | cons a l ih =>
    rw [List.forall_mem_cons] at h hinside
    exact all_cons_iff.2 ⟨h.1, hinside.1, ih h.2 hinside.2⟩

theorem writes_each {α : Type} {name : String} {attributes : α → List (String × String)}
    {inner : α → List String} {inside : α → Elements} {l : List α} (hname : isName name = true)
    (hattributes : ∀ a ∈ l, areNames (attributes a) = true)
    (hinner : ∀ a ∈ l, Writes (inner a) (inside a)) :
    Writes (l.map fun a => element name (attributes a) (inner a))
      (.each name attributes inside l) := by
  induction l with
  | nil => exact writes_nil
  | cons a l ih =>
    rw [List.forall_mem_cons] at hattributes hinner
    exact (writes_element hname hattributes.1 hinner.1).cons (ih hattributes.2 hinner.2)

def declaration : List Char := "xml version=\"1.0\" encoding=\"UTF-8\" standalone=\"yes\"".toList

theorem afterClose?_append {before s : Bytes} (h : byte '>' ∉ s) (seen rest : Bytes)
    (hbefore : before.isPrefixOf (s.reverse ++ seen) = true) :
    afterClose? before seen (s ++ byte '>' :: rest) = some rest := by
  induction s generalizing seen with
  | nil =>
    rw [List.nil_append, afterClose?, if_pos]
    rw [Bool.and_eq_true]
    exact ⟨by decide, hbefore⟩
  | cons x s ih =>
    rw [List.mem_cons, not_or] at h
    rw [List.cons_append, afterClose?, if_neg (by simp [Ne.symm h.1])]
    refine ih h.2 (x :: seen) ?_
    rwa [List.reverse_cons, List.append_assoc, List.singleton_append] at hbefore

theorem markup_declaration (d : Discipline) (rest : Bytes) :
    markup d (byte '?' :: (utf8 declaration ++ [byte '?'] ++ byte '>' :: rest)) =
      (.aside, rest) := by
  have hclose : byte '>' ∉ utf8 declaration ++ [byte '?'] := by
    rw [List.mem_append, byte_mem_utf8_iff (by decide)]
    decide
  have hinstruction : afterInstruction? d (utf8 declaration ++ [byte '?'] ++ byte '>' :: rest) =
      some rest := by
    cases d with
    | strict =>
      refine afterClose?_append hclose [] rest ?_
      rw [List.reverse_append]
      rfl
    | lenient =>
      rw [afterInstruction?, splitAt?_append hclose]
      change (if (utf8 declaration ++ [byte '?']).getLast? = some (byte '?') then some rest
        else none) = some rest
      rw [if_pos List.getLast?_concat]
  rw [markup, if_neg (by decide), if_pos rfl, hinstruction]

theorem marked_document {root : String} {es : Elements} {events : List Event}
    (h : MarkedList [root] es events) :
    Marked (document root).toList es (.text [byte '\n'] :: events) := by
  obtain ⟨⟨ts, htokens, hspells, rfl⟩, hmarkup⟩ := h
  have hjoin : String.join [root] = root := by simp [String.join]
  rw [hjoin] at htokens hmarkup
  have hbytes : utf8 (document root).toList = byte '<' :: (byte '?' ::
      (utf8 declaration ++ [byte '?'] ++ byte '>' :: ([byte '\n'] ++ utf8 root.toList))) := by
    unfold document
    rw [String.toList_append, utf8_append]
    have hprolog : "<?xml version=\"1.0\" encoding=\"UTF-8\" standalone=\"yes\"?>\n".toList =
      '<' :: '?' :: (declaration ++ ['?', '>', '\n']) := by decide
    rw [hprolog]
    simp only [utf8_cons, utf8_append, List.append_assoc]
    rfl
  have htext : Tokenizes [byte '\n'] [.text [byte '\n']] :=
    .text (List.cons_ne_nil _ _) (by decide)
  unfold Marked
  rw [hbytes]
  refine ⟨.aside :: .text [byte '\n'] :: ts, ⟨?_, ?_⟩, .aside (.text hspells), rfl⟩
  · have := htokens.length_le
    simp only [List.length_cons, List.length_append, List.length_nil]
    omega
  · intro d n rest hrest
    have hassoc : byte '<' :: (byte '?' :: (utf8 declaration ++ [byte '?'] ++ byte '>' ::
        ([byte '\n'] ++ utf8 root.toList))) ++ rest = byte '<' :: (byte '?' ::
          (utf8 declaration ++ [byte '?'] ++ byte '>' :: ([byte '\n'] ++
            (utf8 root.toList ++ rest)))) := by
      simp only [List.cons_append, List.append_assoc, List.nil_append]
    have hafter := htext.tokens d (n + ts.length) _ (hmarkup.append hrest)
    rw [htokens.tokens d n rest hrest] at hafter
    rw [hassoc]
    refine (tokensFrom_markup (markup_declaration _ _) Token.noConfusion _).trans ?_
    exact congrArg _ hafter

theorem Marked.lenientEvents {s : List Char} {es : Elements} {events : List Event}
    (h : Marked s es events) : Xml.lenientEvents (utf8 s) = events := by
  obtain ⟨ts, htokens, -, rfl⟩ := h
  unfold Xml.lenientEvents
  rw [htokens.tokens_eq]

theorem Marked.strictEvents {s : List Char} {es : Elements} {events : List Event}
    (h : Marked s es events) : Xml.strictEvents (utf8 s) = events := by
  obtain ⟨ts, htokens, hspells, rfl⟩ := h
  have hnesting := hspells.checkNesting_append [] []
  unfold Xml.strictEvents
  rw [htokens.tokens_eq]
  rwa [List.append_nil, checkNesting, List.append_nil] at hnesting

theorem Marked.spells {s : List Char} {es : Elements} {events : List Event}
    (h : Marked s es events) (d : Discipline) : Spells (tokens d (utf8 s)) es := by
  obtain ⟨ts, htokens, hspells, -⟩ := h
  rwa [htokens.tokens_eq]

def Prints (l : List String) (events : List Event) : Prop := ∃ es, MarkedList l es events

namespace Prints

variable {l l' : List String} {events events' : List Event}

theorem nil : Prints [] [] := ⟨.nil, markedList_nil⟩

theorem append (h : Prints l events) (h' : Prints l' events') :
    Prints (l ++ l') (events ++ events') := by
  obtain ⟨es, h⟩ := h
  obtain ⟨es', h'⟩ := h'
  exact ⟨es ++ es', h.append h'⟩

theorem ofWrites {es : Elements} (h : Writes l es) : Prints l es.events := ⟨es, h⟩

theorem element {name : String} {attributes : List (String × String)} (hname : isName name = true)
    (hattributes : areNames attributes = true) (h : Prints l events) :
    Prints [Xml.element name attributes l]
      (.start (tagOf name attributes) :: events ++ [.stop name]) := by
  obtain ⟨es, h⟩ := h
  exact ⟨_, markedList_element hname hattributes h.marked⟩

theorem leaf {name text : String} {attributes : List (String × String)} (hname : isName name = true)
    (hattributes : areNames attributes = true) (htext : text.toList ≠ []) (h : '<' ∉ text.toList) :
    Prints [Xml.element name attributes [text]]
      [.start (tagOf name attributes), .text (utf8 text.toList), .stop name] := by
  have hjoin : String.join [text] = text := by simp [String.join]
  have hmarked : Marked (String.join [text]).toList .nil [.text (utf8 text.toList)] := by
    rw [hjoin]
    exact marked_text htext h
  exact ⟨_, markedList_element hname hattributes hmarked⟩

theorem map {α : Type} {f : α → String} {events : α → List Event} {l : List α}
    (h : ∀ a ∈ l, Prints [f a] (events a)) : Prints (l.map f) (l.flatMap events) := by
  induction l with
  | nil => exact nil
  | cons a l ih =>
    rw [List.forall_mem_cons] at h
    exact h.1.append (ih h.2)

theorem document {root : String} (h : Prints [root] events) :
    Xml.lenientEvents (utf8 (Xml.document root).toList) = .text [byte '\n'] :: events ∧
      Xml.strictEvents (utf8 (Xml.document root).toList) = .text [byte '\n'] :: events := by
  obtain ⟨es, h⟩ := h
  exact ⟨(marked_document h).lenientEvents, (marked_document h).strictEvents⟩

end Prints

end SheetTemplate.Xml
