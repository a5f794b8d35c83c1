import SheetTemplate.Proofs.Dispatch

namespace SheetTemplate

section Since

variable {α γ : Type} {q q' : α → Prop} {l l' : List α} {x y : α}

def Since (q : α → Prop) (l : List α) (x : α) : Prop :=
  ∃ before after, l = before ++ x :: after ∧ ∀ y ∈ after, q y

theorem not_since_nil : ¬ Since q [] x := by
  rintro ⟨before, after, h, -⟩
  simp at h

theorem since_concat_iff : Since q (l ++ [y]) x ↔ y = x ∨ Since q l x ∧ q y := by
  constructor
  · rintro ⟨before, after, h, hafter⟩
    rcases List.eq_nil_or_concat after with rfl | ⟨after, z, rfl⟩
    · exact .inl (by simpa using (List.append_inj' h rfl).2)
    · rw [List.concat_eq_append] at h hafter
      rw [← List.cons_append, ← List.append_assoc] at h
      obtain ⟨rfl, hz⟩ := List.append_inj' h rfl
      obtain rfl : y = z := by simpa using hz
      exact .inr ⟨⟨before, after, rfl, fun w hw => hafter w (by simp [hw])⟩, hafter y (by simp)⟩
  · rintro (rfl | ⟨⟨before, after, rfl, hafter⟩, hy⟩)
    · exact ⟨l, [], rfl, by simp⟩
    · refine ⟨before, after ++ [y], by simp, ?_⟩
      intro z hz
      rcases List.mem_append.1 hz with hz | hz
      · exact hafter z hz
      · exact List.mem_singleton.1 hz ▸ hy

theorem since_append_iff : Since q (l ++ l') x ↔ Since q l' x ∨ Since q l x ∧ ∀ y ∈ l', q y := by
  induction l' using List.reverseRecOn with
  | nil => simp [not_since_nil]
  | append_singleton l' z ih =>
    rw [← List.append_assoc, since_concat_iff, since_concat_iff, ih]
    simp only [List.mem_append, List.mem_singleton, or_imp, forall_and, forall_eq]
    tauto

theorem since_map_iff {q : γ → Prop} {f : α → γ} {z : γ} :
    Since q (l.map f) z ↔ ∃ x, f x = z ∧ Since (fun x => q (f x)) l x := by
  induction l using List.reverseRecOn with
  | nil => simp [not_since_nil]
  | append_singleton l y ih =>
    simp only [List.map_append, List.map_singleton, since_concat_iff, ih, and_or_left, exists_or,
      ← exists_and_right, and_assoc]
    simp

theorem exists_since (h : ∃ x ∈ l, ¬ q x) : ∃ x, ¬ q x ∧ Since q l x := by
  induction l using List.reverseRecOn with
  | nil => simp at h
  | append_singleton l y ih =>
    simp only [since_concat_iff]
    by_cases hy : q y
    · obtain ⟨x, hx, hqx⟩ := h
      have hmem : x ∈ l := by
        rcases List.mem_append.1 hx with hx | hx
        · exact hx
        · exact absurd (List.mem_singleton.1 hx ▸ hy) hqx
      obtain ⟨z, hz, hsince⟩ := ih ⟨x, hmem, hqx⟩
      exact ⟨z, hz, .inr ⟨hsince, hy⟩⟩
    · exact ⟨y, hy, .inl rfl⟩

theorem Since.mem (h : Since q l x) : x ∈ l := by
  obtain ⟨before, after, rfl, -⟩ := h
  simp

theorem Since.mono (h : Since q l x) (hq : ∀ y, q y → q' y) : Since q' l x := by
  obtain ⟨before, after, rfl, hafter⟩ := h
  exact ⟨before, after, rfl, fun y hy => hq y (hafter y hy)⟩

end Since

namespace Registry

inductive Change (β : Type) where
  | register (b : β)
  | addAlias (key target : String)
  | retain (keep : List String)

variable {β : Type} [Language β] {history : List (Change β)} {name tag : String} {b : β}

def change (r : Registry β) : Change β → Registry β
  | .register b => r.register b
  | .addAlias key target => r.addAlias key target
  | .retain keep => r.retain keep

def replay (history : List (Change β)) : Registry β := history.foldl change initial

theorem replay_concat (history : List (Change β)) (c : Change β) :
    replay (history ++ [c]) = (replay history).change c := by
  simp [replay]

def Change.entry? : Change β → Option (String × String)
  | .register b => some (Language.name b, Text.lower (Language.name b))
  | .addAlias key target => some (key, Text.lower target)
  | .retain _ => none

def entries (history : List (Change β)) : List (String × String) :=
  defaultAliases ++ history.filterMap Change.entry?

/-- The last entry for the tag has the target `name`. -/
def LeadsTo (history : List (Change β)) (tag name : String) : Prop :=
  ∃ key, Text.lower key = Text.lower tag ∧
    Since (fun e => Text.lower e.1 ≠ Text.lower tag) (entries history) (key, name)

def Records (t : Std.TreeMap String String) (l : List (String × String)) : Prop :=
  ∀ k n, t[k]? = some n ↔
    ∃ key, Text.lower key = k ∧ Since (fun e => Text.lower e.1 ≠ k) l (key, n)

theorem records_nil : Records ∅ [] := by
  intro k n
  simp [not_since_nil]

theorem Records.insert {t : Std.TreeMap String String} {l : List (String × String)}
    (h : Records t l) (key target : String) :
    Records (t.insert (Text.lower key) target) (l ++ [(key, target)]) := by
  intro k n
  simp only [since_concat_iff, Std.TreeMap.getElem?_insert, Std.LawfulEqCmp.compare_eq_iff_eq]
  by_cases hk : Text.lower key = k
  · simp [hk]
  · simp only [hk, if_false, h k n]
    constructor
    · rintro ⟨key', hkey', hsince⟩
      exact ⟨key', hkey', .inr ⟨hsince, hk⟩⟩
    · rintro ⟨key', hkey', he | ⟨hsince, -⟩⟩
      · cases he
        exact absurd hkey' hk
      · exact ⟨key', hkey', hsince⟩

theorem records_default : Records (.ofList defaultAliases) defaultAliases :=
  (((records_nil.insert "javascript" "js").insert "ecmascript" "js").insert "es" "js").insert
    "python" "py"

theorem entries_concat (history : List (Change β)) (c : Change β) :
    entries (history ++ [c]) = entries history ++ c.entry?.toList := by
  cases h : c.entry? <;> simp [entries, h]

theorem records_replay (history : List (Change β)) :
    Records (replay history).aliases (entries history) := by
  induction history using List.reverseRecOn with
  | nil => exact records_default
  | append_singleton history c ih =>
    rw [replay_concat, entries_concat]
    cases c with
    | register b => exact ih.insert _ _
    | addAlias key target => exact ih.insert _ _
    | retain keep =>
      rw [Change.entry?, Option.toList_none, List.append_nil]
      exact ih

def Listed (keep : List String) (name : String) : Prop :=
  ∃ k ∈ keep, Text.equalsIgnoringCase k name

theorem languages_register (r : Registry β) (b : β) (name : String) :
    (r.register b).languages[name]? =
      if Text.lower (Language.name b) = name then some b else r.languages[name]? := by
  simp [register, Std.TreeMap.getElem?_insert]

omit [Language β] in
theorem languages_retain {r : Registry β} {keep : List String} :
    (r.retain keep).languages[name]? = some b ↔ r.languages[name]? = some b ∧ Listed keep name := by
  rw [retain, Std.TreeMap.getElem?_filter', Option.filter_eq_some_iff, List.any_eq_true]
  rfl

namespace Change

def Keeps (name : String) : Change β → Prop
  | retain keep => Listed keep name
  | register _ | addAlias _ _ => True

def Spares (name : String) : Change β → Prop
  | register b => Text.lower (Language.name b) ≠ name
  | addAlias _ _ | retain _ => True

variable {c : Change β} {key target : String} {keep : List String}

omit [Language β] in
@[simp] theorem keeps_register : (register b).Keeps name := trivial

omit [Language β] in
@[simp] theorem keeps_addAlias : (addAlias key target : Change β).Keeps name := trivial

omit [Language β] in
@[simp] theorem keeps_retain : (retain keep : Change β).Keeps name ↔ Listed keep name := Iff.rfl

@[simp] theorem spares_register :
    (register b).Spares name ↔ Text.lower (Language.name b) ≠ name := Iff.rfl

@[simp] theorem spares_addAlias : (addAlias key target : Change β).Spares name := trivial

@[simp] theorem spares_retain : (retain keep : Change β).Spares name := trivial

end Change

/-- A language of the name has been registered, and no later list leaves it out. -/
def Available (history : List (Change β)) (name : String) : Prop :=
  ∃ b, Text.lower (Language.name b) = name ∧ Since (Change.Keeps name) history (.register b)

def LastRegistered (history : List (Change β)) (name : String) (b : β) : Prop :=
  Text.lower (Language.name b) = name ∧ Since (Change.Spares name) history (.register b)

theorem languages_replay :
    (replay history).languages[name]? = some b ↔ Text.lower (Language.name b) = name ∧
      Since (fun c => c.Keeps name ∧ c.Spares name) history (.register b) := by
  induction history using List.reverseRecOn with
  | nil => simp [not_since_nil, replay, initial]
  | append_singleton history c ih =>
    rw [replay_concat, since_concat_iff]
    cases c with
    | register b' =>
      rw [change, languages_register]
      by_cases hname : Text.lower (Language.name b') = name
      · simp only [hname, if_true, Option.some.injEq, Change.register.injEq, Change.spares_register,
          ne_eq, not_true_eq_false, and_false, or_false, iff_and_self]
        exact fun h => h ▸ hname
      · rw [if_neg hname, ih]
        refine and_congr_right fun hb => ?_
        have hne : b' ≠ b := fun h => hname (h ▸ hb)
        simp [hname, hne]
    | addAlias key target => simpa [change, addAlias] using ih
    | retain keep =>
      rw [change, languages_retain, ih]
      simp [and_assoc]

theorem available_iff : Available history name ↔ ∃ b, (replay history).languages[name]? = some b := by
  simp only [languages_replay, Available]
  -- The table holds the last language of the name, any earlier one since which it is kept will do:
  -- the two sides have different witnesses, and only their existence is compared.
  induction history using List.reverseRecOn with
  | nil => simp [not_since_nil]
  | append_singleton history c ih =>
    simp only [since_concat_iff]
    cases c with
    | register b' =>
      by_cases hname : Text.lower (Language.name b') = name
      · exact iff_of_true ⟨b', hname, .inl rfl⟩ ⟨b', hname, .inl rfl⟩
      · have hskip {s : β → Prop} :
            (∃ b, Text.lower (Language.name b) = name ∧ (b' = b ∨ s b)) ↔
              ∃ b, Text.lower (Language.name b) = name ∧ s b := by
          refine exists_congr fun b => and_congr_right fun hb => ?_
          have hne : b' ≠ b := fun h => hname (h ▸ hb)
          simp [hne]
        simpa [hskip, hname] using ih
    | addAlias key target => simpa using ih
    | retain keep =>
      by_cases hlisted : Listed keep name
      · simpa [hlisted] using ih
      · simp [hlisted]

theorem lastRegistered_of_languages (h : (replay history).languages[name]? = some b) :
    LastRegistered history name b := by
  obtain ⟨hname, hsince⟩ := languages_replay.1 h
  exact ⟨hname, hsince.mono fun _ => And.right⟩

/-- Where tags lead after any history, and what becomes of code. -/
theorem replay_resolution {β : Type} [Language β] (history : List (Change β)) :
    (∀ tag name, (replay history).resolve? tag = some name ↔
        LeadsTo history tag name ∧ Available history name) ∧
      ∀ f : Formula,
        ((∀ tag body, ¬ Tagged f.code tag body) → (replay history).Refuses f .wrongCodeFormat) ∧
          ∀ tag body, Tagged f.code tag body →
            ((replay history).resolve? tag = none →
                (replay history).Refuses f (.unknownLanguage (Text.lower tag))) ∧
              ∀ name, (replay history).resolve? tag = some name →
                ∃ b, LastRegistered history name b ∧
                  (replay history).Delegates f name b ⟨body, f.direction, f.format⟩ := by
  constructor
  · intro tag name
    rw [resolve?_eq_some_iff, records_replay history, available_iff]
    rfl
  · intro f
    refine ⟨refuses_untagged, fun tag body htagged => ⟨refuses_unresolved htagged, ?_⟩⟩
    intro name hresolve
    obtain ⟨-, b, hb⟩ := resolve?_eq_some_iff.1 hresolve
    exact ⟨b, lastRegistered_of_languages hb, delegates_resolved htagged hresolve hb⟩

def revived : List (Change Script.Realm) :=
  [.register .initial, .addAlias "Node" "JS", .retain ["cel"], .register .initial]

theorem replay_resolution_sample :
    (replay revived).resolve? "NODE" = some "js" ∧
      ∃ b, LastRegistered revived "js" b ∧
        (replay revived).Delegates ⟨.cell, .plain, "[NODE]1"⟩ "js" b ⟨"1", .cell, .plain⟩ := by
  have hleads : LeadsTo revived "NODE" "js" := by
    refine ⟨"Node", by decide, defaultAliases ++ [("js", "js")], [("js", "js")], rfl, ?_⟩
    intro e he
    obtain rfl := List.mem_singleton.1 he
    decide
  have havailable : Available revived "js" :=
    ⟨.initial, by decide, [.register .initial, .addAlias "Node" "JS", .retain ["cel"]], [], rfl,
      by simp⟩
  have htagged : Tagged "[NODE]1" "NODE" "1" := TaggedCode.tagged_iff_split?.2 (by rfl)
  have hresolve := ((replay_resolution revived).1 "NODE" "js").2 ⟨hleads, havailable⟩
  exact ⟨hresolve, (((replay_resolution revived).2 ⟨.cell, .plain, "[NODE]1"⟩).2 "NODE" "1"
    htagged).2 "js" hresolve⟩

end Registry

end SheetTemplate
