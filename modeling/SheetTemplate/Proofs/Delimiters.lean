import Mathlib.Algebra.GroupWithZero.Nat
import Mathlib.Data.List.Induction
import SheetTemplate.Preview

namespace SheetTemplate.Preview

/-- An odd number of backslashes stands at the end, so that what follows is escaped. -/
def escaping (s : List Char) : Bool := (s.reverse.takeWhile (· == '\\')).length % 2 == 1

def pipes (escaped : Bool) (s : List Char) : Nat :=
  (List.range s.length).countP fun i => s[i]? == some '|' && escaping (s.take i) == escaped

/-- The pieces of a text between its unescaped pipes, where the text stands after another one. -/
def fieldsAfter (before : List Char) : List Char → List (List Char)
  | [] => [[]]
  | c :: s =>
    if c = '|' ∧ escaping before = false then [] :: fieldsAfter (before ++ [c]) s
    else (fieldsAfter (before ++ [c]) s).modifyHead (c :: ·)

def fields (s : List Char) : List (List Char) := fieldsAfter [] s

@[simp] theorem escaping_nil : escaping [] = false := rfl

@[simp] theorem escaping_concat (s : List Char) (c : Char) :
    escaping (s ++ [c]) = (c == '\\' && !escaping s) := by
  unfold escaping
  rw [List.reverse_append, List.reverse_singleton, List.singleton_append, List.takeWhile_cons]
  cases c == '\\' with
  | false => rfl
  | true =>
    rw [Bool.true_and, if_pos rfl, List.length_cons, Bool.eq_iff_iff]
    simp only [beq_iff_eq, Bool.not_eq_true', beq_eq_false_iff_ne]
    omega

theorem escaping_append {s : List Char} (h : escaping s = false) (t : List Char) :
    escaping (s ++ t) = escaping t := by
  induction t using List.reverseRecOn with
  | nil => rw [List.append_nil, h, escaping_nil]
  | append_singleton t c ih => rw [← List.append_assoc, escaping_concat, escaping_concat, ih]

@[simp] theorem pipes_nil (e : Bool) : pipes e [] = 0 := rfl

@[simp] theorem pipes_concat (e : Bool) (s : List Char) (c : Char) :
    pipes e (s ++ [c]) = pipes e s + if c = '|' ∧ escaping s = e then 1 else 0 := by
  have hfront : ∀ i ∈ List.range s.length,
      ((s ++ [c])[i]? == some '|' && escaping ((s ++ [c]).take i) == e) =
        (s[i]? == some '|' && escaping (s.take i) == e) := by
    intro i hi
    have hi : i < s.length := List.mem_range.1 hi
    rw [List.getElem?_append_left hi, List.take_append_of_le_length (Nat.le_of_lt hi)]
  unfold pipes
  rw [List.length_append, List.length_singleton, List.range_succ, List.countP_append,
    List.countP_congr fun i hi => by rw [hfront i hi], List.countP_singleton]
  simp

theorem pipes_append (e : Bool) {s : List Char} (h : escaping s = false) (t : List Char) :
    pipes e (s ++ t) = pipes e s + pipes e t := by
  induction t using List.reverseRecOn with
  | nil => rw [List.append_nil, pipes_nil, Nat.add_zero]
  | append_singleton t c ih =>
    rw [← List.append_assoc, pipes_concat, pipes_concat, ih, escaping_append h, Nat.add_assoc]

theorem pipes_eq_zero (e : Bool) {s : List Char} (h : '|' ∉ s) : pipes e s = 0 := by
  induction s using List.reverseRecOn with
  | nil => rfl
  | append_singleton s c ih =>
    rw [List.mem_append, List.mem_singleton, not_or] at h
    rw [pipes_concat, ih h.1, if_neg fun hc => h.2 hc.1.symm]

theorem fieldsAfter_congr {b b' : List Char} (h : escaping b = escaping b') (s : List Char) :
    fieldsAfter b s = fieldsAfter b' s := by
  induction s generalizing b b' with
  | nil => rfl
  | cons c s ih =>
    have htail : escaping (b ++ [c]) = escaping (b' ++ [c]) := by
      rw [escaping_concat, escaping_concat, h]
    rw [fieldsAfter, fieldsAfter, h, ih htail]

theorem fieldsAfter_ne_nil (b s : List Char) : fieldsAfter b s ≠ [] := by
  induction s generalizing b with
  | nil => exact List.cons_ne_nil _ _
  | cons c s ih =>
    rw [fieldsAfter]
    split
    · exact List.cons_ne_nil _ _
    · rw [Ne, ← List.length_eq_zero_iff, List.length_modifyHead, List.length_eq_zero_iff]
      exact ih _

theorem length_fieldsAfter (b s : List Char) :
    (fieldsAfter b s).length + pipes false b = pipes false (b ++ s) + 1 := by
  induction s generalizing b with
  | nil => rw [List.append_nil, fieldsAfter, List.length_singleton, Nat.add_comm]
  | cons c s ih =>
    have ih := ih (b ++ [c])
    rw [List.append_assoc, List.singleton_append, pipes_concat] at ih
    rw [fieldsAfter]
    split <;> rename_i hc
    · rw [if_pos hc] at ih
      rw [List.length_cons]
      omega
    · rw [if_neg hc] at ih
      rw [List.length_modifyHead]
      omega

/-- A line has one piece more than it has unescaped pipes. -/
theorem length_fields (s : List Char) : (fields s).length = pipes false s + 1 :=
  length_fieldsAfter [] s

theorem intercalate_modifyHead {ps : List (List Char)} (h : ps ≠ []) (c : Char) :
    List.intercalate ['|'] (ps.modifyHead (c :: ·)) = c :: List.intercalate ['|'] ps := by
  cases ps with
  | nil => exact absurd rfl h
  | cons p ps => cases ps <;> rfl

theorem intercalate_fieldsAfter (b s : List Char) :
    List.intercalate ['|'] (fieldsAfter b s) = s := by
  induction s generalizing b with
  | nil => rfl
  | cons c s ih =>
    rw [fieldsAfter]
    split <;> rename_i hc
    · obtain ⟨p, ps, hps⟩ := List.exists_cons_of_ne_nil (fieldsAfter_ne_nil (b ++ [c]) s)
      have ih := ih (b ++ [c])
      rw [hps] at ih ⊢
      rw [List.intercalate_cons_cons, ih, hc.1]
      rfl
    · rw [intercalate_modifyHead (fieldsAfter_ne_nil _ _), ih]

theorem intercalate_fields (s : List Char) : List.intercalate ['|'] (fields s) = s :=
  intercalate_fieldsAfter [] s

example : fields ['a', '|', 'b', '\\', '|', 'c'] = [['a'], ['b', '\\', '|', 'c']] := by decide

theorem fields_eq_singleton {s : List Char} (h : pipes false s = 0) : fields s = [s] := by
  have hlength : (fields s).length = 1 := by rw [length_fields, h]
  obtain ⟨p, hp⟩ := List.length_eq_one_iff.1 hlength
  have hs := intercalate_fields s
  rw [hp, List.intercalate_singleton] at hs
  rw [hp, hs]

theorem fieldsAfter_append_pipe {b s : List Char} (h : escaping (b ++ s) = false)
    (t : List Char) : fieldsAfter b (s ++ '|' :: t) = fieldsAfter b s ++ fields t := by
  induction s generalizing b with
  | nil =>
    rw [List.append_nil] at h
    have hpipe : escaping (b ++ ['|']) = escaping [] := by rw [escaping_concat]; rfl
    change fieldsAfter b ('|' :: t) = [] :: fields t
    rw [fieldsAfter, if_pos ⟨rfl, h⟩, fieldsAfter_congr hpipe]
    rfl
  | cons c s ih =>
    have ih := ih (b := b ++ [c]) (by rwa [List.append_assoc])
    rw [List.cons_append, fieldsAfter, fieldsAfter, ih]
    split
    · rfl
    · obtain ⟨p, ps, hps⟩ := List.exists_cons_of_ne_nil (fieldsAfter_ne_nil (b ++ [c]) s)
      rw [hps]
      rfl

/-- A pipe after a text that does not escape it ends the last piece. -/
theorem fields_append_pipe {s : List Char} (h : escaping s = false) (t : List Char) :
    fields (s ++ '|' :: t) = fields s ++ fields t :=
  fieldsAfter_append_pipe (b := []) h t

def framed (cells : List (List Char)) : List Char := '|' :: cells.flatMap (· ++ ['|'])

theorem not_mem_framed {c : Char} (hc : c ≠ '|') {cells : List (List Char)}
    (h : ∀ s ∈ cells, c ∉ s) : c ∉ framed cells := by
  rw [framed, List.mem_cons, not_or, List.mem_flatMap]
  refine ⟨hc, fun ⟨s, hs, hmem⟩ => ?_⟩
  rw [List.mem_append, List.mem_singleton] at hmem
  exact hmem.elim (h s hs) hc

theorem fields_framed {cells : List (List Char)} (h : ∀ c ∈ cells, escaping c = false) :
    fields (framed cells) = [] :: (cells.flatMap fields ++ [[]]) := by
  have hcells : fields (cells.flatMap (· ++ ['|'])) = cells.flatMap fields ++ [[]] := by
    induction cells with
    | nil => rfl
    | cons c cells ih =>
      rw [List.forall_mem_cons] at h
      rw [List.flatMap_cons, List.append_assoc, List.singleton_append, fields_append_pipe h.1,
        ih h.2, List.flatMap_cons, List.append_assoc]
  have hopen := fields_append_pipe escaping_nil (cells.flatMap (· ++ ['|']))
  rw [List.nil_append, hcells] at hopen
  exact hopen

theorem pipes_framed {cells : List (List Char)} (h : ∀ c ∈ cells, escaping c = false) :
    pipes false (framed cells) = cells.length + 1 + (cells.map (pipes false)).sum := by
  have hlength := length_fields (framed cells)
  rw [fields_framed h, List.length_cons, List.length_append, List.length_flatMap,
    List.length_singleton] at hlength
  have hsum : (cells.map fun c => (fields c).length).sum =
      cells.length + (cells.map (pipes false)).sum := by
    clear h hlength
    induction cells with
    | nil => rfl
    | cons c cells ih =>
      rw [List.map_cons, List.sum_cons, ih, length_fields, List.length_cons, List.map_cons,
        List.sum_cons]
      omega
  omega

end SheetTemplate.Preview
