import SheetTemplate.Expression.RhaiValue
import SheetTemplate.Proofs.Walk
import SheetTemplate.Proofs.Writing
import SheetTemplate.Render.Value

namespace SheetTemplate

namespace Grid

variable {kind : FormatKind} {rows : List (List Scalar)} {row : List Scalar} {r c width : Nat}

def someRows (rows : List (List Scalar)) : List (List Scalar) :=
  if rows.isEmpty then [[]] else rows

theorem length_someRows (rows : List (List Scalar)) :
    (someRows rows).length = max 1 rows.length := by
  cases rows with
  | nil => rfl
  | cons row rows =>
    simp [someRows]

theorem widest_someRows (rows : List (List Scalar)) :
    widest (someRows rows) = (rows.map List.length).max?.getD 0 := by
  cases rows with
  | nil => rfl
  | cons row rows =>
    rw [List.map_cons, List.max?_cons', Option.getD_some, List.foldl_map]
    simp [someRows, widest]

theorem get?_someRows (rows : List (List Scalar)) (r c : Nat) :
    ((someRows rows)[r]?).bind (·[c]?) = (rows[r]?).bind (·[c]?) := by
  cases rows with
  | nil => cases r <;> simp [someRows]
  | cons row rows => rfl

theorem getElem?_padRow (hc : c < width) :
    (padRow kind width row)[c]? = some ((row[c]?).getD (.padding kind)) := by
  unfold padRow
  by_cases h : c < row.length
  · simp [List.getElem?_append_left h, h]
  · have hrest : c - row.length < width - row.length := by omega
    rw [List.getElem?_append_right (by omega), List.getElem?_replicate_of_lt hrest]
    simp [h]

theorem rows_ofRows :
    (ofRows kind rows).rows = (someRows rows).map (padRow kind (ofRows kind rows).width) :=
  rfl

theorem height_ofRows : (ofRows kind rows).height = max 1 rows.length := by
  rw [height, rows_ofRows, List.length_map, length_someRows]

theorem width_ofRows :
    (ofRows kind rows).width = max 1 ((rows.map List.length).max?.getD 0) := by
  rw [← widest_someRows, Nat.max_comm]
  rfl

theorem get?_ofRows (hr : r < (ofRows kind rows).height) (hc : c < (ofRows kind rows).width) :
    (ofRows kind rows).get? r c = some (((rows[r]?).bind (·[c]?)).getD (.padding kind)) := by
  rw [height, rows_ofRows, List.length_map] at hr
  rw [get?, rows_ofRows, List.getElem?_map, ← get?_someRows, List.getElem?_eq_getElem hr]
  exact getElem?_padRow hc

end Grid

/-- What a value replies where it is not opened: its text, or its number if it is one. -/
def Leaf : FormatKind → Type
  | .string => String
  | .int | .float | .percent => Option Quantity

namespace Leaf

def walk {α : Type} (v : α) : (kind : FormatKind) → Leaf kind → Log α
  | .string, t => [(.text v, .text t)]
  | .int, q | .float, q | .percent, q => [(.number v, .number q)]

def coerce : (kind : FormatKind) → Leaf kind → Scalar
  | .string, t => .str t
  | .int, some (.int n) => .int n
  | .int, some (.float x) => .int (Number.toInt64 x)
  | .int, none => .int 0
  | .float, some (.int n) | .percent, some (.int n) => .float (Number.ofInt n)
  | .float, some (.float x) | .percent, some (.float x) => .float x
  | .float, none | .percent, none => .float Number.nan

end Leaf

/-- What is found in a value that is opened for a direction. -/
def Findings (α : Type) (kind : FormatKind) : Direction → Type
  | .cell => Leaf kind
  | .horizontal | .vertical => Opened α (Leaf kind)
  | .table => Opened α (Opened α (Leaf kind))

namespace Findings

variable {α : Type} {kind : FormatKind}

def walk (v : α) : (d : Direction) → Findings α kind d → Log α
  | .cell, t => Leaf.walk v kind t
  | .horizontal, t | .vertical, t => Opened.walk (Leaf.walk · kind) v t
  | .table, t => Opened.walk (Opened.walk (Leaf.walk · kind)) v t

def rows : (d : Direction) → Findings α kind d → List (List (Leaf kind))
  | .cell, t => [[t]]
  | .horizontal, t => [Opened.contents t]
  | .vertical, t => (Opened.contents t).map fun leaf => [leaf]
  | .table, t => (Opened.contents t).map Opened.contents

theorem agree_leaf (v : α) (t t' : Leaf kind) : Agree (Leaf.walk v kind t) (Leaf.walk v kind t') := by
  cases kind <;> exact .cons _ fun _ => .nil

theorem agree_walk (v : α) (d : Direction) (t t' : Findings α kind d) :
    Agree (Findings.walk v d t) (Findings.walk v d t') := by
  cases d with
  | cell => exact agree_leaf v t t'
  | horizontal | vertical => exact agree_opened agree_leaf v t t'
  | table => exact agree_opened (agree_opened agree_leaf) v t t'

end Findings

section Walking

open Stateful

variable {m : Type → Type} {σ α : Type} [Monad m] [Queryable m α]

def Leaf.get : (kind : FormatKind) → α → m (Leaf kind)
  | .string, v => Queryable.text v
  | .int, v | .float, v | .percent, v => Queryable.number v

theorem extractScalar_eq [LawfulMonad m] (kind : FormatKind) (v : α) :
    (extractScalar kind v : m Scalar) = Leaf.coerce kind <$> Leaf.get kind v := by
  cases kind with
  | string => rfl
  | int | float | percent =>
    rw [map_eq_pure_bind]
    refine bind_congr fun q => ?_
    rcases q with _ | n | x <;> rfl

variable [Stateful m σ]

theorem outcome_get (kind : FormatKind) (v : α) (s : σ) :
    Outcome m s (fun log t => log = Leaf.walk v kind t)
      (run (Leaf.get kind v : m (Leaf kind)) s) := by
  cases kind with
  | string => exact Outcome.ask (q := .text v) rfl ""
  | int | float | percent => exact Outcome.ask (q := .number v) rfl none

theorem outcome_extractScalar (kind : FormatKind) (v : α) (s : σ) :
    Outcome m s (Finds (Leaf.walk v kind) (Leaf.coerce kind))
      (run (extractScalar kind v : m Scalar) s) := by
  rw [extractScalar_eq]
  refine (outcome_get kind v s).map _ ?_
  rintro _ t rfl
  exact ⟨t, rfl, rfl⟩

theorem outcome_valueRows (d : Direction) (kind : FormatKind) (v : α) (s : σ) :
    Outcome m s
      (Finds (Findings.walk v d) fun t => (Findings.rows d t).map (·.map (Leaf.coerce kind)))
      (run (valueRows d kind v : m (List (List Scalar))) s) := by
  have hvector (w : α) (s' : σ) :=
    outcome_forItems (outcome_extractScalar (m := m) kind) w s'
  cases d with
  | cell =>
    refine (outcome_extractScalar kind v s).map _ ?_
    rintro _ _ ⟨t, rfl, rfl⟩
    exact ⟨t, rfl, rfl⟩
  | horizontal =>
    refine (hvector v s).map _ ?_
    rintro _ _ ⟨t, rfl, rfl⟩
    exact ⟨t, rfl, rfl⟩
  | vertical =>
    refine (hvector v s).map _ ?_
    rintro _ _ ⟨t, rfl, rfl⟩
    exact ⟨t, rfl, by simp [Findings.rows]⟩
  | table =>
    refine (outcome_forItems hvector v s).mono ?_
    rintro _ _ ⟨t, rfl, rfl⟩
    exact ⟨t, rfl, by simp [Findings.rows]⟩

end Walking

namespace Scalar

theorem matchesKind_padding (kind : FormatKind) : (padding kind).matchesKind kind := by
  cases kind <;> rfl

theorem matchesKind_coerce (kind : FormatKind) (t : Leaf kind) :
    (Leaf.coerce kind t).matchesKind kind := by
  cases kind with
  | string => rfl
  | int | float | percent => rcases t with _ | n | x <;> rfl

end Scalar

theorem CellValue.exists_ofScalar? {format : FormatSpec} {x : Scalar}
    (h : x.matchesKind format.kind) : ∃ v, ofScalar? format x = some v := by
  cases x <;> simp [ofScalar?, h]

/-- The grid holds what is found, row by row, and padding elsewhere; and writing it anywhere sets
every cell of its rectangle. -/
structure Grid.Shows (g : Grid) (format : FormatSpec) (rows : List (List (Leaf format.kind))) :
    Prop where
  height : g.height = max 1 rows.length
  width : g.width = max 1 ((rows.map List.length).max?.getD 0)
  length_row : ∀ row ∈ g.rows, row.length = g.width
  get? : ∀ r < g.height, ∀ c < g.width, g.get? r c =
    some ((((rows[r]?).bind (·[c]?)).map (Leaf.coerce format.kind)).getD (.padding format.kind))
  matchesKind : ∀ r c x, g.get? r c = some x → x.matchesKind format.kind
  written : ∀ (s : Sheet) (pos : CellRef), ∀ r < g.height, ∀ c < g.width, ∃ x v,
    g.get? r c = some x ∧ CellValue.ofScalar? format x = some v ∧
      (s.writeGrid pos format g).valueAt (pos.offset c r) = v

theorem Grid.shows_ofRows (format : FormatSpec) (rows : List (List (Leaf format.kind))) :
    (ofRows format.kind (rows.map (·.map (Leaf.coerce format.kind)))).Shows format rows := by
  generalize hg : ofRows format.kind (rows.map (·.map (Leaf.coerce format.kind))) = g
  have hget : ∀ r < g.height, ∀ c < g.width, g.get? r c = some
      ((((rows[r]?).bind (·[c]?)).map (Leaf.coerce format.kind)).getD (.padding format.kind)) := by
    subst hg
    intro r hr c hc
    rw [get?_ofRows hr hc, List.getElem?_map]
    cases rows[r]? <;> simp
  have hkind (r c : Nat) (x : Scalar) (hx : g.get? r c = some x) :
      x.matchesKind format.kind := by
    obtain ⟨hr, hc⟩ := lt_of_get? hx
    rw [hget r hr c hc] at hx
    cases hleaf : (rows[r]?).bind (·[c]?) with
    | none =>
      obtain rfl : .padding format.kind = x := by simpa [hleaf] using hx
      exact Scalar.matchesKind_padding _
    | some t =>
      obtain rfl : Leaf.coerce format.kind t = x := by simpa [hleaf] using hx
      exact Scalar.matchesKind_coerce _ t
  refine ⟨?_, ?_, g.length_row, hget, hkind, ?_⟩
  · rw [← hg, height_ofRows, List.length_map]
  · rw [← hg, width_ofRows, List.map_map]
    congr 4
    funext row
    exact List.length_map _
  · intro s pos r hr c hc
    obtain ⟨x, hx⟩ := g.exists_get? hr hc
    obtain ⟨v, hv⟩ := CellValue.exists_ofScalar? (hkind r c x hx)
    refine ⟨x, v, hx, hv, ?_⟩
    rw [Sheet.valueAt_writeGrid hr hc, Grid.written, hx, Option.bind_some, hv, Option.getD_some]

open Stateful in
/-- A value is asked along the walk of what is found in it. The grid shows all that is found; the
first query that fails ends the walk, and its error is the outcome. -/
theorem shape_walk {m : Type → Type} {σ α : Type} [Monad m] [Stateful m σ] [Queryable m α]
    (d : Direction) (format : FormatSpec) (v : α) (s : σ) :
    (∃ (t : Findings α format.kind d) (s' : σ) (g : Grid), Heard m s (Findings.walk v d t) s' ∧
        run (shape d format v : m Grid) s = (.ok g, s') ∧ g.Shows format (Findings.rows d t)) ∨
      ∃ (before : Log α) (q : Query α) (s₁ s' : σ) (e : EngineError),
        Asks (Findings.walk v d : Findings α format.kind d → Log α) before q ∧
          Heard m s before s₁ ∧ run (q.ask m) s₁ = (.error e, s') ∧
            run (shape d format v : m Grid) s = (.error e, s') := by
  have hrun : Outcome m s
      (fun log g => ∃ t, log = Findings.walk v d t ∧ g.Shows format (Findings.rows d t))
      (run (shape d format v : m Grid) s) := by
    refine (outcome_valueRows d format.kind v s).map _ ?_
    rintro _ _ ⟨t, rfl, rfl⟩
    exact ⟨t, rfl, Grid.shows_ofRows format _⟩
  generalize run (shape d format v : m Grid) s = result at hrun ⊢
  cases hrun with
  | finished whole heard =>
    obtain ⟨t, rfl, hshows⟩ := whole
    exact .inl ⟨t, _, _, heard, rfl, hshows⟩
  | stopped whole heard failed =>
    obtain ⟨t, hwalk, -⟩ := whole
    have hasks := asks_of_agree (Findings.agree_walk v d) hwalk.symm
    exact .inr ⟨_, _, _, _, _, hasks, heard, failed, rfl⟩

def ragged : Rhai.Value := .array [.array [.int 1, .text "2"], .array [], .int 3]

example :
    (shape .table ⟨.int, -1⟩ ragged : Except EngineError Grid).map Grid.rows =
      .ok [[.int 1, .int 0], [.int 0, .int 0], [.int 3, .int 0]] := by
  rfl

open Stateful in
theorem shape_walk_ragged :
    ∃ (t : Findings Rhai.Value .int .table) (s' : Unit) (g : Grid),
      Heard (Except EngineError) () (Findings.walk ragged .table t) s' ∧
        run (shape .table ⟨.int, -1⟩ ragged : Except EngineError Grid) () = (.ok g, s') ∧
          g.Shows ⟨.int, -1⟩ (Findings.rows .table t) := by
  refine (shape_walk .table ⟨.int, -1⟩ ragged ()).resolve_right ?_
  rintro ⟨before, q, s₁, s', e, -, -, -, hfails⟩
  have hok : run (shape .table ⟨.int, -1⟩ ragged : Except EngineError Grid) () =
      (.ok (.ofRows .int [[.int 1, .int 0], [], [.int 3]]), ()) := rfl
  rw [hok] at hfails
  cases hfails

end SheetTemplate
