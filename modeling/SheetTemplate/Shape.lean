import SheetTemplate.Error
import SheetTemplate.Formula.Basic
import SheetTemplate.Grid

namespace SheetTemplate

inductive Quantity where
  | int (n : Int)
  | float (x : Float)

/-- The queries that a value answers. Asking may have effects in `m`. -/
class Queryable (m : Type → Type) (α : Type) where
  text : α → m String
  /-- The number, if the value is one; truth values are none. -/
  number : α → m (Option Quantity)
  /-- The number of items, if the value is a sequence; texts are none. -/
  length : α → m (Option Nat)
  item : α → Nat → m α

section Extract

variable {m : Type → Type} [Monad m] {α : Type} [Queryable m α]

def extractScalar (kind : FormatKind) (v : α) : m Scalar :=
  match kind with
  | .string => .str <$> Queryable.text v
  | .int => do
    match ← Queryable.number v with
    | some (.int n) => pure (.int n)
    | some (.float x) => pure (.int (Number.toInt64 x))
    | none => pure (.int 0)
  | .float | .percent => do
    match ← Queryable.number v with
    | some (.int n) => pure (.float (Number.ofInt n))
    | some (.float x) => pure (.float x)
    | none => pure (.float Number.nan)

/-- What `f` makes of each item, or of the value itself if it is no sequence. -/
def forItems {β : Type} (f : α → m β) (v : α) : m (List β) := do
  match ← Queryable.length v with
  | some n => (List.range n).mapM fun i => Queryable.item v i >>= f
  | none => (· :: []) <$> f v

def extractVector (kind : FormatKind) (v : α) : m (List Scalar) := forItems (extractScalar kind) v

def extractTable (kind : FormatKind) (v : α) : m (List (List Scalar)) :=
  forItems (extractVector kind) v

inductive Extracted where
  | scalar (s : Scalar)
  | vector (items : List Scalar)
  | table (rows : List (List Scalar))

def extract [MonadExceptOf EngineError m] (level : Nat) (kind : FormatKind) (v : α) : m Extracted :=
  match level with
  | 0 => .scalar <$> extractScalar kind v
  | 1 => .vector <$> extractVector kind v
  | 2 => .table <$> extractTable kind v
  | n => throw (.extraction ("unsupported extraction level " ++ Number.natText n))

def valueRows (direction : Direction) (kind : FormatKind) (v : α) : m (List (List Scalar)) :=
  match direction with
  | .cell => (fun s => [[s]]) <$> extractScalar kind v
  | .horizontal => (· :: []) <$> extractVector kind v
  | .vertical => (·.map fun s => [s]) <$> extractVector kind v
  | .table => extractTable kind v

def shape (direction : Direction) (format : FormatSpec) (v : α) : m Grid :=
  Grid.ofRows format.kind <$> valueRows direction format.kind v

end Extract

end SheetTemplate
