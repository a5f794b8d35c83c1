import SheetTemplate.Shape

namespace SheetTemplate

class Stateful (m : Type → Type) (σ : outParam Type) [Monad m] extends LawfulMonad m where
  run {α : Type} : m α → σ → Except EngineError α × σ
  run_pure {α : Type} (a : α) (s : σ) : run (pure a : m α) s = (.ok a, s)
  run_bind {α β : Type} (x : m α) (f : α → m β) (s : σ) :
    run (x >>= f) s =
      match run x s with
      | (.ok a, s') => run (f a) s'
      | (.error e, s') => (.error e, s')

instance : Stateful (Except EngineError) Unit where
  run x _ := (x, ())
  run_pure _ _ := rfl
  run_bind x _ _ := by cases x <;> rfl

instance {σ : Type} : Stateful (ExceptT EngineError (StateM σ)) σ where
  run x s := x.run.run s
  run_pure _ _ := rfl
  run_bind x f s := by
    rcases h : (x.run.run s : Except EngineError _ × σ) with ⟨e | a, s'⟩
    · simp only [ExceptT.run_bind, StateT.run_bind, h]
      rfl
    · simp only [ExceptT.run_bind, StateT.run_bind, h]
      rfl

inductive Query (α : Type) where
  | text (v : α)
  | number (v : α)
  | length (v : α)
  | item (v : α) (index : Nat)

inductive Reply (α : Type) where
  | text (t : String)
  | number (q : Option Quantity)
  | length (n : Option Nat)
  | item (w : α)

abbrev Log (α : Type) := List (Query α × Reply α)

open Stateful

variable {m : Type → Type} {σ α β γ τ : Type} [Monad m]

section Running

variable [Stateful m σ] {s s' : σ} {e : EngineError}

theorem run_bind_ok {x : m β} {f : β → m γ} {b : β} (h : run x s = (.ok b, s')) :
    run (x >>= f) s = run (f b) s' := by
  rw [run_bind, h]

theorem run_bind_error {x : m β} {f : β → m γ} (h : run x s = (.error e, s')) :
    run (x >>= f) s = (.error e, s') := by
  rw [run_bind, h]

theorem run_map_ok {x : m β} {f : β → γ} {b : β} (h : run x s = (.ok b, s')) :
    run (f <$> x) s = (.ok (f b), s') := by
  rw [map_eq_pure_bind, run_bind_ok h, run_pure]

theorem run_map_error {x : m β} {f : β → γ} (h : run x s = (.error e, s')) :
    run (f <$> x) s = (.error e, s') := by
  rw [map_eq_pure_bind, run_bind_error h]

end Running

section Asking

variable (m) [Queryable m α]

def Query.ask : Query α → m (Reply α)
  | text v => .text <$> Queryable.text v
  | number v => .number <$> Queryable.number v
  | length v => .length <$> Queryable.length v
  | item v i => .item <$> Queryable.item v i

variable [Stateful m σ]

/-- The queries are asked one after the other, and these are the replies. -/
inductive Heard : σ → Log α → σ → Prop
  | nil (s : σ) : Heard s [] s
  | cons {q : Query α} {r : Reply α} {log : Log α} {s s' s'' : σ}
      (reply : run (q.ask m) s = (.ok r, s')) (rest : Heard s' log s'') :
      Heard s ((q, r) :: log) s''

/-- What comes of a run along a walk: the log of a whole walk, with what is made of it, or the log
up to a query that fails. -/
inductive Outcome (s : σ) (walk : Log α → γ → Prop) : Except EngineError γ × σ → Prop
  | finished {log : Log α} {c : γ} {s' : σ} (whole : walk log c) (heard : Heard m s log s') :
      Outcome s walk (.ok c, s')
  | stopped {before after : Log α} {q : Query α} {r : Reply α} {c : γ} {s' s'' : σ}
      {e : EngineError} (whole : walk (before ++ (q, r) :: after) c) (heard : Heard m s before s')
      (failed : run (q.ask m) s' = (.error e, s'')) : Outcome s walk (.error e, s'')

variable {m} {s s' s'' : σ} {log log' : Log α} {walk : Log α → β → Prop}

theorem Heard.append (h : Heard m s log s') (h' : Heard m s' log' s'') :
    Heard m s (log ++ log') s'' := by
  induction h with
  | nil => exact h'
  | cons reply _ ih => exact .cons reply (ih h')

namespace Outcome

theorem exists_walk {result : Except EngineError β × σ} (h : Outcome m s walk result) :
    ∃ log b, walk log b := by
  cases h with
  | finished whole => exact ⟨_, _, whole⟩
  | stopped whole => exact ⟨_, _, whole⟩

theorem mono {result : Except EngineError β × σ} {walk' : Log α → β → Prop}
    (h : Outcome m s walk result) (hwalk : ∀ log b, walk log b → walk' log b) :
    Outcome m s walk' result := by
  cases h with
  | finished whole heard => exact finished (hwalk _ _ whole) heard
  | stopped whole heard failed => exact stopped (hwalk _ _ whole) heard failed

theorem pure {walk : Log α → γ → Prop} {c : γ} (h : walk [] c) :
    Outcome m s walk (run (Pure.pure c : m γ) s) := by
  rw [run_pure]
  exact finished h (.nil s)

/-- One query; `b` stands in for a reply that does not come. -/
theorem ask {q : Query α} {x : m β} {reply : β → Reply α} (hq : q.ask m = reply <$> x) (b : β) :
    Outcome m s (fun log b => log = [(q, reply b)]) (run x s) := by
  rcases hx : run x s with ⟨e | b', s'⟩
  · have hwhole : [] ++ (q, reply b) :: [] = [(q, reply b)] := rfl
    refine stopped hwhole (.nil s) ?_
    rw [hq, run_map_error hx]
  · refine finished rfl (.cons ?_ (.nil s'))
    rw [hq, run_map_ok hx]

theorem bind {x : m β} {f : β → m γ} (walk' : β → Log α → γ → Prop) {walk'' : Log α → γ → Prop}
    (hx : Outcome m s walk (run x s)) (hf : ∀ b s', Outcome m s' (walk' b) (run (f b) s'))
    (hwalk : ∀ log b log' c, walk log b → walk' b log' c → walk'' (log ++ log') c) :
    Outcome m s walk'' (run (x >>= f) s) := by
  generalize hresult : run x s = result at hx
  cases hx with
  | @finished log b s' whole heard =>
    rw [run_bind_ok hresult]
    have hrest := hf b s'
    generalize run (f b) s' = result at hrest
    cases hrest with
    | finished whole' heard' =>
      exact finished (hwalk _ _ _ _ whole whole') (heard.append heard')
    | stopped whole' heard' failed =>
      have hwhole := hwalk _ _ _ _ whole whole'
      rw [← List.append_assoc] at hwhole
      exact stopped hwhole (heard.append heard') failed
  | @stopped before after q r b s₁ s₂ e whole heard failed =>
    -- What `f` would have asked does not matter, but some walk of it there is.
    obtain ⟨log', c, whole'⟩ := (hf b s).exists_walk
    have hwhole := hwalk _ _ _ _ whole whole'
    rw [List.append_assoc, List.cons_append] at hwhole
    rw [run_bind_error hresult]
    exact stopped hwhole heard failed

theorem map {x : m β} {f : β → γ} (walk' : Log α → γ → Prop) (hx : Outcome m s walk (run x s))
    (hwalk : ∀ log b, walk log b → walk' log (f b)) : Outcome m s walk' (run (f <$> x) s) := by
  rw [map_eq_pure_bind]
  refine hx.bind (fun b log c => log = [] ∧ c = f b) (fun b s' => pure ⟨rfl, rfl⟩) ?_
  rintro log b _ _ hb ⟨rfl, rfl⟩
  simpa using hwalk log b hb

end Outcome

end Asking

/-- Two logs ask the same query as long as their replies are the same. -/
inductive Agree : Log α → Log α → Prop
  | nil : Agree [] []
  | same (q : Query α) (r : Reply α) {l l' : Log α} (rest : Agree l l') :
      Agree ((q, r) :: l) ((q, r) :: l')
  | apart (q : Query α) {r r' : Reply α} (l l' : Log α) (h : r ≠ r') :
      Agree ((q, r) :: l) ((q, r') :: l')

namespace Agree

variable {l l' k k' : Log α} {q : Query α} {r r' : Reply α}

theorem cons (q : Query α) (h : r = r' → Agree l l') : Agree ((q, r) :: l) ((q, r') :: l') := by
  by_cases hr : r = r'
  · subst hr
    exact same q r (h rfl)
  · exact apart q l l' hr

theorem append (h : Agree l l') (hk : l = l' → Agree k k') : Agree (l ++ k) (l' ++ k') := by
  induction h with
  | nil => exact hk rfl
  | same q r _ ih => exact same q r (ih fun hl => hk (by rw [hl]))
  | apart q l l' h => exact apart q _ _ h

theorem next {heard rest : Log α} (h : Agree (heard ++ (q, r) :: l) (heard ++ rest)) :
    ∃ r' l', rest = (q, r') :: l' := by
  induction heard with
  | nil =>
    cases h with
    | same _ _ => exact ⟨_, _, rfl⟩
    | apart => exact ⟨_, _, rfl⟩
  | cons entry heard ih =>
    cases h with
    | same _ _ hrest => exact ih hrest
    | apart _ _ _ hne => exact absurd rfl hne

end Agree

def Asks (walk : τ → Log α) (before : Log α) (q : Query α) : Prop :=
  (∃ t rest, walk t = before ++ rest) ∧
    ∀ t rest, walk t = before ++ rest → ∃ r after, rest = (q, r) :: after

theorem asks_of_agree {walk : τ → Log α} {before after : Log α} {q : Query α} {r : Reply α} {t : τ}
    (h : ∀ t t', Agree (walk t) (walk t')) (ht : walk t = before ++ (q, r) :: after) :
    Asks walk before q := by
  refine ⟨⟨t, _, ht⟩, fun t' rest ht' => ?_⟩
  have hagree := h t t'
  rw [ht, ht'] at hagree
  exact hagree.next

/-- What is found where a value is opened: the value itself counts as its only item, or it has a
list of items. With each goes what is found in it. -/
inductive Opened (α τ : Type) where
  | single (t : τ)
  | items (l : List (α × τ))

def walkItems (walk : α → τ → Log α) (v : α) : Nat → List (α × τ) → Log α
  | _, [] => []
  | k, (w, t) :: l => (.item v k, .item w) :: (walk w t ++ walkItems walk v (k + 1) l)

namespace Opened

def contents : Opened α τ → List τ
  | single t => [t]
  | items l => l.map Prod.snd

def walk (walk : α → τ → Log α) (v : α) : Opened α τ → Log α
  | single t => (.length v, .length none) :: walk v t
  | items l => (.length v, .length (some l.length)) :: walkItems walk v 0 l

end Opened

section Agreement

variable {walk : α → τ → Log α} (h : ∀ w t t', Agree (walk w t) (walk w t')) (v : α)

include h

theorem agree_walkItems (k : Nat) {l l' : List (α × τ)} (hlength : l.length = l'.length) :
    Agree (walkItems walk v k l) (walkItems walk v k l') := by
  induction l generalizing k l' with
  | nil =>
    obtain rfl := List.length_eq_zero_iff.1 hlength.symm
    exact .nil
  | cons p l ih =>
    obtain ⟨p', l', rfl⟩ := List.exists_cons_of_length_eq_add_one hlength.symm
    refine .cons _ fun hw => ?_
    obtain ⟨w, t⟩ := p
    obtain ⟨w', t'⟩ := p'
    obtain rfl : w = w' := by simpa using hw
    exact (h w t t').append fun _ => ih (k + 1) (by simpa using hlength)

theorem agree_opened (t t' : Opened α τ) : Agree (t.walk walk v) (t'.walk walk v) := by
  cases t with
  | single t =>
    cases t' with
    | single t' => exact .cons _ fun _ => h v t t'
    | items l' => exact .cons _ fun hr => by simp at hr
  | items l =>
    cases t' with
    | single t' => exact .cons _ fun hr => by simp at hr
    | items l' => exact .cons _ fun hr => agree_walkItems h v 0 (by simpa using hr)

end Agreement

/-- The log is the walk of something found, and this is made of it. -/
def Finds (walk : τ → Log α) (out : τ → γ) (log : Log α) (c : γ) : Prop :=
  ∃ t, log = walk t ∧ c = out t

section Items

variable [Stateful m σ] [Queryable m α] {f : α → m γ} {walk : α → τ → Log α} {out : τ → γ}

theorem outcome_item (hf : ∀ w s, Outcome m s (Finds (walk w) out) (run (f w) s)) (v : α)
    (k : Nat) (s : σ) :
    Outcome m s (Finds (fun p : α × τ => (.item v k, .item p.1) :: walk p.1 p.2) fun p => out p.2)
      (run (Queryable.item (m := m) v k >>= f) s) := by
  refine (Outcome.ask (q := .item v k) rfl v).bind _ hf ?_
  rintro _ w _ _ rfl ⟨t, rfl, rfl⟩
  exact ⟨(w, t), rfl, rfl⟩

/-- The items are walked in their order, each of them as a whole. -/
theorem outcome_items (hf : ∀ w s, Outcome m s (Finds (walk w) out) (run (f w) s)) (v : α)
    (n k : Nat) (s : σ) :
    Outcome m s (fun log cs => ∃ l, l.length = n ∧ log = walkItems walk v k l ∧
        cs = l.map fun p => out p.2)
      (run ((List.range' k n).mapM fun i => Queryable.item (m := m) v i >>= f) s) := by
  induction n generalizing k s with
  | zero => exact Outcome.pure ⟨[], rfl, rfl, rfl⟩
  | succ n ih =>
    rw [List.range'_succ, List.mapM_cons]
    simp only [← map_eq_pure_bind]
    -- Whatever came of the first item, the rest is walked in the same way from the next index on.
    refine (outcome_item hf v k s).bind (fun c log cs => ∃ l, l.length = n ∧
      log = walkItems walk v (k + 1) l ∧ cs = c :: l.map fun p => out p.2) (fun c s' => ?_) ?_
    · refine (ih (k + 1) s').map _ ?_
      rintro _ _ ⟨l, hl, rfl, rfl⟩
      exact ⟨l, hl, rfl, rfl⟩
    · rintro _ _ _ _ ⟨p, rfl, rfl⟩ ⟨l, hl, rfl, rfl⟩
      exact ⟨p :: l, by simp [hl], rfl, rfl⟩

/-- A sequence is walked item by item, and a value that is none is walked as its own item. -/
theorem outcome_forItems (hf : ∀ w s, Outcome m s (Finds (walk w) out) (run (f w) s)) (v : α)
    (s : σ) :
    Outcome m s (Finds (Opened.walk walk v) fun t => t.contents.map out)
      (run (forItems f v) s) := by
  refine (Outcome.ask (q := .length v) rfl none).bind (fun n log cs =>
    Finds (Opened.walk walk v) (fun t => t.contents.map out) ((.length v, .length n) :: log) cs)
    (fun n s' => ?_) ?_
  · cases n with
    | none =>
      refine (hf v s').map _ ?_
      rintro _ _ ⟨t, rfl, rfl⟩
      exact ⟨.single t, rfl, rfl⟩
    | some n =>
      have hitems := outcome_items hf v n 0 s'
      rw [← List.range_eq_range'] at hitems
      refine hitems.mono ?_
      rintro _ _ ⟨l, rfl, rfl, rfl⟩
      exact ⟨.items l, rfl, by simp [Opened.contents]⟩
  · rintro _ n log cs rfl hcs
    exact hcs

end Items

end SheetTemplate
