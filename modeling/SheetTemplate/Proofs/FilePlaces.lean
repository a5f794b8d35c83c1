import SheetTemplate.Files.Tree
import SheetTemplate.Proofs.Failing

namespace SheetTemplate.Files

variable {fs : Files} {place : List String} {path : String} {contents : ByteArray}

def put (fs : Files) (place : List String) (contents : ByteArray) : Files :=
  { nodes := fs.nodes ++ [(place, .file contents)] }

/-- The path leads to a place that may hold a file: nothing is there yet, or a file is. -/
structure MayHoldFile (fs : Files) (path : String) (place : List String) : Prop where
  leads : fs.locate path = .ok place
  noFolder : fs.node? place ≠ some .folder

theorem write_eq_ok_iff {fs' : Files} :
    fs.write path contents = .ok fs' ↔
      ∃ place, fs.MayHoldFile path place ∧ fs' = fs.put place contents := by
  unfold write
  rw [bind_eq_ok_iff]
  refine exists_congr fun place => ?_
  constructor
  · rintro ⟨hlocate, hwrite⟩
    split at hwrite
    · exact absurd hwrite throw_ne_ok
    · rename_i hother
      exact ⟨⟨hlocate, hother⟩, (Except.ok.inj hwrite).symm⟩
  · rintro ⟨h, rfl⟩
    refine ⟨h.leads, ?_⟩
    split
    · exact absurd ‹_› h.noFolder
    · rfl

theorem read_eq_ok_iff :
    fs.read path = .ok contents ↔
      ∃ place, fs.locate path = .ok place ∧ fs.node? place = some (.file contents) := by
  simp only [read, get, bind_eq_ok_iff]
  constructor
  · rintro ⟨node, ⟨place, hlocate, hnode⟩, hread⟩
    refine ⟨place, hlocate, ?_⟩
    split at hnode
    · rename_i n hn
      obtain rfl := Except.ok.inj hnode
      split at hread
      · rw [hn, Except.ok.inj hread]
      · exact absurd hread throw_ne_ok
    · exact absurd hnode throw_ne_ok
  · rintro ⟨place, hlocate, hnode⟩
    exact ⟨.file contents, ⟨place, hlocate, by rw [hnode]; rfl⟩, rfl⟩

/-- A path of one name leads to that name. -/
theorem locate_name {name : String} (hname : name ∉ ["", ".", ".."]) (horigin : origin name = [])
    (hruns : runs name = [name]) : fs.locate name = .ok [name] := by
  simp only [List.mem_cons, List.not_mem_nil, or_false, not_or] at hname
  have hne : ¬name.isEmpty = true := by simpa using hname.1
  have hstep : fs.step [] name = .ok [name] := by
    rw [step]
    change (if name = "" ∨ name = "." then _ else if name = ".." then _ else _ : Except _ _) = _
    rw [if_neg (not_or.2 ⟨hname.1, hname.2.1⟩), if_neg hname.2.2]
    rfl
  rw [locate, if_neg hne, horigin, hruns, List.foldlM_cons, hstep]
  rfl

theorem node?_put (hplace : fs.node? place ≠ some .folder) (x : List String) :
    (fs.put place contents).node? x = if place = x then some (.file contents) else fs.node? x := by
  cases x with
  | nil =>
    have hne : place ≠ [] := by
      rintro rfl
      exact hplace rfl
    rw [if_neg hne]
    rfl
  | cons name rest =>
    change ((fs.nodes ++ [(place, FileNode.file contents)]).reverse).lookup (name :: rest) = _
    rw [List.reverse_append, List.reverse_singleton, List.singleton_append, List.lookup_cons]
    by_cases h : place = name :: rest
    · rw [if_pos h, h, beq_self_eq_true]
    · rw [if_neg h, beq_eq_false_iff_ne.2 (Ne.symm h)]
      rfl

theorem step_put (hplace : fs.node? place ≠ some .folder) {here next : List String}
    {run : String} :
    (fs.put place contents).step here run = .ok next ↔ fs.step here run = .ok next := by
  unfold step
  rw [node?_put hplace]
  by_cases h : place = here
  · -- No path goes on from the place, neither before nor after.
    subst h
    rw [if_pos rfl]
    cases hnode : fs.node? place with
    | none => simp
    | some n =>
      cases n with
      | folder => exact absurd hnode hplace
      | file old => simp
  · rw [if_neg h]

/-- All paths lead where they led before. -/
theorem locate_put (hplace : fs.node? place ≠ some .folder) {q : String} {x : List String} :
    (fs.put place contents).locate q = .ok x ↔ fs.locate q = .ok x := by
  have hruns (runs : List String) (here : List String) :
      runs.foldlM (fs.put place contents).step here = .ok x ↔ runs.foldlM fs.step here = .ok x := by
    induction runs generalizing here with
    | nil => rfl
    | cons run runs ih =>
      rw [List.foldlM_cons, List.foldlM_cons, bind_eq_ok_iff, bind_eq_ok_iff]
      exact exists_congr fun next => and_congr (step_put hplace) (ih next)
  unfold locate
  split
  · exact Iff.rfl
  · exact hruns _ _

theorem mayHoldFile_put (hplace : fs.node? place ≠ some .folder) {q : String} {x : List String} :
    (fs.put place contents).MayHoldFile q x ↔ fs.MayHoldFile q x := by
  have hfolder : (fs.put place contents).node? x = some .folder ↔ fs.node? x = some .folder := by
    rw [node?_put hplace]
    split
    case isTrue h => simp [← h, hplace]
    case isFalse => exact Iff.rfl
  constructor
  · rintro ⟨hleads, hnode⟩
    exact ⟨(locate_put hplace).1 hleads, mt hfolder.2 hnode⟩
  · rintro ⟨hleads, hnode⟩
    exact ⟨(locate_put hplace).2 hleads, mt hfolder.1 hnode⟩

end SheetTemplate.Files
