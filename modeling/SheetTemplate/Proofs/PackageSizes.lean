import Mathlib.Algebra.GroupWithZero.Nat
import Mathlib.Algebra.Order.BigOperators.Group.List
import Mathlib.Data.List.Forall2
import Mathlib.Data.String.Basic
import SheetTemplate.Proofs.MarkupTokens
import SheetTemplate.Proofs.Packing
import SheetTemplate.Xlsx.Writing

namespace SheetTemplate.Package

theorem length_directoryFrom (start : Nat) (entries : List Entry) :
    (directoryFrom start entries).length =
      (entries.map fun e => 46 + e.name.utf8ByteSize).sum := by
  induction entries generalizing start with
  | nil => rfl
  | cons e rest ih =>
    rw [directoryFrom, List.length_append, size_directoryBytes, ih, List.map_cons, List.sum_cons]

/-- The bytes of a package, from the names and the sizes of its parts. -/
theorem size_write_eq_sum (entries : List Entry) :
    (write entries).size =
      (entries.map fun e => 76 + 2 * e.name.utf8ByteSize + e.data.size).sum + 22 := by
  rw [size_write, length_directoryFrom]
  congr 1
  induction entries with
  | nil => rfl
  | cons e rest ih =>
    have hparts : (partBytes (e :: rest)).length =
        30 + e.name.utf8ByteSize + e.data.size + (partBytes rest).length := by
      rw [← size_localBytes]
      exact List.length_append
    rw [List.map_cons, List.map_cons, List.sum_cons, List.sum_cons, ← ih, hparts]
    omega

end SheetTemplate.Package

namespace SheetTemplate.Xml

theorem utf8ByteSize_join (l : List String) :
    (String.join l).utf8ByteSize = (l.map String.utf8ByteSize).sum := by
  induction l with
  | nil => rfl
  | cons s l ih => rw [String.join_cons, String.utf8ByteSize_append, ih, List.map_cons, List.sum_cons]

theorem utf8ByteSize_escapeChar_le (c : Char) : (escapeChar c).utf8ByteSize ≤ 6 * c.utf8Size := by
  have hsize := c.utf8Size_pos
  unfold escapeChar
  split
  case h_5 =>
    rw [show c.toString.utf8ByteSize = c.utf8Size from String.utf8ByteSize_singleton]
    omega
  all_goals decide

/-- No character takes more than six times its bytes in an attribute value. -/
theorem utf8ByteSize_escapeValue_le (s : String) :
    (escapeValue s).utf8ByteSize ≤ 6 * s.utf8ByteSize := by
  rw [escapeValue, utf8ByteSize_join, List.map_map, ← String.ofList_toList (s := s),
    String.utf8ByteSize_ofList, String.toList_ofList]
  induction s.toList with
  | nil => exact Nat.le_refl _
  | cons c l ih =>
    have hc : (if c = '\n' then "&#10;" else escapeChar c).utf8ByteSize ≤ 6 * c.utf8Size := by
      split
      case isTrue h =>
        subst h
        decide
      case isFalse => exact utf8ByteSize_escapeChar_le c
    rw [List.map_cons, List.sum_cons, String.utf8Len_cons, Nat.mul_add, Nat.add_comm (6 * _)]
    exact Nat.add_le_add hc ih

def attributesBound (attributes : List (String × String)) : Nat :=
  (attributes.map fun p => p.1.utf8ByteSize + 6 * p.2.utf8ByteSize + 4).sum

theorem utf8ByteSize_attributesText_le (attributes : List (String × String)) :
    (attributesText attributes).utf8ByteSize ≤ attributesBound attributes := by
  rw [attributesText, utf8ByteSize_join, List.map_map]
  refine List.sum_le_sum fun p _ => ?_
  have hvalue := utf8ByteSize_escapeValue_le p.2
  change (" " ++ p.1 ++ "=\"" ++ escapeValue p.2 ++ "\"").utf8ByteSize ≤ _
  have hends : " ".utf8ByteSize = 1 ∧ "=\"".utf8ByteSize = 2 ∧ "\"".utf8ByteSize = 1 := by decide
  simp only [String.utf8ByteSize_append]
  omega

theorem utf8ByteSize_element_le (name : String) (attributes : List (String × String))
    (inner : List String) :
    (element name attributes inner).utf8ByteSize ≤
      2 * name.utf8ByteSize + attributesBound attributes +
        (inner.map String.utf8ByteSize).sum + 5 := by
  have hattributes := utf8ByteSize_attributesText_le attributes
  have hmarks : "<".utf8ByteSize = 1 ∧ ">".utf8ByteSize = 1 ∧ "</".utf8ByteSize = 2 ∧
      "/>".utf8ByteSize = 2 := by decide
  unfold element
  dsimp only
  split <;> simp only [String.utf8ByteSize_append, utf8ByteSize_join] <;> omega

def AtMost (n : Nat) (s : String) : Prop := s.utf8ByteSize ≤ n

instance (n : Nat) (s : String) : Decidable (AtMost n s) :=
  inferInstanceAs (Decidable (s.utf8ByteSize ≤ n))

namespace AtMost

variable {sizes : List Nat} {inner : List String}

theorem sum_le (h : List.Forall₂ AtMost sizes inner) :
    (inner.map String.utf8ByteSize).sum ≤ sizes.sum := by
  induction h with
  | nil => exact Nat.le_refl _
  | cons hhead _ ih => exact Nat.add_le_add hhead ih

theorem element {name : String} {attributes : List (String × String)}
    (h : List.Forall₂ AtMost sizes inner) :
    AtMost (2 * name.utf8ByteSize + attributesBound attributes + sizes.sum + 5)
      (element name attributes inner) := by
  have hsum := sum_le h
  have helement := utf8ByteSize_element_le name attributes inner
  unfold AtMost
  omega

theorem document {n : Nat} {root : String} (h : AtMost n root) : AtMost (n + 56) (document root) := by
  have hstart :
      "<?xml version=\"1.0\" encoding=\"UTF-8\" standalone=\"yes\"?>\n".utf8ByteSize = 56 := by
    decide
  unfold AtMost at *
  unfold Xml.document
  rw [String.utf8ByteSize_append]
  omega

theorem mono {m n : Nat} {s : String} (h : AtMost m s) (hle : m ≤ n) : AtMost n s :=
  Nat.le_trans h hle

end AtMost

end SheetTemplate.Xml

namespace SheetTemplate.Xlsx

open Xml Package

namespace StoredBook

theorem size_bytes (b : StoredBook) :
    b.bytes.size =
      (b.parts.map fun p => 76 + 2 * p.1.utf8ByteSize + p.2.utf8ByteSize).sum + 22 := by
  rw [bytes, size_write_eq_sum, List.map_map]
  rfl

/-- The bytes of a stored workbook with short names and parts. -/
theorem size_bytes_le {b : StoredBook} {m n : Nat}
    (hnames : ∀ p ∈ b.parts, AtMost m p.1) (hparts : ∀ p ∈ b.parts, AtMost n p.2) :
    b.bytes.size ≤ b.parts.length * (76 + 2 * m + n) + 22 := by
  have hsum : ∀ size ∈ b.parts.map fun p => 76 + 2 * p.1.utf8ByteSize + p.2.utf8ByteSize,
      size ≤ 76 + 2 * m + n := by
    rw [List.forall_mem_map]
    intro p hp
    exact Nat.add_le_add (Nat.add_le_add_left (Nat.mul_le_mul_left 2 (hnames _ hp)) 76)
      (hparts _ hp)
  have hle := List.sum_le_card_nsmul _ _ hsum
  rw [List.length_map] at hle
  rw [size_bytes]
  exact Nat.add_le_add_right hle 22

end StoredBook

end SheetTemplate.Xlsx
