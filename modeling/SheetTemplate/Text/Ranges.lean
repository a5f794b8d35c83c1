namespace SheetTemplate.Text

abbrev Ranges := List (Nat × Nat)

/-- Membership; the scan stops at the first range that begins beyond the code point. -/
def Ranges.covers : Ranges → Nat → Bool
  | [], _ => false
  | (lo, hi) :: rest, n => if n < lo then false else if n ≤ hi then true else Ranges.covers rest n

end SheetTemplate.Text
