/-
  Gatehouse — sets of code points given by ranges.

  The character classes of this library are tables of inclusive ranges. The one
  operation is membership (`Ranges.has`); `Ranges.has_iff` says what it means.
-/

namespace Gatehouse.Text

/-- A set of code points, as inclusive ranges in ascending order. -/
abbrev Ranges := List (Nat × Nat)

/-- The character lies in one of the ranges. -/
def Ranges.has (rs : Ranges) (c : Char) : Bool :=
  rs.any fun r => r.1 ≤ c.toNat && c.toNat ≤ r.2

theorem Ranges.has_iff {rs : Ranges} {c : Char} :
    rs.has c = true ↔ ∃ r ∈ rs, r.1 ≤ c.toNat ∧ c.toNat ≤ r.2 := by
  simp [Ranges.has]

/-- Every range starts after the one before it ends. -/
def Ranges.ascending : Ranges → Bool
  | [] => true
  | [r] => r.1 ≤ r.2
  | r :: s :: rest => r.1 ≤ r.2 && r.2 < s.1 && Ranges.ascending (s :: rest)

end Gatehouse.Text
