/-
  Gatehouse — cutting texts at a character.

  `pieces` cuts at every occurrence, `splitLast` at the last one. Joining the parts with
  the character gives the text back.
-/

namespace Gatehouse.Text

/-- The pieces between the separators `sep`; one more than there are separators. -/
def pieces (sep : Char) : List Char → List (List Char)
  | [] => [[]]
  | c :: cs =>
    if c = sep then [] :: pieces sep cs
    else match pieces sep cs with
      | p :: ps => (c :: p) :: ps
      | [] => [[c]]

/-- What stands before and after the last `sep`. -/
def splitLast (sep : Char) : List Char → Option (List Char × List Char)
  | [] => none
  | c :: cs =>
    match splitLast sep cs with
    | some (l, r) => some (c :: l, r)
    | none => if c = sep then some ([], cs) else none

/-- What stands before and after the first `sep`. -/
def splitFirst (sep : Char) : List Char → Option (List Char × List Char)
  | [] => none
  | c :: cs =>
    if c = sep then some ([], cs) else (splitFirst sep cs).map fun (l, r) => (c :: l, r)

theorem splitLast_eq_some {sep : Char} {cs l r : List Char} (h : splitLast sep cs = some (l, r)) :
    cs = l ++ sep :: r ∧ sep ∉ r := by
  induction cs generalizing l r with
  | nil => simp [splitLast] at h
  | cons c cs ih =>
    rw [splitLast] at h
    split at h
    · next l' r' hs =>
      cases h
      obtain ⟨rfl, hr⟩ := ih hs
      exact ⟨rfl, hr⟩
    · next hs =>
      split at h
      · next hc =>
        cases h
        refine ⟨by simp [hc], fun hm => ?_⟩
        have : ∀ xs : List Char, sep ∈ xs → splitLast sep xs ≠ none := by
          intro xs
          induction xs with
          | nil => simp
          | cons x xs ihx =>
            intro hx
            rw [splitLast]
            split
            · simp
            · next hn =>
              rcases List.mem_cons.1 hx with rfl | hx
              · simp
              · exact absurd hn (ihx hx)
        exact this _ hm hs
      · cases h

end Gatehouse.Text
