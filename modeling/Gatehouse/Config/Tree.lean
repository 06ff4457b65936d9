/-
  Gatehouse — the tree of values that a configuration is read from.

  A leaf is a value with its origin; a branch has named children. `Tree.update` changes what
  stands at a path and nothing beside it: a leaf on the way gives place to a branch, and a
  name that is not there yet is added.
-/
import Gatehouse.Config.Error
import Gatehouse.Toml.Value

namespace Gatehouse.Config

/-- A value with its origin, or named children. -/
inductive Tree
  | leaf (origin : Option Origin) (value : Toml.Value)
  | branch (children : List (String × Tree))

/-- The children with the one of the name replaced, or added behind the others. -/
def setChild (name : String) (t : Tree) : List (String × Tree) → List (String × Tree)
  | [] => [(name, t)]
  | (k, u) :: rest => if name = k then (k, t) :: rest else (k, u) :: setChild name t rest

namespace Tree

/-- The children of a branch; a leaf has none, nor has nothing. -/
def children : Option Tree → List (String × Tree)
  | some (branch cs) => cs
  | _ => []

/-- What stands at a path. -/
def get : List String → Tree → Option Tree
  | [], t => some t
  | name :: path, t => ((children (some t)).lookup name).bind (get path)

/-- Change what stands at a path. -/
def update (change : Option Tree → Tree) : List String → Option Tree → Tree
  | [], t => change t
  | name :: path, t =>
    branch (setChild name (update change path ((children t).lookup name)) (children t))

/-- Put a tree at a path. -/
def put (t : Tree) : List String → Option Tree → Tree := update fun _ => t

/-- Make sure that something stands at a path: a branch without children if nothing else. -/
def touch : List String → Option Tree → Tree := update fun t => t.getD (branch [])

end Tree

/-! ## Laws -/

theorem lookup_setChild_self (name : String) (t : Tree) (cs : List (String × Tree)) :
    (setChild name t cs).lookup name = some t := by
  induction cs with
  | nil => simp [setChild]
  | cons c cs ih =>
    obtain ⟨k, u⟩ := c
    by_cases h : name = k
    · simp [setChild, h]
    · rw [setChild, if_neg h, List.lookup_cons, beq_false_of_ne h]
      exact ih

theorem lookup_setChild_other {name other : String} (h : other ≠ name) (t : Tree)
    (cs : List (String × Tree)) : (setChild name t cs).lookup other = cs.lookup other := by
  induction cs with
  | nil => simp [setChild, h]
  | cons c cs ih =>
    obtain ⟨k, u⟩ := c
    by_cases hk : name = k
    · subst hk
      rw [setChild, if_pos rfl, List.lookup_cons, List.lookup_cons, beq_false_of_ne h]
    · rw [setChild, if_neg hk, List.lookup_cons, List.lookup_cons, ih]

/-- What stands at a path that was changed is the changed tree. -/
theorem Tree.get_update_self (change : Option Tree → Tree) (path : List String) (t : Option Tree) :
    (update change path t).get path = some (change (t.bind (get path))) := by
  induction path generalizing t with
  | nil => cases t <;> rfl
  | cons name path ih =>
    rw [update, get]
    simp only [children, lookup_setChild_self, Option.bind_some, ih]
    rcases t with _ | ⟨_, _⟩ | cs
    · cases path <;> rfl
    · cases path <;> rfl
    · rfl

/-- A change below one name leaves what stands below another name. -/
theorem Tree.get_update_other {name other : String} (h : other ≠ name)
    (change : Option Tree → Tree) (path rest : List String) (t : Option Tree) :
    (update change (name :: path) t).get (other :: rest)
      = ((children t).lookup other).bind (get rest) := by
  rw [update, get]
  simp only [children, lookup_setChild_other h]

end Gatehouse.Config
