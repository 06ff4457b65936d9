/-
  Gatehouse — addresses in their one spelling.

  To trim a text and to put it in lower case twice is to do it once: a character that lower-casing
  has produced rests, since it is the image of itself alone (`Text.Rests`), and no blank comes to an
  end of a text that had none there. So the text of an address is its own normal form.

  * `Text.rests_of_mem_lowerFrom`, `Text.lowerFrom_of_rests`: lower-casing ends in characters that
    rest, and changes nothing else than those that do not;
  * `Text.Trimmed.lowerFrom`: lower-casing puts no blank at an end;
  * `EmailAddress.normalize_normalize`, `EmailAddress.normalize_text`: the normal form is final.
-/
import Gatehouse.Account.Email
import Gatehouse.Text.Blank
import Mathlib.Data.List.Basic
import Mathlib.Data.List.DropRight

namespace Gatehouse

namespace Text

/-! ## Images -/

/-- The character is not a capital: lower-casing leaves it as it is, wherever it stands. -/
def Rests (c : Char) : Prop := c ≠ capitalSigma ∧ lowerChar c = [c]

instance (c : Char) : Decidable (Rests c) := inferInstanceAs (Decidable (_ ∧ _))

/-- The number that has the bits of all of these. -/
def union (masks : List Nat) : Nat := masks.foldr (· ||| ·) 0

theorem testBit_union {masks : List Nat} {m n : Nat} (hm : m ∈ masks) (hn : m.testBit n = true) :
    (union masks).testBit n = true := by
  induction masks with
  | nil => cases hm
  | cons m' masks ih =>
    rw [union, List.foldr_cons, ← union, Nat.testBit_or, Bool.or_eq_true]
    rcases List.mem_cons.1 hm with rfl | hm
    · exact .inl hn
    · exact .inr (ih hm)

/-- The number that has its bits at these places. -/
def mask (ns : List Nat) : Nat := union (ns.map (1 <<< ·))

theorem testBit_mask {ns : List Nat} {n : Nat} (h : n ∈ ns) : (mask ns).testBit n = true :=
  testBit_union (List.mem_map_of_mem h) (Nat.one_shiftLeft n ▸ Nat.testBit_two_pow_self)

namespace CaseRun

/-- How far the capitals of a run lie behind the first of them. -/
def offsets (r : CaseRun) : List Nat :=
  (List.range (r.last + 1 - r.first)).filter fun k => k % r.step == 0

/-- The images of the capitals in a run. -/
def images (r : CaseRun) : List Nat := r.offsets.map (r.image + ·)

/-- The capitals in a run. -/
def capitals (r : CaseRun) : List Nat := r.offsets.map (r.first + ·)

theorem mem_offsets {r : CaseRun} {n : Nat} (h : r.has n = true) :
    r.first ≤ n ∧ n - r.first ∈ r.offsets := by
  simp only [has, Bool.and_eq_true, decide_eq_true_eq] at h
  obtain ⟨⟨hfirst, hlast⟩, hstep⟩ := h
  refine ⟨hfirst, List.mem_filter.2 ⟨List.mem_range.2 ?_, hstep⟩⟩
  omega

theorem mem_images {r : CaseRun} {n : Nat} (h : r.has n = true) :
    r.image + (n - r.first) ∈ r.images :=
  List.mem_map_of_mem (mem_offsets h).2

theorem mem_capitals {r : CaseRun} {n : Nat} (h : r.has n = true) : n ∈ r.capitals := by
  obtain ⟨hfirst, hoffset⟩ := mem_offsets h
  exact List.mem_map.2 ⟨n - r.first, hoffset, by omega⟩

theorem image_le {r : CaseRun} {n : Nat} (h : n ∈ r.images) :
    r.image ≤ n ∧ n ≤ r.image + (r.last - r.first) := by
  obtain ⟨k, hk, rfl⟩ := List.mem_map.1 h
  have hlt := List.mem_range.1 (List.mem_filter.1 hk).1
  omega

/-- All code points between these are characters, none of them a blank or the capital I with a dot;
    and they are beyond ASCII, unless there is only the letter k. -/
def lettered (low high : Nat) : Bool :=
  (high.blt 0xD800 || Nat.blt 0xDFFF low && high.blt 0x110000) &&
    (high.blt 0x130 || Nat.blt 0x130 low) && (low == 0x6B && high == 0x6B || Nat.ble 0x80 low) &&
    blankRanges.all fun b => high.blt b.1 || b.2.blt low

theorem of_lettered {low high n : Nat} (h : lettered low high = true) (hlow : low ≤ n)
    (hhigh : n ≤ high) : n.isValidChar ∧ n ≠ 0x130 ∧ (n = 0x6B ∨ 0x80 ≤ n) ∧
      ∀ b ∈ blankRanges, n < b.1 ∨ b.2 < n := by
  simp only [lettered, Bool.and_eq_true, Bool.or_eq_true, beq_iff_eq, Nat.blt_eq, Nat.ble_eq,
    List.all_eq_true] at h
  obtain ⟨⟨⟨hvalid, hdotted⟩, hascii⟩, hblank⟩ := h
  refine ⟨?_, by omega, by omega, fun b hb => ?_⟩
  · unfold Nat.isValidChar
    omega
  · have := hblank b hb
    omega

end CaseRun

theorem images_lettered :
    (caseRuns.all fun r => CaseRun.lettered r.image (r.image + (r.last - r.first))) = true := by
  decide

theorem capitalSigma_listed : (caseRuns.any fun r => r.has 0x3A3) = true := by decide

/-- Both small sigmas rest, and so does the dot that a capital I with a dot leaves. -/
theorem rests_singles : Rests 'ς' ∧ Rests 'σ' ∧ Rests '\u0307' := by decide

/-- Lower-casing an ASCII character yields one that rests, and no blank where there was none. -/
theorem rests_toLower (n : Fin 128) :
    Rests (Char.ofNat n).toLower ∧
      (isBlank (Char.ofNat n) = false → isBlank (Char.ofNat n).toLower = false) := by
  revert n
  decide

/-- No image is a capital. -/
theorem caseRuns_apart : union (caseRuns.map (mask ·.images)) &&&
    union (caseRuns.map (mask ·.capitals)) = 0 := by decide +kernel

theorem not_has_image {r other : CaseRun} (hr : r ∈ caseRuns) (ho : other ∈ caseRuns) {n : Nat}
    (hn : n ∈ r.images) : other.has n = false := by
  by_contra hhas
  rw [Bool.not_eq_false] at hhas
  have himage := testBit_union (List.mem_map_of_mem (f := (mask ·.images)) hr) (testBit_mask hn)
  have hcapital := testBit_union (List.mem_map_of_mem (f := (mask ·.capitals)) ho)
    (testBit_mask (CaseRun.mem_capitals hhas))
  have hboth := congrArg (Nat.testBit · n) caseRuns_apart
  simp only [Nat.testBit_and, himage, hcapital, Nat.zero_testBit] at hboth
  cases hboth

/-! ## Blanks at the ends -/

/-- No blank stands at an end. -/
structure Trimmed (cs : List Char) : Prop where
  first : ∀ c ∈ cs.head?, isBlank c = false
  last : ∀ c ∈ cs.getLast?, isBlank c = false

theorem trimmed_trimChars (cs : List Char) : Trimmed (trimChars cs) := by
  have htrim : trimChars cs = (cs.dropWhile isBlank).rdropWhile isBlank := rfl
  rw [htrim]
  constructor
  · intro c hc
    have hfirst := List.head?_dropWhile_not isBlank cs
    obtain ⟨rest, hrest⟩ := List.rdropWhile_prefix isBlank (cs.dropWhile isBlank)
    have hhead : (cs.dropWhile isBlank).head? = some c := by
      rw [← hrest, List.head?_append, Option.mem_def.1 hc]
      rfl
    rwa [hhead] at hfirst
  · intro c hc
    obtain ⟨hne, rfl⟩ := List.mem_getLast?_eq_getLast hc
    simpa using List.rdropWhile_last_not isBlank _ hne

theorem Trimmed.trimChars_eq {cs : List Char} (h : Trimmed cs) : trimChars cs = cs := by
  have htrim : trimChars cs = (cs.dropWhile isBlank).rdropWhile isBlank := rfl
  have hfirst : cs.dropWhile isBlank = cs := by
    cases cs with
    | nil => rfl
    | cons c rest =>
      have hc := h.first c rfl
      exact List.dropWhile_cons_of_neg (by simp [hc])
  rw [htrim, hfirst, List.rdropWhile_eq_self_iff]
  intro hne
  have hlast := h.last _ (List.getLast?_eq_some_getLast hne)
  simp [hlast]

/-! ## Lower case -/

/-- The image of a capital rests, and is no blank. -/
theorem rests_image {r : CaseRun} (hr : r ∈ caseRuns) {n : Nat} (hn : n ∈ r.images) :
    Rests (Char.ofNat n) ∧ isBlank (Char.ofNat n) = false := by
  have hmiss : ∀ other ∈ caseRuns, other.has n = false := fun other ho => not_has_image hr ho hn
  obtain ⟨hlow, hhigh⟩ := CaseRun.image_le hn
  obtain ⟨hvalid, hdotted, hascii, hblank⟩ :=
    CaseRun.of_lettered (List.all_eq_true.1 images_lettered r hr) hlow hhigh
  have hnat : (Char.ofNat n).toNat = n := by
    rw [Char.ofNat, dif_pos hvalid]
    rfl
  refine ⟨⟨?_, ?_⟩, ?_⟩
  · intro hsigma
    have hn : n = 0x3A3 := hnat.symm.trans (congrArg Char.toNat hsigma)
    obtain ⟨other, ho, hhas⟩ := List.any_eq_true.1 capitalSigma_listed
    rw [← hn, hmiss other ho] at hhas
    cases hhas
  · rcases hascii with rfl | hn
    · decide
    · have hfind : caseRuns.find? (·.has n) = none := by
        rw [List.find?_eq_none]
        intro other ho
        simp [hmiss other ho]
      have hne : Char.ofNat n ≠ 'İ' := by
        intro h
        exact hdotted (hnat.symm.trans (congrArg Char.toNat h))
      rw [lowerChar, hnat, if_neg (by omega), if_neg hne, hfind]
  · rw [isBlank, Ranges.has, hnat, List.any_eq_false]
    intro b hb
    have := hblank b hb
    simp only [Bool.and_eq_true, decide_eq_true_eq]
    omega

/-- Each image of a character rests, and is no blank if the character is none. -/
theorem rests_of_mem_lowerChar {c d : Char} (hc : c ≠ capitalSigma) (hd : d ∈ lowerChar c) :
    Rests d ∧ (isBlank c = false → isBlank d = false) := by
  have himage := hd
  unfold lowerChar at himage
  split_ifs at himage with hascii hdotted
  · obtain rfl := List.mem_singleton.1 himage
    have h := rests_toLower ⟨c.toNat, hascii⟩
    rwa [Char.ofNat_toNat] at h
  · rcases List.mem_pair.1 himage with rfl | rfl
    · exact ⟨by decide, fun _ => by decide⟩
    · exact ⟨rests_singles.2.2, fun _ => by decide⟩
  · split at himage
    · rename_i r hr
      obtain rfl := List.mem_singleton.1 himage
      obtain ⟨hrests, hblank⟩ := rests_image (List.mem_of_find?_eq_some hr)
        (CaseRun.mem_images (List.find?_some (p := fun r : CaseRun => r.has c.toNat) hr))
      exact ⟨hrests, fun _ => hblank⟩
    · rename_i hnone
      obtain rfl := List.mem_singleton.1 himage
      refine ⟨⟨hc, ?_⟩, id⟩
      rw [lowerChar, if_neg hascii, if_neg hdotted, hnone]

theorem lowerChar_ne_nil (c : Char) : lowerChar c ≠ [] := by
  unfold lowerChar
  split_ifs
  · simp
  · simp
  · split <;> simp

/-- What stands for a character in the lower case text. -/
def imageAt (before rest : List Char) (c : Char) : List Char :=
  if c = capitalSigma then [if meetsCased before && !meetsCased rest then 'ς' else 'σ']
  else lowerChar c

theorem lowerFrom_cons (before rest : List Char) (c : Char) :
    lowerFrom before (c :: rest) = imageAt before rest c ++ lowerFrom (c :: before) rest := rfl

theorem rests_of_mem_imageAt {before rest : List Char} {c d : Char}
    (hd : d ∈ imageAt before rest c) : Rests d ∧ (isBlank c = false → isBlank d = false) := by
  unfold imageAt at hd
  split_ifs at hd with hc hfinal
  · obtain rfl := List.mem_singleton.1 hd
    exact ⟨rests_singles.1, fun _ => by decide⟩
  · obtain rfl := List.mem_singleton.1 hd
    exact ⟨rests_singles.2.1, fun _ => by decide⟩
  · exact rests_of_mem_lowerChar hc hd

theorem imageAt_ne_nil (before rest : List Char) (c : Char) : imageAt before rest c ≠ [] := by
  unfold imageAt
  split_ifs
  · simp
  · simp
  · exact lowerChar_ne_nil c

/-- All characters of the lower case text rest. -/
theorem rests_of_mem_lowerFrom {before cs : List Char} {d : Char} (hd : d ∈ lowerFrom before cs) :
    Rests d := by
  induction cs generalizing before with
  | nil => cases hd
  | cons c rest ih =>
    rw [lowerFrom_cons, List.mem_append] at hd
    rcases hd with hd | hd
    · exact (rests_of_mem_imageAt hd).1
    · exact ih hd

/-- A text whose characters rest is in lower case. -/
theorem lowerFrom_of_rests {before cs : List Char} (h : ∀ c ∈ cs, Rests c) :
    lowerFrom before cs = cs := by
  induction cs generalizing before with
  | nil => rfl
  | cons c rest ih =>
    obtain ⟨hsigma, hself⟩ := h c List.mem_cons_self
    have himage : imageAt before rest c = [c] := by rw [imageAt, if_neg hsigma, hself]
    rw [lowerFrom_cons, himage, ih fun d hd => h d (List.mem_cons_of_mem c hd)]
    rfl

/-- Lower-casing puts no blank at an end. -/
theorem Trimmed.lowerFrom {before cs : List Char} (h : Trimmed cs) :
    Trimmed (lowerFrom before cs) := by
  constructor
  · intro d hd
    cases cs with
    | nil => cases hd
    | cons c rest =>
      rw [lowerFrom_cons, List.head?_append_of_ne_nil _ (imageAt_ne_nil before rest c)] at hd
      exact (rests_of_mem_imageAt (List.mem_of_mem_head? hd)).2 (h.first c rfl)
  · intro d hd
    have hlast := h.last
    clear h
    induction cs generalizing before with
    | nil => cases hd
    | cons c rest ih =>
      rw [lowerFrom_cons] at hd
      cases rest with
      | nil =>
        have hmem : d ∈ imageAt before [] c := by
          simpa [Text.lowerFrom] using List.mem_of_getLast? hd
        exact (rests_of_mem_imageAt hmem).2 (hlast c rfl)
      | cons c' rest =>
        have hne : Text.lowerFrom (c :: before) (c' :: rest) ≠ [] := by
          rw [lowerFrom_cons]
          simp [imageAt_ne_nil]
        rw [List.getLast?_append_of_ne_nil _ hne] at hd
        exact ih hd fun a ha => hlast a (by simpa using ha)

end Text

/-! ## Addresses -/

/-- No blank stands at an end, and lower-casing leaves every character as it is. -/
structure Text.Normal (s : String) : Prop where
  trimmed : Trimmed s.toList
  rests : ∀ c ∈ s.toList, Rests c

namespace EmailAddress

theorem normalize_eq_ofList (s : String) :
    normalize s = String.ofList (Text.lowerFrom [] (Text.trimChars s.toList)) := by
  rw [normalize, Text.lowercase, Text.trim, String.toList_ofList]

theorem normal_normalize (s : String) : Text.Normal (normalize s) := by
  rw [normalize_eq_ofList]
  constructor
  · rw [String.toList_ofList]
    exact (Text.trimmed_trimChars s.toList).lowerFrom
  · rw [String.toList_ofList]
    exact fun c hc => Text.rests_of_mem_lowerFrom hc

theorem normalize_of_normal {s : String} (h : Text.Normal s) : normalize s = s := by
  rw [normalize_eq_ofList, h.trimmed.trimChars_eq, Text.lowerFrom_of_rests h.rests, String.ofList_toList]

/-- The normal form is its own normal form. -/
theorem normalize_normalize (entered : String) :
    normalize (normalize entered) = normalize entered :=
  normalize_of_normal (normal_normalize entered)

theorem normalize_text (e : EmailAddress) : normalize e.text = e.text := by
  obtain ⟨entered, h⟩ := e.entered
  rw [← h, normalize_normalize]

/-- The text of an address is entered as that address. -/
theorem ofText_text (e : EmailAddress) : ofText e.text = .ok e := by
  have hform : ∀ {t : String} (ht : ∃ s, normalize s = t), t = e.text → ofNormal t ht = .ok e := by
    rintro t ht rfl
    rw [ofNormal, dif_pos e.fits]
    split
    · rfl
    · next hfault => rw [e.wellFormed] at hfault; cases hfault
  exact hform ⟨e.text, rfl⟩ e.normalize_text

end EmailAddress

end Gatehouse
