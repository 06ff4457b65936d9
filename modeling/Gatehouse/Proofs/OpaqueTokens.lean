/-
  Gatehouse — what an opaque token keeps of its random bytes.

  A token is the letters of its bytes: four for every three bytes, and two or three for one or two
  that are left. The bytes can be read back from the letters, so that there are as many tokens as
  there are texts of bytes, and a token is as hard to guess as its bytes.

  * `Base64.encode_injective`: different bytes have different letters;
  * `Base64.encodedLength_eq_ceil`: the number of letters;
  * `OpaqueToken.generate_keeps_entropy`: the tokens of a length.
-/
import Gatehouse.Proofs.Encoding
import Gatehouse.Session.OpaqueToken
import Mathlib.Algebra.Order.Floor.Semiring
import Mathlib.Data.Rat.Floor
import Mathlib.Tactic.Linarith

namespace Gatehouse

namespace Base64

/-- Different bytes have different letters, since the letters are read back. -/
theorem encode_injective (a : Alphabet) : Function.Injective (encode a) := by
  intro bytes bytes' h
  have hread : decode a (Jwt.bytesOf (encode a bytes')) = .ok bytes := h ▸ decode_encode a bytes
  rw [decode_encode] at hread
  exact (Except.ok.inj hread).symm

/-- Four letters stand for three bytes. -/
theorem encodedLength_eq_ceil (n : Nat) : encodedLength n = ⌈(4 * n / 3 : ℚ)⌉₊ := by
  have hbounds : 4 * n ≤ 3 * encodedLength n ∧ 3 * encodedLength n < 4 * n + 3 := by
    rw [encodedLength]
    omega
  obtain ⟨hlow, hhigh⟩ := hbounds
  have hlow' : (4 * n : ℚ) ≤ 3 * encodedLength n := by exact_mod_cast hlow
  have hhigh' : (3 * encodedLength n : ℚ) < 4 * n + 3 := by exact_mod_cast hhigh
  apply le_antisymm
  · have hceil := Nat.le_ceil (4 * n / 3 : ℚ)
    have hlt : (encodedLength n : ℚ) < ⌈(4 * n / 3 : ℚ)⌉₊ + 1 := by linarith
    exact Nat.lt_succ_iff.1 (by exact_mod_cast hlt)
  · rw [Nat.ceil_le]
    linarith

/-- The letters of the alphabet for URLs. -/
def IsUrlSafe (c : Char) : Prop :=
  ('A' ≤ c ∧ c ≤ 'Z') ∨ ('a' ≤ c ∧ c ≤ 'z') ∨ ('0' ≤ c ∧ c ≤ '9') ∨ c = '-' ∨ c = '_'

instance (c : Char) : Decidable (IsUrlSafe c) := inferInstanceAs (Decidable (_ ∨ _))

theorem isUrlSafe_symbol : ∀ n < 64, IsUrlSafe (Alphabet.symbol .urlSafe n) := by decide

theorem isUrlSafe_of_mem_encode {bytes : List UInt8} {c : Char} (hc : c ∈ encode .urlSafe bytes) :
    IsUrlSafe c := by
  obtain ⟨n, hn, rfl⟩ := mem_encode .urlSafe hc
  exact isUrlSafe_symbol n hn

end Base64

namespace OpaqueToken

variable {n : Nat}

/-- A token of bytes that the source has delivered. -/
theorem generate_eq {source : Source} {bytes : Vector UInt8 n} (hn : 1 ≤ n)
    (h : source n = .ok bytes) :
    generate source n = .ok (Base64.encodeText .urlSafe bytes.toList) := by
  have hsome : bytes.toList.isEmpty = false := by
    rw [List.isEmpty_eq_false_iff, ← List.length_pos_iff, bytes.length_toList]
    exact hn
  rw [generate, if_neg (Nat.ne_of_gt hn), h]
  simp only [ofBytes, hsome]
  rfl

/-- **A token keeps all of its random bytes.** Of `n ≥ 1` bytes that the source delivers, the token
    has `⌈4n/3⌉` characters, all of them safe in a URL; and two sources whose `n` bytes differ make
    different tokens. -/
theorem generate_keeps_entropy (hn : 1 ≤ n) :
    (∀ (source : Source) (bytes : Vector UInt8 n), source n = .ok bytes →
      ∃ t, generate source n = .ok t ∧ t.length = ⌈(4 * n / 3 : ℚ)⌉₊ ∧
        ∀ c ∈ t.toList, Base64.IsUrlSafe c) ∧
    ∀ (source source' : Source) (bytes bytes' : Vector UInt8 n), source n = .ok bytes →
      source' n = .ok bytes' → bytes ≠ bytes' → generate source n ≠ generate source' n := by
  refine ⟨fun source bytes h => ⟨_, generate_eq hn h, ?_, ?_⟩, ?_⟩
  · rw [Base64.encodeText, String.length_ofList, Base64.length_encode, bytes.length_toList,
      Base64.encodedLength_eq_ceil]
  · intro c hc
    rw [Base64.encodeText, String.toList_ofList] at hc
    exact Base64.isUrlSafe_of_mem_encode hc
  · intro source source' bytes bytes' h h' hne heq
    rw [generate_eq hn h, generate_eq hn h'] at heq
    have htext : Base64.encode .urlSafe bytes.toList = Base64.encode .urlSafe bytes'.toList :=
      String.ofList_injective (Except.ok.inj heq)
    exact hne (Vector.toList_inj.1 (Base64.encode_injective .urlSafe htext))

/-- A source whose bytes count up. -/
def ramp (first : UInt8) : Source := fun _ => .ok (Vector.ofFn fun i => first + i.toNat.toUInt8)

/-- Secrets of 32 bytes have 43 characters; a source that starts one byte later makes another one. -/
theorem generate_keeps_entropy_ramps :
    1 ≤ standardBytes ∧
      (∃ t, generate (ramp 250) standardBytes = .ok t ∧ t.length = 43 ∧
        ∀ c ∈ t.toList, Base64.IsUrlSafe c) ∧
      generate (ramp 250) standardBytes ≠ generate (ramp 251) standardBytes := by
  have hn : 1 ≤ standardBytes := by decide
  obtain ⟨hmade, hapart⟩ := generate_keeps_entropy hn
  obtain ⟨t, ht, hlength, hsafe⟩ := hmade (ramp 250) _ rfl
  refine ⟨hn, ⟨t, ht, ?_, hsafe⟩, hapart _ _ _ _ rfl rfl (by decide)⟩
  rw [hlength, ← Base64.encodedLength_eq_ceil]
  rfl

end OpaqueToken

end Gatehouse
