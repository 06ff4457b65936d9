/-
  Gatehouse — BLAKE2b.

  `hash n message` is the hash of RFC 7693 with an output of `n` bytes, 1 to 64, without
  a key.
-/
import Gatehouse.Hash.Words

namespace Gatehouse.Blake2b

/-- The bytes of a block. -/
def blockSize : Nat := 128

/-- The eight words between two blocks. -/
structure Chain where
  h0 : UInt64
  h1 : UInt64
  h2 : UInt64
  h3 : UInt64
  h4 : UInt64
  h5 : UInt64
  h6 : UInt64
  h7 : UInt64

/-- The constants that every hash starts from. -/
def seed : Chain :=
  ⟨0x6a09e667f3bcc908, 0xbb67ae8584caa73b, 0x3c6ef372fe94f82b, 0xa54ff53a5f1d36f1,
    0x510e527fade682d1, 0x9b05688c2b3e6c1f, 0x1f83d9abfb41bd6b, 0x5be0cd19137e2179⟩

/-- The chain before the first block: the output length goes into the first word. -/
def Chain.start (n : Nat) : Chain := { seed with h0 := seed.h0 ^^^ 0x01010000 ^^^ n.toUInt64 }

/-- The order in which each of the twelve rounds takes the words of the message. -/
def orders : List (List Nat) :=
  [[0, 1, 2, 3, 4, 5, 6, 7, 8, 9, 10, 11, 12, 13, 14, 15],
   [14, 10, 4, 8, 9, 15, 13, 6, 1, 12, 0, 2, 11, 7, 5, 3],
   [11, 8, 12, 0, 5, 2, 15, 13, 10, 14, 3, 6, 7, 1, 9, 4],
   [7, 9, 3, 1, 13, 12, 11, 14, 2, 6, 5, 10, 4, 0, 15, 8],
   [9, 0, 5, 7, 2, 4, 10, 15, 14, 1, 11, 12, 6, 8, 3, 13],
   [2, 12, 6, 10, 0, 11, 8, 3, 4, 13, 7, 5, 15, 14, 1, 9],
   [12, 5, 1, 15, 14, 13, 4, 10, 0, 7, 6, 3, 9, 2, 8, 11],
   [13, 11, 7, 14, 12, 1, 3, 9, 5, 0, 15, 4, 8, 6, 2, 10],
   [6, 15, 14, 9, 11, 3, 0, 8, 12, 2, 13, 7, 1, 4, 10, 5],
   [10, 2, 8, 4, 7, 6, 1, 5, 15, 11, 9, 14, 3, 12, 13, 0],
   [0, 1, 2, 3, 4, 5, 6, 7, 8, 9, 10, 11, 12, 13, 14, 15],
   [14, 10, 4, 8, 9, 15, 13, 6, 1, 12, 0, 2, 11, 7, 5, 3]]

/-- One round, with the words of the message in the order of the round. -/
def round (w : Words) (ordered : Array UInt64) : Words :=
  w.round fun i => Quad.mix (fun k a b => a + b + ordered.getD (2 * i + k) 0) (· + ·)

/-- Mix a block into the chain. `total` counts the bytes up to its end, without padding. -/
def Chain.absorb (h : Chain) (block : List UInt8) (total : Nat) (last : Bool) : Chain :=
  let message := (Words.ofBytes block).toList.toArray
  let start : Words :=
    ⟨h.h0, h.h1, h.h2, h.h3, h.h4, h.h5, h.h6, h.h7, seed.h0, seed.h1, seed.h2, seed.h3,
      seed.h4 ^^^ total.toUInt64, seed.h5 ^^^ (total / 0x10000000000000000).toUInt64,
      if last then ~~~seed.h6 else seed.h6, seed.h7⟩
  let w := orders.foldl (fun w order => round w (order.map (message.getD · 0)).toArray) start
  ⟨h.h0 ^^^ w.w0 ^^^ w.w8, h.h1 ^^^ w.w1 ^^^ w.w9, h.h2 ^^^ w.w2 ^^^ w.w10,
    h.h3 ^^^ w.w3 ^^^ w.w11, h.h4 ^^^ w.w4 ^^^ w.w12, h.h5 ^^^ w.w5 ^^^ w.w13,
    h.h6 ^^^ w.w6 ^^^ w.w14, h.h7 ^^^ w.w7 ^^^ w.w15⟩

/-- Absorb a message after `done` bytes of it. The last block is never left empty, unless the
    message is. -/
def absorbAll (h : Chain) (done : Nat) (rest : List UInt8) : Chain :=
  if blockSize < rest.length then
    absorbAll (h.absorb (rest.take blockSize) (done + blockSize) false) (done + blockSize)
      (rest.drop blockSize)
  else h.absorb rest (done + rest.length) true
termination_by rest.length
decreasing_by simp [blockSize] at *; omega

/-- The 64 bytes of a chain. -/
def Chain.bytes (h : Chain) : List UInt8 :=
  [h.h0, h.h1, h.h2, h.h3, h.h4, h.h5, h.h6, h.h7].flatMap wordBytes

/-- The hash of a message, `n` bytes long. -/
def hash (n : Nat) (message : List UInt8) : List UInt8 :=
  ((absorbAll (.start n) 0 message).bytes).take n

theorem length_hash {n : Nat} (h : n ≤ 64) (message : List UInt8) :
    (hash n message).length = n := by
  have : ∀ c : Chain, c.bytes.length = 64 := fun _ => rfl
  rw [hash, List.length_take, this]
  omega

end Gatehouse.Blake2b
