/-
  Gatehouse — Argon2.

  The memory-hard hash of RFC 9106, in its three variants and both versions. A memory of
  blocks of 1024 bytes, split into lanes of four slices, is filled pass by pass; each
  block is made from the block before it and from one that a pseudo-random number picks
  among those that are finished. The tag is a hash of the last blocks of all lanes.

  The password enters only the first hash (`seed`), with all parameters; two passwords
  have the same tag exactly if the fillings end alike. `length_tag` gives the length.
-/
import Gatehouse.Hash.Blake2b

namespace Gatehouse.Argon2

/-- How the other block is picked: from the content, from the position, or from the position
    in the first half of the first pass and from the content afterwards. -/
inductive Variant
  | d
  | i
  | id
deriving DecidableEq, Repr

/-- The number of a variant in the first hash. -/
def Variant.code : Variant → Nat
  | d => 0
  | i => 1
  | id => 2

/-- Later passes overwrite blocks in version 16, and add to them in version 19. -/
inductive Version
  | v16
  | v19
deriving DecidableEq, Repr

def Version.number : Version → Nat
  | v16 => 16
  | v19 => 19

/-- The cost: blocks of memory, passes over them, and lanes. -/
structure Cost where
  memory : Nat
  passes : Nat
  lanes : Nat
deriving DecidableEq, Repr

/-- All that a tag depends on besides the password and the salt. -/
structure Setting where
  variant : Variant
  version : Version
  cost : Cost
  /-- Data that is hashed along. -/
  data : List UInt8
  tagLength : Nat
deriving DecidableEq, Repr

/-! ## Hashes of any length -/

/-- A hash of `n` bytes: beyond 64 bytes, the first halves of a chain of hashes. -/
def stretch (n : Nat) (message : List UInt8) : List UInt8 :=
  if n ≤ 64 then Blake2b.hash n message
  else
    let v := Blake2b.hash 64 message
    v.take 32 ++ stretch (n - 32) v
termination_by n

theorem length_stretch (n : Nat) (message : List UInt8) : (stretch n message).length = n := by
  fun_induction stretch n message with
  | case1 n message h => exact Blake2b.length_hash h message
  | case2 n message h v ih =>
    rw [List.length_append, ih, List.length_take, Blake2b.length_hash (by omega)]
    omega

/-- The hash with its length in front of the message. -/
def longHash (n : Nat) (message : List UInt8) : List UInt8 := stretch n (lowBytes 4 n ++ message)

theorem length_longHash (n : Nat) (message : List UInt8) : (longHash n message).length = n :=
  length_stretch ..

/-- Bytes with their length in front. -/
def counted (bytes : List UInt8) : List UInt8 := lowBytes 4 bytes.length ++ bytes

/-- The hash that the filling starts from. No secret key is used. -/
def seed (s : Setting) (password salt : List UInt8) : List UInt8 :=
  Blake2b.hash 64 <|
    [s.cost.lanes, s.tagLength, s.cost.memory, s.cost.passes, s.version.number,
      s.variant.code].flatMap (lowBytes 4)
      ++ counted password ++ counted salt ++ counted [] ++ counted s.data

/-! ## Blocks -/

/-- 1024 bytes: eight rows of sixteen words. -/
structure Block where
  r0 : Words
  r1 : Words
  r2 : Words
  r3 : Words
  r4 : Words
  r5 : Words
  r6 : Words
  r7 : Words
deriving Inhabited

namespace Block

/-- The rows in order. -/
def rows (b : Block) : List Words := [b.r0, b.r1, b.r2, b.r3, b.r4, b.r5, b.r6, b.r7]

/-- Eight rows given by their positions. -/
def ofFn (f : Nat → Words) : Block := ⟨f 0, f 1, f 2, f 3, f 4, f 5, f 6, f 7⟩

/-- The block of zeros. -/
def zero : Block := ofFn fun _ => Words.ofFn fun _ => 0

/-- The block of 1024 bytes. -/
def ofBytes (bytes : List UInt8) : Block := ofFn fun i => Words.ofBytes (bytes.drop (128 * i))

/-- The bytes of a block. -/
def bytes (b : Block) : List UInt8 := b.rows.flatMap fun r => r.toList.flatMap wordBytes

/-- The word at a position below 128. -/
def word (b : Block) (i : Nat) : UInt64 :=
  match b.rows[i / 16]? with
  | some r => r.toList.getD (i % 16) 0
  | none => 0

/-- The exclusive or of two blocks. -/
def xor (b c : Block) : Block :=
  ⟨b.r0.zipWith (· ^^^ ·) c.r0, b.r1.zipWith (· ^^^ ·) c.r1, b.r2.zipWith (· ^^^ ·) c.r2,
    b.r3.zipWith (· ^^^ ·) c.r3, b.r4.zipWith (· ^^^ ·) c.r4, b.r5.zipWith (· ^^^ ·) c.r5,
    b.r6.zipWith (· ^^^ ·) c.r6, b.r7.zipWith (· ^^^ ·) c.r7⟩

end Block

/-- Add two words and twice the product of their lower halves. -/
@[inline]
def addProduct (x y : UInt64) : UInt64 :=
  x + y + 2 * ((x &&& 0xffffffff) * (y &&& 0xffffffff))

/-- The permutation of sixteen words. -/
def permute (w : Words) : Words :=
  w.round fun _ => Quad.mix (fun _ => addProduct) addProduct

/-- Permute each row. -/
def permuteRows (b : Block) : Block :=
  ⟨permute b.r0, permute b.r1, permute b.r2, permute b.r3, permute b.r4, permute b.r5,
    permute b.r6, permute b.r7⟩

/-- Turn columns of two words into rows. Doing it twice changes nothing. -/
def transpose (b : Block) : Block :=
  ⟨⟨b.r0.w0, b.r0.w1, b.r1.w0, b.r1.w1, b.r2.w0, b.r2.w1, b.r3.w0, b.r3.w1, b.r4.w0, b.r4.w1,
      b.r5.w0, b.r5.w1, b.r6.w0, b.r6.w1, b.r7.w0, b.r7.w1⟩,
    ⟨b.r0.w2, b.r0.w3, b.r1.w2, b.r1.w3, b.r2.w2, b.r2.w3, b.r3.w2, b.r3.w3, b.r4.w2, b.r4.w3,
      b.r5.w2, b.r5.w3, b.r6.w2, b.r6.w3, b.r7.w2, b.r7.w3⟩,
    ⟨b.r0.w4, b.r0.w5, b.r1.w4, b.r1.w5, b.r2.w4, b.r2.w5, b.r3.w4, b.r3.w5, b.r4.w4, b.r4.w5,
      b.r5.w4, b.r5.w5, b.r6.w4, b.r6.w5, b.r7.w4, b.r7.w5⟩,
    ⟨b.r0.w6, b.r0.w7, b.r1.w6, b.r1.w7, b.r2.w6, b.r2.w7, b.r3.w6, b.r3.w7, b.r4.w6, b.r4.w7,
      b.r5.w6, b.r5.w7, b.r6.w6, b.r6.w7, b.r7.w6, b.r7.w7⟩,
    ⟨b.r0.w8, b.r0.w9, b.r1.w8, b.r1.w9, b.r2.w8, b.r2.w9, b.r3.w8, b.r3.w9, b.r4.w8, b.r4.w9,
      b.r5.w8, b.r5.w9, b.r6.w8, b.r6.w9, b.r7.w8, b.r7.w9⟩,
    ⟨b.r0.w10, b.r0.w11, b.r1.w10, b.r1.w11, b.r2.w10, b.r2.w11, b.r3.w10, b.r3.w11, b.r4.w10,
      b.r4.w11, b.r5.w10, b.r5.w11, b.r6.w10, b.r6.w11, b.r7.w10, b.r7.w11⟩,
    ⟨b.r0.w12, b.r0.w13, b.r1.w12, b.r1.w13, b.r2.w12, b.r2.w13, b.r3.w12, b.r3.w13, b.r4.w12,
      b.r4.w13, b.r5.w12, b.r5.w13, b.r6.w12, b.r6.w13, b.r7.w12, b.r7.w13⟩,
    ⟨b.r0.w14, b.r0.w15, b.r1.w14, b.r1.w15, b.r2.w14, b.r2.w15, b.r3.w14, b.r3.w15, b.r4.w14,
      b.r4.w15, b.r5.w14, b.r5.w15, b.r6.w14, b.r6.w15, b.r7.w14, b.r7.w15⟩⟩

/-- Make a block from two: permute the rows of their exclusive or, then its columns. -/
def compress (b c : Block) : Block :=
  let r := b.xor c
  r.xor (transpose (permuteRows (transpose (permuteRows r))))

/-! ## Filling the memory -/

/-- Blocks in a segment, the part of a lane in one slice. -/
def Cost.segment (c : Cost) : Nat := c.memory / (4 * c.lanes)

/-- Blocks in a lane. -/
def Cost.lane (c : Cost) : Nat := 4 * c.segment

/-- A segment in the course of the filling. -/
structure Place where
  pass : Nat
  slice : Nat
  lane : Nat

/-- The other block is picked by its position alone. -/
def Place.byPosition (p : Place) : Variant → Bool
  | .d => false
  | .i => true
  | .id => p.pass = 0 && p.slice < 2

/-- Numbers for 128 positions, the `k`-th such block of a segment. -/
def Place.numbers (p : Place) (s : Setting) (k : Nat) : Block :=
  let c := s.cost
  let input : Words := .ofFn fun
    | 0 => p.pass.toUInt64
    | 1 => p.lane.toUInt64
    | 2 => p.slice.toUInt64
    | 3 => (c.lane * c.lanes).toUInt64
    | 4 => c.passes.toUInt64
    | 5 => s.variant.code.toUInt64
    | 6 => (k + 1).toUInt64
    | _ => 0
  compress .zero (compress .zero { Block.zero with r0 := input })

/-- How many finished blocks the other block is picked from. -/
def Place.choices (p : Place) (c : Cost) (index : Nat) (sameLane : Bool) : Nat :=
  let before := if p.pass = 0 then p.slice * c.segment else c.lane - c.segment
  if sameLane then before + index - 1
  else if index = 0 then before - 1
  else before

/-- The place in the memory of the block that a number picks. -/
def Place.other (p : Place) (c : Cost) (index : Nat) (number : UInt64) : Nat :=
  let low := (number &&& 0xffffffff).toNat
  let high := (number >>> 32).toNat
  let lane := if p.pass = 0 ∧ p.slice = 0 then p.lane else high % c.lanes
  let choices := p.choices c index (lane = p.lane)
  let back := choices * (low * low / 0x100000000) / 0x100000000
  let start := if p.pass = 0 ∨ p.slice = 3 then 0 else (p.slice + 1) * c.segment
  lane * c.lane + (start + (choices - 1 - back)) % c.lane

/-- The memory, and the numbers that are in use. -/
structure Filling where
  memory : Array Block
  numbers : Block

/-- Fill the block at a position of a segment. -/
def Place.fillOne (p : Place) (s : Setting) (f : Filling) (index : Nat) : Filling :=
  let c := s.cost
  let column := p.slice * c.segment + index
  let current := p.lane * c.lane + column
  let previous := p.lane * c.lane + (column + c.lane - 1) % c.lane
  let ⟨memory, numbers⟩ := f
  let before := memory.getD previous .zero
  let byPosition := p.byPosition s.variant
  let numbers := if byPosition ∧ index % 128 = 0 then p.numbers s (index / 128) else numbers
  let number := if byPosition then numbers.word (index % 128) else before.r0.w0
  let made := compress before (memory.getD (p.other c index number) .zero)
  let made :=
    if p.pass = 0 ∨ s.version = .v16 then made else made.xor (memory.getD current .zero)
  ⟨memory.setIfInBounds current made, numbers⟩

/-- Fill a segment. The first two blocks of each lane are there from the start. -/
def Place.fill (p : Place) (s : Setting) (memory : Array Block) : Array Block :=
  let first := if p.pass = 0 ∧ p.slice = 0 then 2 else 0
  let numbers := if p.byPosition s.variant then p.numbers s 0 else .zero
  ((List.range' first (s.cost.segment - first)).foldl (p.fillOne s) ⟨memory, numbers⟩).memory

/-- The segments in the order of the filling. -/
def places (c : Cost) : List Place :=
  (List.range c.passes).flatMap fun pass =>
    (List.range 4).flatMap fun slice =>
      (List.range c.lanes).map fun lane => ⟨pass, slice, lane⟩

/-- The memory with the first two blocks of each lane. -/
def firstBlocks (c : Cost) (seed : List UInt8) : Array Block :=
  (List.range c.lanes).foldl
    (fun memory lane =>
      [0, 1].foldl
        (fun (memory : Array Block) i =>
          memory.setIfInBounds (lane * c.lane + i)
            (.ofBytes (longHash 1024 (seed ++ lowBytes 4 i ++ lowBytes 4 lane))))
        memory)
    (Array.replicate (c.lane * c.lanes) .zero)

/-- The exclusive or of the last blocks of all lanes. -/
def lastBlock (c : Cost) (memory : Array Block) : Block :=
  (List.range c.lanes).foldl
    (fun b lane => b.xor (memory.getD (lane * c.lane + c.lane - 1) .zero)) .zero

/-- The tag of a password under a salt. -/
def tag (s : Setting) (password salt : List UInt8) : List UInt8 :=
  let start := firstBlocks s.cost (seed s password salt)
  let memory := (places s.cost).foldl (fun memory p => p.fill s memory) start
  longHash s.tagLength (lastBlock s.cost memory).bytes

theorem length_tag (s : Setting) (password salt : List UInt8) :
    (tag s password salt).length = s.tagLength :=
  length_longHash ..

end Gatehouse.Argon2
