/-
  Gatehouse — the well-formed part of UTF-8.

  `wellFormedPrefixLength` counts the bytes before the first sequence that is not one of
  UTF-8: a stray continuation byte, a sequence that is cut short, one longer than needed,
  a surrogate, or a number beyond the last code point.
-/

namespace Gatehouse.Text

/-- The byte continues a sequence. -/
def isContinuation (b : UInt8) : Bool := 0x80 ≤ b && b ≤ 0xBF

/-- The two bytes start a sequence of three. -/
def startsThree (a b : UInt8) : Bool :=
  if a = 0xE0 then 0xA0 ≤ b && b ≤ 0xBF
  else if a = 0xED then 0x80 ≤ b && b ≤ 0x9F
  else 0xE1 ≤ a && a ≤ 0xEF && isContinuation b

/-- The two bytes start a sequence of four. -/
def startsFour (a b : UInt8) : Bool :=
  if a = 0xF0 then 0x90 ≤ b && b ≤ 0xBF
  else if a = 0xF4 then 0x80 ≤ b && b ≤ 0x8F
  else 0xF1 ≤ a && a ≤ 0xF3 && isContinuation b

/-- The number of bytes before the first sequence that is not well-formed, `n` counted
    before. -/
def wellFormedPrefixLength (n : Nat) : List UInt8 → Nat
  | [] => n
  | a :: rest =>
    if a < 0x80 then wellFormedPrefixLength (n + 1) rest
    else match rest with
      | [] => n
      | b :: rest =>
        if 0xC2 ≤ a && a ≤ 0xDF && isContinuation b then wellFormedPrefixLength (n + 2) rest
        else match rest with
          | [] => n
          | c :: rest =>
            if startsThree a b && isContinuation c then wellFormedPrefixLength (n + 3) rest
            else match rest with
              | [] => n
              | d :: rest =>
                if startsFour a b && isContinuation c && isContinuation d then
                  wellFormedPrefixLength (n + 4) rest
                else n

end Gatehouse.Text
