/-
  Gatehouse — opaque tokens.

  Secrets and identifiers are random bytes in the base64 alphabet of URLs. The bytes are
  drawn by the caller; the text keeps all of them.
-/
import Gatehouse.Text.Base64

namespace Gatehouse.OpaqueToken

/-- The random bytes behind a secret or an identifier. -/
def standardBytes : Nat := 32

/-- Why no token was made. -/
inductive Error
  | emptyLength
  | entropyUnavailable (reason : String)
deriving DecidableEq, Repr

def Error.message : Error → String
  | emptyLength => "Token length must be at least one byte"
  | entropyUnavailable reason => "Secure random source unavailable: " ++ reason

/-- The token of the bytes that were drawn. -/
def ofBytes (bytes : List UInt8) : Except Error String :=
  if bytes.isEmpty then .error .emptyLength else .ok (Base64.encodeText .urlSafe bytes)

/-- A source of random bytes gives as many as are asked for, or tells why it cannot. -/
abbrev Source := (n : Nat) → Except String (Vector UInt8 n)

/-- A token of so many bytes of a source. There is no other source to turn to. -/
def generate (source : Source) (length : Nat) : Except Error String :=
  if length = 0 then .error .emptyLength
  else match source length with
    | .ok bytes => ofBytes bytes.toList
    | .error reason => .error (.entropyUnavailable reason)

end Gatehouse.OpaqueToken
