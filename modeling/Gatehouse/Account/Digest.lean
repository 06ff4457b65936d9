/-
  Gatehouse — password digests.

  A digest keeps the salt and the Argon2 tag of a password together with all parameters,
  as one text: fields that start with a dollar sign, namely the variant, the version, the
  cost, and salt and tag in base64. `Digest.text` writes it and `Digest.ofText?` reads it.

  * `Password.digest` makes a digest with the standard parameters, `Password.tryHash` its
    text, unless the password is too long to be hashed.
  * `Password.verify` recomputes the tag of a digest; a text that is no digest matches
    no password, and a password that is too long matches no digest.
-/
import Gatehouse.Hash.Argon2
import Gatehouse.Text.Base64
import Gatehouse.Text.Split

namespace Gatehouse

open Argon2 (Variant Version Cost Setting)

/-- The parts of a stored digest. -/
structure Digest where
  variant : Variant
  version : Version
  cost : Cost
  data : List UInt8
  salt : List UInt8
  tag : List UInt8
deriving DecidableEq, Repr

namespace Digest

/-! ## Words and limits -/

/-- The name of a variant. -/
def variantName : Variant → String
  | .d => "argon2d"
  | .i => "argon2i"
  | .id => "argon2id"

/-- The variant of a name. -/
def variantOfName? (name : List Char) : Option Variant :=
  [Variant.d, .i, .id].find? fun v => (variantName v).toList == name

/-- The version of a number. -/
def versionOfNumber? : Nat → Option Version
  | 16 => some .v16
  | 19 => some .v19
  | _ => none

/-- The cost that is used, and assumed where a digest leaves it out: 19 MiB, two passes. -/
def standardCost : Cost := ⟨19456, 2, 1⟩

/-- The least cost that a digest may state: eight blocks a lane, one pass, one lane. -/
def allowsCost (c : Cost) : Bool :=
  8 ≤ c.memory && 8 * c.lanes ≤ c.memory && 1 ≤ c.passes && 1 ≤ c.lanes && c.lanes < 0x1000000

/-- The most characters of a salt's text. -/
def mostSalt : Nat := 64

/-- The fewest bytes of a salt. -/
def leastSalt : Nat := 8

/-- The fewest bytes of a tag. -/
def leastTag : Nat := 10

/-- The most bytes of a tag. -/
def mostTag : Nat := 64

/-- The most bytes of the list of parameters. -/
def mostParameters : Nat := 127

/-! ## Writing -/

/-- Bytes in unpadded base64. -/
def letters (bytes : List UInt8) : List Char := Base64.encode .standard bytes

/-- The parameters as text. -/
def parameters (d : Digest) : List Char :=
  "m=".toList ++ Text.decimalChars d.cost.memory ++ ",t=".toList
    ++ Text.decimalChars d.cost.passes ++ ",p=".toList ++ Text.decimalChars d.cost.lanes
    ++ (if d.data.isEmpty then [] else ",data=".toList ++ letters d.data)

/-- What a digest says before its salt. -/
def header (d : Digest) : List Char :=
  '$' :: (variantName d.variant).toList ++ "$v=".toList
    ++ Text.decimalChars d.version.number ++ '$' :: d.parameters

/-- The text of a digest. -/
def text (d : Digest) : String :=
  String.ofList (d.header ++ '$' :: letters d.salt ++ '$' :: letters d.tag)

/-! ## Reading -/

/-- A 32-bit number in decimal digits without leading zeros. -/
def number? (cs : List Char) : Option Nat :=
  if cs.head? = some '0' ∧ 1 < cs.length then none
  else (Text.readDecimal? cs).filter (· < 0x100000000)

/-- The bytes of a text in base64. -/
def bytes? (cs : List Char) : Option (List UInt8) :=
  (Base64.decode .standard (String.ofList cs).toUTF8.toList).toOption

/-- Bytes in base64, at most `most` of them. -/
def bytesUpTo? (most : Nat) (cs : List Char) : Option (List UInt8) :=
  (bytes? cs).filter (·.length ≤ most)

/-- The cost and the data while parameters are read. -/
structure Parameters where
  cost : Cost := standardCost
  data : List UInt8 := []

/-- Read one parameter. Of two with one name the later counts; a name that is not known is
    refused. The key's name is checked and has no effect. -/
def Parameters.read? (p : Parameters) (item : List Char) : Option Parameters :=
  match Text.pieces '=' item with
  | [name, value] =>
    match String.ofList name with
    | "m" => (number? value).map fun n => { p with cost := { p.cost with memory := n } }
    | "t" => (number? value).map fun n => { p with cost := { p.cost with passes := n } }
    | "p" => (number? value).map fun n => { p with cost := { p.cost with lanes := n } }
    | "keyid" => (bytesUpTo? 8 value).map fun _ => p
    | "data" => (bytesUpTo? 32 value).map fun d => { p with data := d }
    | _ => none
  | _ => none

/-- Read the list of parameters. -/
def parameters? (cs : List Char) : Option Parameters :=
  if mostParameters < (String.ofList cs).utf8ByteSize then none
  else (Text.pieces ',' cs).foldlM Parameters.read? {}

/-- The salt and the tag of the last two fields. -/
def saltAndTag? : List (List Char) → Option (List UInt8 × List UInt8)
  | [salt, tag] => do
    let s ← bytes? salt
    let t ← bytes? tag
    if salt.length ≤ mostSalt ∧ leastSalt ≤ s.length ∧ leastTag ≤ t.length ∧ t.length ≤ mostTag
    then some (s, t) else none
  | _ => none

/-- Read the parameters, which may be left out, and the fields behind them. -/
def ofFields? (variant : Variant) (version : Version) : List (List Char) → Option Digest
  | field :: rest => do
    let (p, rest) ←
      if '=' ∈ field then (parameters? field).map (·, rest) else some ({}, field :: rest)
    let (salt, tag) ← saltAndTag? rest
    if allowsCost p.cost then some ⟨variant, version, p.cost, p.data, salt, tag⟩ else none
  | [] => none

/-- The number in a field that states the version. -/
def versionField? : List Char → Option (List Char)
  | 'v' :: '=' :: digits => if ',' ∈ digits then none else some digits
  | _ => none

/-- Read the digest behind the name of its variant. The version may be left out. -/
def ofVersion? (variant : Variant) : List (List Char) → Option Digest
  | field :: rest =>
    match versionField? field with
    | some digits => do ofFields? variant (← versionOfNumber? (← number? digits)) rest
    | none => ofFields? variant .v19 (field :: rest)
  | [] => none

/-- The digest that a text stands for. -/
def ofText? (text : String) : Option Digest :=
  match Text.pieces '$' text.toList with
  | [] :: name :: rest => (variantOfName? name).bind fun variant => ofVersion? variant rest
  | _ => none

/-! ## Tags -/

/-- The parameters of a tag. -/
def setting (d : Digest) : Setting :=
  { variant := d.variant, version := d.version, cost := d.cost, data := d.data,
    tagLength := d.tag.length }

/-- The tag of a password under the digest's parameters and salt. -/
def tagOf (d : Digest) (password : String) : List UInt8 :=
  Argon2.tag d.setting password.toUTF8.toList d.salt

end Digest

namespace Password

/-- The bytes of a fresh tag. -/
def tagLength : Nat := 32

/-- The bytes of a fresh salt. -/
def saltLength : Nat := 16

/-- The parameters of a fresh tag. -/
def standard : Setting :=
  { variant := .id, version := .v19, cost := Digest.standardCost, data := [],
    tagLength := tagLength }

/-- The digest of a password under a salt, with the standard parameters. -/
def digest (password : String) (salt : List UInt8) : Digest :=
  { variant := standard.variant, version := standard.version, cost := standard.cost,
    data := standard.data, salt := salt,
    tag := Argon2.tag standard password.toUTF8.toList salt }

/-- Why a password was not hashed. -/
inductive HashError
  | hashingFailed (reason : String)
deriving DecidableEq, Repr

def HashError.message : HashError → String
  | hashingFailed reason => "Password hashing failed: " ++ reason

/-- The most bytes of a password that is hashed. -/
def mostBytes : Nat := 0xffffffff

/-- The password is short enough to be hashed. -/
def fits (password : String) : Bool := password.utf8ByteSize ≤ mostBytes

/-- The stored text of a fresh digest. -/
def hash (password : String) (salt : List UInt8) : String := (digest password salt).text

/-- Hash a password that fits. -/
def tryHash (password : String) (salt : List UInt8) : Except HashError String :=
  if fits password then .ok (hash password salt) else .error (.hashingFailed "invalid password")

/-- The password has the tag that the stored text states. -/
def verify (password stored : String) : Bool :=
  match Digest.ofText? stored with
  | some d => fits password && d.tagOf password == d.tag
  | none => false

/-- A digest that no account has, for look-ups that found none: checking a password against
    it costs as much as against a real one. -/
def decoy : String :=
  "$argon2id$v=19$m=19456,t=2,p=1$ZHVtbXlzYWx0ZHVtbXlzYQ"
    ++ "$bm90LWEtcmVhbC1kaWdlc3QtdXNlZC1mb3ItbG9naW4"

/-- Spend the cost of one check without a stored digest. -/
def verifyDecoy (password : String) : Bool := verify password decoy

/-- Checking a fresh digest asks for the tag under the parameters that it was made with. -/
theorem setting_digest (password : String) (salt : List UInt8) :
    (digest password salt).setting = standard := by
  simp [digest, Digest.setting, Argon2.length_tag, standard]

end Password

end Gatehouse
