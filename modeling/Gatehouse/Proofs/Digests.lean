/-
  Gatehouse — digests read back.

  A stored digest is a text of fields behind dollar signs, one of them a list of parameters.
  Whoever checks a password has only the text. What was written is read back field by field, so
  that the check asks for the tag under the parameters and the salt of the digest.

  * `Text.pieces_intercalate`: fields without the separator are the pieces of their joined text;
  * `Digest.number?_decimalChars`, `Digest.bytes?_letters`: numbers and bytes are read back;
  * `Digest.ofText?_text`: a digest within the limits of the format is read back from its text;
  * `Password.tryHash_verifies`: a fresh digest matches its password, and no other passwords than
    those with the same tag.
-/
import Gatehouse.Account.Digest
import Gatehouse.Proofs.JsonNumbers

namespace Gatehouse

/-! ## Pieces -/

namespace Text

theorem pieces_eq_splitOn (sep : Char) (cs : List Char) : pieces sep cs = cs.splitOn sep := by
  induction cs with
  | nil => rfl
  | cons c cs ih =>
    rw [pieces, List.splitOn_cons_eq_if_modifyHead, ih]
    simp only [beq_iff_eq]
    split_ifs with hc
    · rfl
    · cases h : cs.splitOn sep with
      | nil => exact (List.splitOn_ne_nil _ _ h).elim
      | cons p ps => rfl

/-- Fields are the pieces of their joined text. -/
theorem pieces_intercalate {sep : Char} {fields : List (List Char)}
    (h : ∀ field ∈ fields, sep ∉ field) (hne : fields ≠ []) :
    pieces sep ([sep].intercalate fields) = fields := by
  rw [pieces_eq_splitOn]
  exact List.splitOn_intercalate sep h hne

/-- A name and a value are the pieces of the name, the separator and the value. -/
theorem pieces_pair {sep : Char} {name value : List Char} (hname : sep ∉ name)
    (hvalue : sep ∉ value) : pieces sep (name ++ sep :: value) = [name, value] := by
  have h : pieces sep ([sep].intercalate [name, value]) = [name, value] :=
    pieces_intercalate (by simp [hname, hvalue]) (by simp)
  simpa [List.intercalate_cons_cons] using h

/-- What stands in the joined text is the separator or stands in a field. -/
theorem of_mem_intercalate {sep c : Char} {fields : List (List Char)}
    (h : c ∈ [sep].intercalate fields) : c = sep ∨ ∃ field ∈ fields, c ∈ field := by
  induction fields with
  | nil => cases h
  | cons f fs ih =>
    cases fs with
    | nil => exact .inr ⟨f, List.mem_cons_self, by rwa [List.intercalate_singleton] at h⟩
    | cons g gs =>
      rw [List.intercalate_cons_cons, List.append_assoc] at h
      rcases List.mem_append.1 h with hf | h
      · exact .inr ⟨f, List.mem_cons_self, hf⟩
      · rcases List.mem_cons.1 h with hsep | h
        · exact .inl hsep
        · obtain hsep | ⟨field, hfield, hc⟩ := ih h
          · exact .inl hsep
          · exact .inr ⟨field, List.mem_cons_of_mem _ hfield, hc⟩

theorem mem_of_mem_pieces {sep c : Char} {cs part : List Char} (hpart : part ∈ pieces sep cs)
    (hc : c ∈ part) : c ∈ cs := by
  induction cs generalizing part with
  | nil =>
    obtain rfl := List.mem_singleton.1 hpart
    exact hc
  | cons d cs ih =>
    rw [pieces] at hpart
    split_ifs at hpart with hd
    · rcases List.mem_cons.1 hpart with rfl | hpart
      · cases hc
      · exact List.mem_cons_of_mem d (ih hpart hc)
    · split at hpart
      · next p ps heq =>
        rcases List.mem_cons.1 hpart with rfl | hpart
        · rcases List.mem_cons.1 hc with rfl | hc
          · exact List.mem_cons_self
          · exact List.mem_cons_of_mem d (ih (by rw [heq]; exact List.mem_cons_self) hc)
        · exact List.mem_cons_of_mem d (ih (by rw [heq]; exact List.mem_cons_of_mem p hpart) hc)
      · obtain rfl := List.mem_singleton.1 hpart
        obtain rfl := List.mem_singleton.1 hc
        exact List.mem_cons_self

/-! ## Numbers -/

theorem digitValue?_digitChar : ∀ d < 10, digitValue? (Nat.digitChar d) = some d := by decide

theorem readDigits?_digits {ds : List Nat} (hds : ∀ d ∈ ds, d < 10) (acc : Nat) :
    readDigits? acc (ds.map Nat.digitChar) = some (Json.valueFrom acc ds) := by
  induction ds generalizing acc with
  | nil => rfl
  | cons d ds ih =>
    rw [List.map_cons, readDigits?, digitValue?_digitChar d (hds d List.mem_cons_self),
      Option.bind_some, ih fun x hx => hds x (List.mem_cons_of_mem _ hx), Json.valueFrom_cons,
      Nat.mul_comm]

/-- The digits that are written for a number. -/
theorem exists_digits (n : Nat) :
    ∃ ds, Json.Digits n ds ∧ decimalChars n = ds.map Nat.digitChar := Json.Digits.exists n

theorem readDecimal?_decimalChars (n : Nat) : readDecimal? (decimalChars n) = some n := by
  obtain ⟨ds, hds, hw⟩ := exists_digits n
  have hread : readDigits? 0 (decimalChars n) = some n := by
    rw [hw, readDigits?_digits hds.small, hds.value]
  cases h : decimalChars n with
  | nil => exact absurd h Nat.toDigits_ne_nil
  | cons c cs => rwa [h] at hread

/-- Only the digits of zero begin with a zero. -/
theorem head_decimalChars {n : Nat} (h : (decimalChars n).head? = some '0') :
    (decimalChars n).length = 1 := by
  obtain ⟨ds, hds, hw⟩ := exists_digits n
  rw [hw] at h ⊢
  rcases hds.head with rfl | ⟨d, rest, rfl, hd⟩
  · rfl
  · have hall : ∀ d < 10, d ≠ 0 → Nat.digitChar d ≠ '0' := by decide
    exact absurd (Option.some.inj h) (hall d (hds.small d List.mem_cons_self) hd)

end Text

namespace Digest

/-! ## Words -/

/-- A character that stands in a word. Those that part the fields of a digest do not. -/
def inWord (c : Char) : Bool := c.isAlphanum || c == '+' || c == '/'

/-- A text of letters, digits, and the two signs of base64. -/
abbrev Word (cs : List Char) : Prop := cs.all inWord = true

theorem word_iff {cs : List Char} : Word cs ↔ ∀ c ∈ cs, inWord c = true := List.all_eq_true

theorem inWord_symbol : ∀ n < 64, inWord (Base64.Alphabet.standard.symbol n) = true := by decide

theorem word_letters (bytes : List UInt8) : Word (letters bytes) := by
  refine word_iff.2 fun c hc => ?_
  obtain ⟨n, hn, rfl⟩ := Base64.mem_encode .standard hc
  exact inWord_symbol n hn

theorem word_decimalChars (n : Nat) : Word (Text.decimalChars n) := by
  refine word_iff.2 fun c hc => ?_
  have hdigit : c.isDigit := Nat.isDigit_of_mem_toDigits (by omega) (by omega) hc
  simp [inWord, Char.isAlphanum, hdigit]

theorem Word.not_mem {cs : List Char} (h : Word cs) {c : Char} (hc : inWord c = false) :
    c ∉ cs := by
  intro hmem
  rw [word_iff.1 h c hmem] at hc
  cases hc

theorem Word.dollar {cs : List Char} (h : Word cs) : '$' ∉ cs := h.not_mem (by decide)

theorem Word.comma {cs : List Char} (h : Word cs) : ',' ∉ cs := h.not_mem (by decide)

theorem Word.equals {cs : List Char} (h : Word cs) : '=' ∉ cs := h.not_mem (by decide)

theorem toNat_of_inWord {c : Char} (h : inWord c = true) : c.toNat < 128 := by
  unfold inWord Char.isAlphanum Char.isAlpha Char.isUpper Char.isLower Char.isDigit at h
  simp only [Bool.or_eq_true, Bool.and_eq_true, decide_eq_true_eq, beq_iff_eq,
    UInt32.le_iff_toNat_le] at h
  rcases h with (((⟨-, h⟩ | ⟨-, h⟩) | ⟨-, h⟩) | rfl) | rfl
  · exact Nat.lt_of_le_of_lt h (by decide)
  · exact Nat.lt_of_le_of_lt h (by decide)
  · exact Nat.lt_of_le_of_lt h (by decide)
  · decide
  · decide

/-! ## Numbers and bytes -/

/-- A number below 2³² is read back from its digits. -/
theorem number?_decimalChars {n : Nat} (hn : n < 0x100000000) :
    number? (Text.decimalChars n) = some n := by
  rw [number?, if_neg, Text.readDecimal?_decimalChars]
  · simp [hn]
  · rintro ⟨hzero, hlong⟩
    rw [Text.head_decimalChars hzero] at hlong
    omega

/-- Bytes are read back from their letters. -/
theorem bytes?_letters (bytes : List UInt8) : bytes? (letters bytes) = some bytes := by
  show (Base64.decode .standard (Jwt.bytesOf (letters bytes))).toOption = _
  rw [letters, Base64.decode_encode]
  rfl

/-- A text of ASCII characters has a byte for each of them. -/
theorem utf8ByteSize_ascii {cs : List Char} (h : ∀ c ∈ cs, c.toNat < 128) :
    (String.ofList cs).utf8ByteSize = cs.length := by
  have hsize : (String.ofList cs).utf8ByteSize = (Jwt.bytesOf cs).length := by
    rw [Jwt.bytesOf, toList_eq_data]
    rfl
  rw [hsize, Jwt.bytesOf_ascii h, List.length_map]

/-! ## Parameters -/

/-- The digest keeps the limits of the format. -/
structure Storable (d : Digest) : Prop where
  cost : allowsCost d.cost
  memory : d.cost.memory < 0x100000000
  passes : d.cost.passes < 0x100000000
  data : d.data.length ≤ 32
  leastSalt : leastSalt ≤ d.salt.length
  mostSalt : (letters d.salt).length ≤ mostSalt
  leastTag : leastTag ≤ d.tag.length
  mostTag : d.tag.length ≤ mostTag

variable {d : Digest}

theorem Storable.lanes (h : d.Storable) : d.cost.lanes < 0x100000000 := by
  have := h.cost
  simp only [allowsCost, Bool.and_eq_true, decide_eq_true_eq] at this
  omega

/-- One parameter. -/
def item (name value : List Char) : List Char := name ++ '=' :: value

/-- The parameters one by one. -/
def items (d : Digest) : List (List Char) :=
  [item ['m'] (Text.decimalChars d.cost.memory), item ['t'] (Text.decimalChars d.cost.passes),
    item ['p'] (Text.decimalChars d.cost.lanes)]
    ++ if d.data.isEmpty then [] else [item ['d', 'a', 't', 'a'] (letters d.data)]

theorem parameters_eq (d : Digest) : d.parameters = [','].intercalate d.items := by
  unfold parameters items
  split_ifs <;> simp [item, List.intercalate_cons_cons]

/-- A parameter is a word for its name and a word for its value. -/
theorem words_of_mem_items {i : List Char} (h : i ∈ d.items) :
    ∃ name value, Word name ∧ Word value ∧ i = item name value := by
  rw [items] at h
  simp only [List.mem_append, List.mem_cons, List.not_mem_nil, or_false] at h
  rcases h with (rfl | rfl | rfl) | h
  · exact ⟨_, _, by decide, word_decimalChars _, rfl⟩
  · exact ⟨_, _, by decide, word_decimalChars _, rfl⟩
  · exact ⟨_, _, by decide, word_decimalChars _, rfl⟩
  · split_ifs at h
    · cases h
    · exact ⟨_, _, by decide, word_letters _, List.mem_singleton.1 h⟩

theorem comma_not_mem_items (d : Digest) : ∀ i ∈ d.items, ',' ∉ i := by
  intro i hi
  obtain ⟨name, value, hname, hvalue, rfl⟩ := words_of_mem_items hi
  simp [item, hname.comma, hvalue.comma]

/-- What stands in the parameters: words, and the signs that name and part them. -/
theorem of_mem_parameters {c : Char} (h : c ∈ d.parameters) :
    c = ',' ∨ c = '=' ∨ inWord c = true := by
  rw [parameters_eq] at h
  rcases Text.of_mem_intercalate h with hsep | ⟨i, hi, hc⟩
  · exact .inl hsep
  · obtain ⟨name, value, hname, hvalue, rfl⟩ := words_of_mem_items hi
    rcases List.mem_append.1 hc with hc | hc
    · exact .inr (.inr (word_iff.1 hname c hc))
    · rcases List.mem_cons.1 hc with hc | hc
      · exact .inr (.inl hc)
      · exact .inr (.inr (word_iff.1 hvalue c hc))

theorem length_decimalChars {n : Nat} (hn : n < 0x100000000) :
    (Text.decimalChars n).length ≤ 10 :=
  (Nat.length_toDigits_le_iff (by omega) (by omega)).2 (by omega)

/-- The parameters are short enough to be read. -/
theorem Storable.parameters_le (h : d.Storable) :
    (String.ofList d.parameters).utf8ByteSize ≤ mostParameters := by
  have hascii : ∀ c ∈ d.parameters, c.toNat < 128 := by
    intro c hc
    rcases of_mem_parameters hc with rfl | rfl | hc
    · decide
    · decide
    · exact toNat_of_inWord hc
  have hm := length_decimalChars h.memory
  have ht := length_decimalChars h.passes
  have hp := length_decimalChars h.lanes
  have hd : (letters d.data).length ≤ 43 := by
    have := h.data
    rw [letters, Base64.length_encode, Base64.encodedLength]
    omega
  rw [utf8ByteSize_ascii hascii, parameters_eq, items, mostParameters]
  split_ifs <;>
    simp only [item, List.cons_append, List.nil_append, List.append_nil, List.append_assoc,
      List.intercalate_cons_cons, List.intercalate_singleton, List.length_append,
      List.length_cons] <;>
    omega

/-! ### One parameter after the other -/

theorem pieces_item {name value : List Char} (hname : Word name) (hvalue : Word value) :
    Text.pieces '=' (item name value) = [name, value] :=
  Text.pieces_pair hname.equals hvalue.equals

/-- Each part of the cost is read under its name. -/
theorem read?_cost (p : Parameters) {n : Nat} (hn : n < 0x100000000) :
    p.read? (item ['m'] (Text.decimalChars n)) = some { p with cost.memory := n } ∧
      p.read? (item ['t'] (Text.decimalChars n)) = some { p with cost.passes := n } ∧
      p.read? (item ['p'] (Text.decimalChars n)) = some { p with cost.lanes := n } := by
  refine ⟨?_, ?_, ?_⟩ <;>
    rw [Parameters.read?, pieces_item (by decide) (word_decimalChars n)] <;>
    show (number? (Text.decimalChars n)).map _ = _ <;>
    rw [number?_decimalChars hn] <;>
    rfl

theorem read?_data (p : Parameters) {bytes : List UInt8} (hb : bytes.length ≤ 32) :
    p.read? (item ['d', 'a', 't', 'a'] (letters bytes)) = some { p with data := bytes } := by
  rw [Parameters.read?, pieces_item (by decide) (word_letters bytes)]
  show (bytesUpTo? 32 (letters bytes)).map _ = _
  rw [bytesUpTo?, bytes?_letters]
  simp [hb]

/-- The parameters are read back. -/
theorem parameters?_parameters (h : d.Storable) :
    parameters? d.parameters = some ⟨d.cost, d.data⟩ := by
  have hne : d.items ≠ [] := by simp [items]
  rw [parameters?, if_neg (Nat.not_lt.2 h.parameters_le), parameters_eq,
    Text.pieces_intercalate (comma_not_mem_items d) hne, items]
  simp only [List.foldlM_append, List.foldlM_cons, List.foldlM_nil, (read?_cost _ h.memory).1,
    (read?_cost _ h.passes).2.1, (read?_cost _ h.lanes).2.2, bind, Option.bind_some, pure]
  by_cases hdata : d.data = []
  · simp [hdata]
  · simp [hdata, read?_data _ h.data]

/-! ## The text -/

/-- The fields between the dollar signs, behind the first of them. -/
def fields (d : Digest) : List (List Char) :=
  [(variantName d.variant).toList, 'v' :: '=' :: Text.decimalChars d.version.number, d.parameters,
    letters d.salt, letters d.tag]

theorem toList_text (d : Digest) : d.text.toList = ['$'].intercalate ([] :: d.fields) := by
  simp [text, header, fields, List.intercalate_cons_cons, String.toList_ofList]

theorem dollar_not_mem_fields (d : Digest) : ∀ f ∈ [] :: d.fields, '$' ∉ f := by
  have hname : '$' ∉ (variantName d.variant).toList := by
    cases d.variant <;> decide
  have hparameters : '$' ∉ d.parameters := by
    intro hmem
    rcases of_mem_parameters hmem with h | h | h
    · cases h
    · cases h
    · revert h; decide
  simp [fields, hname, hparameters, (word_letters _).dollar, (word_decimalChars _).dollar]

theorem variantOfName?_variantName (v : Argon2.Variant) :
    variantOfName? (variantName v).toList = some v := by
  cases v <;> rfl

theorem versionOfNumber?_number (v : Argon2.Version) : versionOfNumber? v.number = some v := by
  cases v <;> rfl

theorem saltAndTag?_letters (h : d.Storable) :
    saltAndTag? [letters d.salt, letters d.tag] = some (d.salt, d.tag) := by
  simp only [saltAndTag?, bytes?_letters, bind, Option.bind_some]
  rw [if_pos ⟨h.mostSalt, h.leastSalt, h.leastTag, h.mostTag⟩]

/-- **A digest within the limits of the format is read back from its text.** -/
theorem ofText?_text (h : d.Storable) : ofText? d.text = some d := by
  have hpieces : Text.pieces '$' d.text.toList = [] :: d.fields := by
    rw [toList_text, Text.pieces_intercalate (dollar_not_mem_fields d) (by simp)]
  have hequals : '=' ∈ d.parameters := by
    simp [parameters_eq, items, item, List.intercalate_cons_cons]
  have hversion : d.version.number < 0x100000000 := by cases d.version <;> decide
  rw [ofText?, hpieces, fields]
  simp only [variantOfName?_variantName, Option.bind_some, ofVersion?, versionField?,
    if_neg (word_decimalChars _).comma, number?_decimalChars hversion, versionOfNumber?_number,
    bind, ofFields?, if_pos hequals, parameters?_parameters h, Option.map_some,
    saltAndTag?_letters h, if_pos h.cost]

end Digest

/-! ## Fresh digests -/

namespace Password

open Digest

theorem tag_digest (password : String) (salt : List UInt8) :
    (digest password salt).tag = Argon2.tag standard password.toUTF8.toList salt := rfl

theorem storable_digest (password : String) {salt : List UInt8} (hs : salt.length = saltLength) :
    (digest password salt).Storable where
  cost := show allowsCost standardCost by decide
  memory := show standardCost.memory < 0x100000000 by decide
  passes := show standardCost.passes < 0x100000000 by decide
  data := Nat.zero_le _
  leastSalt := by simp [digest, hs, saltLength, Digest.leastSalt]
  mostSalt := by
    rw [letters, Base64.length_encode]
    simp [digest, hs, saltLength, Base64.encodedLength, Digest.mostSalt]
  leastTag := by simp [digest, Argon2.length_tag, standard, tagLength, Digest.leastTag]
  mostTag := by simp [digest, Argon2.length_tag, standard, tagLength, Digest.mostTag]

/-- A fresh digest is read back from the text that is stored. -/
theorem ofText?_hash (password : String) {salt : List UInt8} (hs : salt.length = saltLength) :
    ofText? (hash password salt) = some (digest password salt) :=
  ofText?_text (storable_digest password hs)

theorem tagOf_digest (password other : String) (salt : List UInt8) :
    (digest password salt).tagOf other = Argon2.tag standard other.toUTF8.toList salt := by
  rw [tagOf, setting_digest]
  rfl

theorem fits_iff {password : String} : fits password ↔ password.utf8ByteSize < 0x100000000 := by
  rw [fits, decide_eq_true_iff, mostBytes]
  exact Nat.lt_succ_iff.symm

/-- A fresh digest matches the passwords that have its tag under its salt, and no others. -/
theorem verify_hash_iff (password other : String) {salt : List UInt8}
    (hs : salt.length = saltLength) :
    verify other (hash password salt) ↔ other.utf8ByteSize < 0x100000000 ∧
      Argon2.tag standard other.toUTF8.toList salt =
        Argon2.tag standard password.toUTF8.toList salt := by
  rw [verify, ofText?_hash password hs]
  simp only [Bool.and_eq_true, beq_iff_eq, fits_iff, tagOf_digest, tag_digest]

/-- **A fresh digest verifies its password.** A password below 2³² bytes is hashed under any salt
    of 16 bytes. The stored text is read back as Argon2id, version 19, 19 MiB, two passes, one
    lane, the salt, and the tag of the password; so the password matches. Another password matches
    if and only if it fits and has the same tag under that salt. -/
theorem tryHash_verifies {password : String} (hp : password.utf8ByteSize < 0x100000000)
    {salt : List UInt8} (hs : salt.length = saltLength) :
    ∃ stored, tryHash password salt = .ok stored ∧
      ofText? stored = some
        { variant := .id, version := .v19, cost := ⟨19456, 2, 1⟩, data := [], salt := salt,
          tag := Argon2.tag standard password.toUTF8.toList salt } ∧
      verify password stored ∧
      ∀ other, verify other stored ↔ other.utf8ByteSize < 0x100000000 ∧
        Argon2.tag standard other.toUTF8.toList salt =
          Argon2.tag standard password.toUTF8.toList salt := by
  have hfresh : tryHash password salt = .ok (hash password salt) := if_pos (fits_iff.2 hp)
  have hothers := fun other => verify_hash_iff password other hs
  exact ⟨hash password salt, hfresh, ofText?_hash password hs, (hothers password).2 ⟨hp, rfl⟩,
    hothers⟩

theorem my_secure_password_verifies :
    "my_secure_password".utf8ByteSize < 0x100000000 ∧
      (List.replicate 16 (7 : UInt8)).length = saltLength ∧
      ∃ stored, tryHash "my_secure_password" (List.replicate 16 7) = .ok stored ∧
        verify "my_secure_password" stored := by
  have hp : "my_secure_password".utf8ByteSize < 0x100000000 := by decide
  have hs : (List.replicate 16 (7 : UInt8)).length = saltLength := rfl
  obtain ⟨stored, hfresh, -, hverify, -⟩ := tryHash_verifies hp hs
  exact ⟨hp, hs, stored, hfresh, hverify⟩

end Password

end Gatehouse
