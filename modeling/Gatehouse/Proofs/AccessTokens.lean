/-
  Gatehouse — access tokens of one's own.

  What a signer makes of a token that it signed itself. The token says what the claims say, and
  no more is asked of it than that the claims are for this signer and not over.

  * `Jwt.Signer.open_tokenOf`: a token with any payload is opened as the payload is read;
  * `Jwt.Claims.readAll_render`, `Jwt.Claims.readAll_registered`: the claims are read back from
    what was written of them, and so is what all tokens have in common;
  * `Jwt.Signer.decodes_what_it_signs`: claims that were signed are told apart in a fixed order and
    come back as they were; an issued token is good up to the instant that was given with it.
-/
import Gatehouse.Proofs.JsonRecords

namespace Gatehouse

namespace Json

/-! ## Written values -/

theorem readText_written {t : String} {c c' : Cursor}
    (hpast : c.Past (Jwt.bytesOf (write (.text t))) c') : readText c = .ok (t, c') := by
  rw [write, Record.bytesOf_writeText] at hpast
  obtain ⟨hquote, hnext⟩ := hpast.next
  have hskip := skipSpace_of_head hquote (by decide)
  rw [readText, atValue_of_some (by rw [hskip]; exact hquote), ok_bind, hskip, if_pos hquote]
  exact readString_past (Body.writeText t.toList) hnext

theorem readInt64_written {n : Int} (hn : isInt64 n = true) {c c' : Cursor}
    (hpast : c.Past (Jwt.bytesOf (write (.int n))) c') (hend : NumberEnd c'.rest) :
    readInt64 c = .ok (n, c') := by
  rw [write] at hpast
  exact readInt64_decimal hn hpast hend

namespace Record

variable {σ α β : Type} {r : Record σ α}

/-- A field that is read by a reader takes what is read. -/
theorem takes_of {name : String} {get : σ → Option β} {keep : σ → β → σ} {read : Reader β}
    {default : Option β} {d : σ} {c c' : Cursor} {b : β}
    (hfind : r.fields.find? (·.name = name) = some (.of name get keep read default))
    (hget : get d = none) (hread : read c = .ok (b, c')) : Takes r d name c (keep d b) c' := by
  refine .field hfind ?_ ?_
  · simp [Field.of, hget]
  · simp only [Field.of, hread]
    rfl

end Record

end Json

namespace Jwt

open Json

/-! ## Seconds -/

/-- A number of seconds that counts: a negative number is none. -/
def seconds? (n : Int) : Option Int := if 0 ≤ n then some n else none

/-- A number of 64 bits is one of seconds, unless it is negative. -/
theorem readSeconds_of_readInt64 {n : Int} {c c' : Cursor} (h : readInt64 c = .ok (n, c')) :
    readLeniently Signer.readSeconds c = .ok (seconds? n, c') := by
  obtain ⟨b, x, hb, hkind, hread, hx⟩ := number_of_readInt64 h
  have hnumber : (c.skipSpace.rest.head?.any fun b => b = ascii '-' || (digit? b).isSome) = true
    := by
    rw [hb]
    simpa using hkind
  rcases hx with ⟨k, rfl, rfl, -⟩ | ⟨k, rfl, rfl⟩
  · have hseconds : Signer.readSeconds c = .ok (k, c') := by
      rw [Signer.readSeconds, atValue_of_some hb, ok_bind]
      simp only [hnumber, if_true, hread, ok_bind]
      rfl
    rw [readLeniently, hseconds, seconds?, if_pos (Int.natCast_nonneg k)]
  · obtain ⟨k', ⟨hk', -⟩ | ⟨hk', hne, -⟩⟩ := digits_of_readNumber hread (by simp)
    · cases hk'
    · cases hk'
      -- the fault shows at the end of the number
      have hseconds : ∃ fault, Signer.readSeconds c = .error (c'.here fault) := by
        rw [Signer.readSeconds, atValue_of_some hb, ok_bind]
        simp only [hnumber, if_true, hread, ok_bind]
        exact ⟨_, rfl⟩
      obtain ⟨fault, hseconds⟩ := hseconds
      obtain ⟨s, -, hspace, -⟩ := past_skipSpace c
      have hadvance := (hspace.trans (decimal_of_readInt64 h).2).advance
      rw [readLeniently, hseconds, seconds?, if_neg (by omega)]
      simp only [Cursor.here, hadvance]

theorem readLeniently_of_ok {β : Type} {read : Reader β} {b : β} {c c' : Cursor}
    (h : read c = .ok (b, c')) : readLeniently read c = .ok (some b, c') := by
  rw [readLeniently, h]

/-! ## Claims -/

theorem Claims.strict : record.Strict := by
  intro f hf d c d' c' h
  simp only [record, List.mem_cons, List.not_mem_nil, or_false] at hf
  rcases hf with rfl | rfl | rfl | rfl | rfl | rfl | rfl <;> obtain ⟨b, h, -⟩ := Record.read_of h
  · exact (skipValue_of_readText h).1
  · exact (skipValue_of_readText h).1
  · exact (skipValue_of_readText h).1
  · exact (skipValue_of_readText h).1
  · exact (skipValue_of_readText h).1
  · exact skipValue_of_readInt64 h
  · exact skipValue_of_readInt64 h

theorem length_of_readLeniently {β : Type} {read : Reader β}
    (hread : ∀ {b c c'}, read c = .ok (b, c') → c'.rest.length ≤ c.rest.length) {b : Option β}
    {c c' : Cursor} (h : readLeniently read c = .ok (b, c')) : c'.rest.length ≤ c.rest.length := by
  rw [readLeniently] at h
  split at h
  · rename_i hok
    cases h
    exact hread hok
  · cases h
    simp only [Cursor.advance, List.length_drop]
    omega

/-- A number of seconds that is read is passed over. -/
theorem skipValue_of_readSeconds {n : Int} {c c' : Cursor}
    (h : Signer.readSeconds c = .ok (n, c')) : skipValue c = .ok c' := by
  rw [Signer.readSeconds] at h
  obtain ⟨start, hat, h⟩ := ok_of_bind h
  obtain ⟨rfl, -⟩ := atValue_ok.1 hat
  split_ifs at h with hnumber
  · rw [Option.any_eq_true] at hnumber
    obtain ⟨b, hb, hkind⟩ := hnumber
    obtain ⟨⟨x, after⟩, hread, h⟩ := ok_of_bind h
    cases x with
    | natural k =>
      cases h
      exact (agree_number hb (by simpa using hkind)).ok _ _ hread
    | negative k => cases h
    | real r => cases h

theorem Signer.forward : registeredRecord.Forward := by
  have hseconds : ∀ {n c c'}, readSeconds c = .ok (n, c') → c'.rest.length ≤ c.rest.length :=
    fun h => Record.length_of_skipValue (skipValue_of_readSeconds h)
  have htext : ∀ {t c c'}, readText c = .ok (t, c') → c'.rest.length ≤ c.rest.length :=
    fun h => Record.length_of_skipValue (skipValue_of_readText h).1
  intro f hf d c d' c' h
  simp only [registeredRecord, List.mem_cons, List.not_mem_nil, or_false] at hf
  rcases hf with rfl | rfl | rfl | rfl | rfl <;> obtain ⟨b, h, -⟩ := Record.read_of h
  · exact length_of_readLeniently hseconds h
  · exact length_of_readLeniently hseconds h
  · exact length_of_readLeniently htext h
  · exact length_of_readLeniently htext h
  · exact length_of_readLeniently htext h

/-- The draft of finished claims. -/
def Claims.draft (c : Claims) : Claims.Draft :=
  { sub := some c.sub, email := some c.email, userName := some c.userName, iss := some c.iss,
    aud := some c.aud, iat := some c.iat, exp := some c.exp }

/-- The members of the claims as a document. -/
def Claims.members (c : Claims) : List (String × Doc) :=
  [("sub", .text c.sub), ("email", .text c.email), ("user_name", .text c.userName),
    ("iss", .text c.iss), ("aud", .text c.aud), ("iat", .int c.iat), ("exp", .int c.exp)]

theorem Claims.doc_eq (c : Claims) : c.doc = .object c.members := rfl

/-- Written claims fill the draft of the claims. -/
theorem Claims.fills (c : Claims) (hiat : isInt64 c.iat = true) (hexp : isInt64 c.exp = true) :
    record.Fills {} c.members c.draft := by
  refine .cons (fun _ _ h _ => Record.takes_of rfl rfl (readText_written h)) ?_
  refine .cons (fun _ _ h _ => Record.takes_of rfl rfl (readText_written h)) ?_
  refine .cons (fun _ _ h _ => Record.takes_of rfl rfl (readText_written h)) ?_
  refine .cons (fun _ _ h _ => Record.takes_of rfl rfl (readText_written h)) ?_
  refine .cons (fun _ _ h _ => Record.takes_of rfl rfl (readText_written h)) ?_
  refine .cons (fun _ _ h hend => Record.takes_of rfl rfl (readInt64_written hiat h hend)) ?_
  refine .cons (fun _ _ h hend => Record.takes_of rfl rfl (readInt64_written hexp h hend)) ?_
  exact .nil

/-- What all tokens have in common is filled by written claims, which have more to say. -/
theorem Claims.fills_registered (c : Claims) (hiat : isInt64 c.iat = true)
    (hexp : isInt64 c.exp = true) : Signer.registeredRecord.Fills {} c.members
      { exp := some (seconds? c.exp), sub := some (some c.sub), iss := some (some c.iss),
        aud := some (some c.aud) } := by
  have text : ∀ {t c c'}, Cursor.Past c (bytesOf (write (.text t))) c' →
      readLeniently readText c = .ok (some t, c') :=
    fun h => readLeniently_of_ok (readText_written h)
  refine .cons (fun _ _ h _ => Record.takes_of rfl rfl (text h)) ?_
  refine .cons (fun _ _ h _ => .other rfl (skipValue_of_readText (readText_written h)).1) ?_
  refine .cons (fun _ _ h _ => .other rfl (skipValue_of_readText (readText_written h)).1) ?_
  refine .cons (fun _ _ h _ => Record.takes_of rfl rfl (text h)) ?_
  refine .cons (fun _ _ h _ => Record.takes_of rfl rfl (text h)) ?_
  refine .cons (fun _ _ h hend =>
    .other rfl (skipValue_of_readInt64 (readInt64_written hiat h hend))) ?_
  refine .cons (fun _ _ h hend => Record.takes_of rfl rfl
    (readSeconds_of_readInt64 (readInt64_written hexp h hend))) ?_
  exact .nil

/-- Claims are read back from what was written of them. -/
theorem Claims.readAll_render (c : Claims) (hiat : isInt64 c.iat = true)
    (hexp : isInt64 c.exp = true) :
    readAll record.read c.doc.render.toUTF8.toList = .ok c := by
  rw [toUTF8_toList, Doc.render, String.toList_ofList, doc_eq]
  exact Record.readAll_written strict.forward (c.fills hiat hexp) rfl

/-- The expiry is read back with them, if it counts. -/
theorem Claims.readAll_registered (c : Claims) (hiat : isInt64 c.iat = true)
    (hexp : isInt64 c.exp = true) :
    readAll Signer.registeredRecord.read c.doc.render.toUTF8.toList = .ok (seconds? c.exp) := by
  rw [toUTF8_toList, Doc.render, String.toList_ofList, doc_eq]
  exact Record.readAll_written Signer.forward (c.fills_registered hiat hexp) rfl

/-! ## Tokens -/

namespace Signer

/-- What is signed of a token with this payload. -/
def message (payload : List UInt8) : List Char :=
  base64 headerText.toUTF8.toList ++ '.' :: base64 payload

/-- The token with this payload. -/
def tokenOf (s : Signer) (payload : List UInt8) : String :=
  String.ofList (message payload ++ '.' :: s.signature (message payload))

theorem sign_eq (s : Signer) (c : Claims) : s.sign c = s.tokenOf c.doc.render.toUTF8.toList := rfl

theorem splitLast_append {sep : Char} {l r : List Char} (h : sep ∉ r) :
    Text.splitLast sep (l ++ sep :: r) = some (l, r) := by
  have hnone : ∀ {r : List Char}, sep ∉ r → Text.splitLast sep r = none := by
    intro r h
    induction r with
    | nil => rfl
    | cons c r ih =>
      rw [List.mem_cons, not_or] at h
      rw [Text.splitLast, ih h.2, if_neg (Ne.symm h.1)]
  induction l with
  | nil => rw [List.nil_append, Text.splitLast, hnone h, if_pos rfl]
  | cons c l ih => rw [List.cons_append, Text.splitLast, ih]

theorem readPart_headerText :
    readPart headerRecord.read headerText.toUTF8.toList = .ok algorithm := by
  have h : (readAll headerRecord.read headerText.toUTF8.toList).toOption = some algorithm := by
    decide +kernel
  rw [readPart]
  cases hread : readAll headerRecord.read headerText.toUTF8.toList with
  | error e =>
    rw [hread] at h
    cases h
  | ok name =>
    rw [hread] at h
    cases h
    rfl

theorem decodePart_base64 (bytes : List UInt8) : decodePart (base64 bytes) = .ok bytes := by
  rw [decodePart, base64, Base64.decode_encode]
  rfl

/-- What a payload is read as, in both ways. -/
def readPayload (payload : List Char) : Except Error (Claims × Option Int) := do
  let bytes ← decodePart payload
  let claims ← readPart Claims.record.read bytes
  let expiry ← readPart registeredRecord.read bytes
  return (claims, expiry)

/-- The payload of a token is read if its header and its signature are in order. -/
theorem open_eq {s : Signer} {token : String} {message mark header payload : List Char}
    (hmark : Text.splitLast '.' token.toList = some (message, mark))
    (hpayload : Text.splitLast '.' message = some (header, payload)) :
    s.open? token = (do
      let name ← decodePart header >>= readPart headerRecord.read
      if name ≠ algorithm ∨ mark ≠ s.signature message then .error .invalidSignature
      else readPayload payload) := by
  rw [open?]
  simp only [hmark, hpayload]
  cases decodePart header with
  | error e => rfl
  | ok bytes =>
    rw [ok_bind, ok_bind]
    cases readPart headerRecord.read bytes with
    | error e => rfl
    | ok name =>
      rw [ok_bind, ok_bind]
      by_cases hname : name = algorithm
      · by_cases hsignature : mark = s.signature message
        · simp only [hname, hsignature, ne_eq, not_true_eq_false, or_self, if_false]
          rfl
        · simp only [hname, hsignature, ne_eq, not_true_eq_false, not_false_eq_true, or_true,
            if_true, if_false]
          rfl
      · simp only [hname, ne_eq, not_false_eq_true, true_or, if_true]
        rfl

/-- **A token with any payload is opened as the payload is read.** -/
theorem open_tokenOf (s : Signer) (payload : List UInt8) :
    s.open? (s.tokenOf payload) = readPayload (base64 payload) := by
  have hmark : Text.splitLast '.' (s.tokenOf payload).toList =
      some (message payload, s.signature (message payload)) := by
    rw [tokenOf, String.toList_ofList]
    exact splitLast_append (Base64.dot_not_mem _ _)
  have hpayload : Text.splitLast '.' (message payload) =
      some (base64 headerText.toUTF8.toList, base64 payload) :=
    splitLast_append (Base64.dot_not_mem _ _)
  rw [open_eq hmark hpayload, decodePart_base64, ok_bind, readPart_headerText, ok_bind, if_neg]
  simp

theorem open_sign (s : Signer) (c : Claims) (hiat : isInt64 c.iat = true)
    (hexp : isInt64 c.exp = true) : s.open? (s.sign c) = .ok (c, seconds? c.exp) := by
  rw [sign_eq, open_tokenOf, readPayload, decodePart_base64, ok_bind, readPart,
    c.readAll_render hiat hexp, readPart, c.readAll_registered hiat hexp]
  rfl

/-- What becomes of claims that were signed: the first check that fails decides. -/
def verdict (s : Signer) (c : Claims) (now : Instant) : Except Error Claims :=
  if c.exp < 0 then .error Malformation.noExpiry.error
  else if c.iss ≠ s.issuer then .error .invalidIssuer
  else if c.aud ≠ s.audience then .error .invalidAudience
  else if c.exp ≤ now.seconds then .error .expired
  else .ok c

theorem decode_of_open {s : Signer} {token : String} {c : Claims}
    (h : s.open? token = .ok (c, seconds? c.exp)) (now : Instant) :
    s.decode token now = s.verdict c now := by
  rw [decode, h, ok_bind, verdict]
  have hnone : (seconds? c.exp).isNone = true ↔ c.exp < 0 := by
    rw [seconds?]
    split_ifs with h
    · simp [Int.not_lt.2 h]
    · simp [Int.not_le.1 h]
  simp only [hnone, Claims.isExpired, decide_eq_true_eq]
  split_ifs <;> rfl

theorem decode_sign (s : Signer) (c : Claims) (hiat : isInt64 c.iat = true)
    (hexp : isInt64 c.exp = true) (now : Instant) :
    s.decode (s.sign c) now = s.verdict c now :=
  decode_of_open (s.open_sign c hiat hexp) now

end Signer

/-! ## Issued tokens -/

/-- Some seconds later is within the representable years. -/
theorem inRange_of_addSeconds? {t u : Instant} {n : Nat} (hn : 0 < n)
    (h : t.addSeconds? n = some u) : Instant.inRange u.seconds = true := by
  have hwithin : ∀ {seconds nanos : Int}, Instant.ofNanos? seconds nanos = some u →
      Instant.inRange u.seconds = true := by
    intro seconds nanos h
    rw [Instant.ofNanos?] at h
    simp only [Option.ite_none_right_eq_some, Option.some.injEq] at h
    rw [← h.2]
    exact h.1
  have hwhole : ((n : Int) * Instant.giga).tdiv Instant.giga = n :=
    Int.mul_tdiv_cancel _ (by decide)
  have hpositive : (0 : Int) < n := by omega
  unfold Instant.addSeconds? Instant.add? at h
  split_ifs at h
  · exact hwithin h
  · simp only [hwhole, hpositive, decide_true, Bool.true_or, if_true] at h
    exact hwithin h

theorem isInt64_of_inRange {n : Int} (h : Instant.inRange n = true) : isInt64 n = true := by
  have hrange : Instant.firstSecond ≤ n ∧ n ≤ Instant.lastSecond := by
    simpa [Instant.inRange] using h
  have hfirst : -0x8000000000000000 ≤ Instant.firstSecond := by decide
  have hlast : Instant.lastSecond < 0x8000000000000000 := by decide
  simp only [isInt64, Bool.and_eq_true, decide_eq_true_eq]
  omega

namespace Signer

/-- An issued token is signed claims for this signer, good up to their last second. -/
theorem signed_of_issue {s : Signer} {id email name : String} {issuedAt : Instant}
    {issued : Issued} (hat : Instant.inRange issuedAt.seconds = true)
    (h : s.issue id email name issuedAt = .ok issued) :
    ∃ c : Claims, issued = ⟨s.sign c, ⟨c.exp, 0⟩⟩ ∧ isInt64 c.iat = true ∧ isInt64 c.exp = true ∧
      c.sub = id ∧ c.email = email ∧ c.userName = name ∧ c.iss = s.issuer ∧ c.aud = s.audience := by
  rw [issue] at h
  obtain ⟨c, hc, h⟩ := ok_of_bind h
  cases h
  rw [Claims.forUser] at hc
  split at hc
  · rename_i expiry hexpiry
    cases hc
    have hrange : Instant.inRange expiry.seconds = true :=
      inRange_of_addSeconds? (n := lifetimeSeconds) (by decide) hexpiry
    refine ⟨⟨id, email, name, s.issuer, s.audience, issuedAt.seconds, expiry.seconds⟩, ?_,
      isInt64_of_inRange hat, isInt64_of_inRange hrange, rfl, rfl, rfl, rfl, rfl⟩
    simp only [Claims.expiresAt, Instant.ofSeconds?, hrange, if_true, Option.getD_some]
  · cases hc

/-- The second of an instant decides whether it lies before a full second. -/
theorem lt_second {t : Instant} {n : Int} : t < ⟨n, 0⟩ ↔ t.seconds < n := by
  rw [Instant.lt_iff]
  simp

/-- **What was signed is decoded.** Claims that a signer signed are refused for a negative expiry,
    for a foreign issuer, for a foreign audience or for being over, in this order, and come back as
    they were otherwise. A token that was issued is accepted with what it was issued for exactly
    up to the instant that was given with it. -/
theorem decodes_what_it_signs (s : Signer) :
    (∀ (c : Claims) (now : Instant), isInt64 c.iat = true → isInt64 c.exp = true →
      s.decode (s.sign c) now = s.verdict c now) ∧
    ∀ (id email name : String) (issuedAt : Instant) (issued : Issued),
      Instant.inRange issuedAt.seconds = true → s.issue id email name issuedAt = .ok issued →
      0 ≤ issued.expiresAt.seconds → ∀ t : Instant,
        (∃ who, s.identify issued.token t = .ok who ∧ who.userId = id ∧ who.email = email ∧
          who.userName = name) ↔ t < issued.expiresAt := by
  refine ⟨fun c now hiat hexp => s.decode_sign c hiat hexp now, ?_⟩
  intro id email name issuedAt issued hat hissue hnonneg t
  obtain ⟨c, rfl, hiat, hexp, rfl, rfl, rfl, hiss, haud⟩ := signed_of_issue hat hissue
  have hdecode : s.decode (s.sign c) t = if c.exp ≤ t.seconds then .error .expired else .ok c := by
    rw [s.decode_sign c hiat hexp, verdict, if_neg (Int.not_lt.2 hnonneg), if_neg (not_not.2 hiss),
      if_neg (not_not.2 haud)]
  rw [lt_second, identify, hdecode]
  by_cases hover : c.exp ≤ t.seconds
  · rw [if_pos hover]
    refine ⟨fun ⟨who, hwho, _⟩ => (by cases hwho), fun h => absurd h (Int.not_lt.2 hover)⟩
  · rw [if_neg hover]
    exact ⟨fun _ => Int.not_le.1 hover, fun _ => ⟨_, rfl, rfl, rfl, rfl⟩⟩

/-- A signer, and claims for it that are over at the second 900. -/
def clerk : Signer := ⟨[0x6B, 0x65, 0x79], "session-service", "session-clients"⟩

def badge : Claims :=
  ⟨"u1", "a@example.com", "A\u00E9\n", "session-service", "session-clients", 0, 900⟩

theorem decodes_badge :
    isInt64 badge.iat = true ∧ isInt64 badge.exp = true ∧
      clerk.decode (clerk.sign badge) ⟨899, 999999999⟩ = .ok badge ∧
      clerk.decode (clerk.sign badge) ⟨900, 0⟩ = .error .expired ∧
      clerk.issue "u1" "a@example.com" "A\u00E9\n" ⟨0, 5⟩ = .ok ⟨clerk.sign badge, ⟨900, 0⟩⟩ ∧
      (∃ who, clerk.identify (clerk.sign badge) ⟨899, 999999999⟩ = .ok who ∧ who.userId = "u1" ∧
        who.email = "a@example.com" ∧ who.userName = "A\u00E9\n") := by
  have hiat : isInt64 badge.iat = true := by decide
  have hexp : isInt64 badge.exp = true := by decide
  have hissue : clerk.issue "u1" "a@example.com" "A\u00E9\n" ⟨0, 5⟩ =
      .ok ⟨clerk.sign badge, ⟨900, 0⟩⟩ := rfl
  obtain ⟨hdecode, hidentify⟩ := decodes_what_it_signs clerk
  refine ⟨hiat, hexp, ?_, ?_, hissue, ?_⟩
  · rw [hdecode badge _ hiat hexp]
    rfl
  · rw [hdecode badge _ hiat hexp]
    rfl
  · exact (hidentify _ _ _ ⟨0, 5⟩ _ (by decide) hissue (by decide) _).2 (by decide)

end Signer

end Jwt

end Gatehouse
