/-
  Gatehouse — the expiry of an accepted token.

  A token is refused by the second of its expiry as a number, and its bearer is told the expiry as
  an instant. The years that an instant can have end; a number of 64 bits goes on.

  * `Jwt.Claims.expiresAt_eq`: an expiry that counts is told as it is up to the last second of the
    last year, and as the earliest instant beyond it;
  * `Jwt.Signer.ahead_of_issue`: what is told of a token that was issued lies ahead;
  * `Jwt.Signer.expiry_ahead_iff`: what is told of an accepted token lies ahead exactly if its
    expiry is not beyond the last second, and every signer accepts tokens that are beyond it.
-/
import Gatehouse.Proofs.Acceptance

namespace Gatehouse

namespace Jwt

open Json

/-! ## The expiry that is told -/

theorem inRange_iff {second : Int} :
    Instant.inRange second = true ↔ Instant.firstSecond ≤ second ∧ second ≤ Instant.lastSecond := by
  simp [Instant.inRange]

/-- No instant of a representable year lies before the earliest. -/
theorem not_lt_earliest {now : Instant} (hnow : Instant.inRange now.seconds = true) :
    ¬ now < Instant.earliest := by
  rw [Instant.earliest, Signer.lt_second]
  exact Int.not_lt.2 (inRange_iff.1 hnow).1

namespace Claims

/-- The year of the expiry that is told is representable, whatever the claims say. -/
theorem inRange_expiresAt (c : Claims) : Instant.inRange c.expiresAt.seconds = true := by
  rw [expiresAt, Instant.ofSeconds?]
  split_ifs with hrange
  · exact hrange
  · decide

/-- An expiry that is not negative is told as it is, or as the earliest instant if it is too late
    for an instant. -/
theorem expiresAt_eq {c : Claims} (hnonneg : 0 ≤ c.exp) :
    c.expiresAt = if c.exp ≤ Instant.lastSecond then ⟨c.exp, 0⟩ else Instant.earliest := by
  have hfirst : Instant.firstSecond ≤ c.exp := Int.le_trans (by decide) hnonneg
  rw [expiresAt, Instant.ofSeconds?]
  simp only [inRange_iff, hfirst, true_and]
  split_ifs
  · rfl
  · rfl

end Claims

namespace Signer

/-! ## Accepted tokens -/

/-- The expiry of claims that are accepted counts. -/
theorem nonneg_of_decode {s : Signer} {token : String} {now : Instant} {c : Claims}
    (h : s.decode token now = .ok c) : 0 ≤ c.exp := by
  obtain ⟨expiry, hopen, -⟩ := checked_of_decode h
  obtain ⟨-, -, bytes, -, -, -, -, hclaims, hregistered⟩ := parts_of_open hopen
  obtain ⟨hexpiry, -⟩ := Claims.spelled hclaims hregistered
  rw [seconds?] at hexpiry
  split_ifs at hexpiry with hnonneg
  exact hnonneg

/-- The bearer of an accepted token is told what its claims say. -/
theorem claims_of_identify {s : Signer} {token : String} {now : Instant} {who : Identity}
    (h : s.identify token now = .ok who) :
    ∃ c, s.decode token now = .ok c ∧ who = ⟨c.sub, c.email, c.userName, c.expiresAt⟩ := by
  rw [identify] at h
  obtain ⟨c, hdecode, h⟩ := ok_of_bind h
  cases h
  exact ⟨c, hdecode, rfl⟩

/-- **What is told of a token that was issued lies ahead**, and is what was told with the token. -/
theorem ahead_of_issue {s : Signer} {id email name : String} {issuedAt now : Instant}
    {issued : Issued} {who : Identity} (hat : Instant.inRange issuedAt.seconds = true)
    (hissue : s.issue id email name issuedAt = .ok issued)
    (hwho : s.identify issued.token now = .ok who) :
    who.expiresAt = issued.expiresAt ∧ now < who.expiresAt := by
  have hrange : Instant.inRange issued.expiresAt.seconds = true := by
    rw [issue] at hissue
    obtain ⟨c, -, hissue⟩ := ok_of_bind hissue
    cases hissue
    exact Claims.inRange_expiresAt _
  obtain ⟨c, rfl, hiat, hexp, -⟩ := signed_of_issue hat hissue
  obtain ⟨c', hdecode, rfl⟩ := claims_of_identify hwho
  obtain ⟨_, hopen, -, -, hahead⟩ := checked_of_decode hdecode
  obtain rfl : c = c' := by
    rw [open_sign s c hiat hexp] at hopen
    exact (Prod.mk.inj (Except.ok.inj hopen)).1
  have htold : c.expiresAt = ⟨c.exp, 0⟩ := by
    rw [Claims.expiresAt, Instant.ofSeconds?, if_pos hrange, Option.getD_some]
  exact ⟨htold, by rw [htold, lt_second]; exact hahead⟩

/-- **What is told of an accepted token lies ahead exactly up to the last representable second.**
    A token whose expiry is beyond that second is accepted at every instant, and its bearer is told
    that it ended with the earliest one. -/
theorem expiry_ahead_iff (s : Signer) (now : Instant)
    (hnow : Instant.inRange now.seconds = true) :
    (∀ token who, s.identify token now = .ok who → ∃ c, s.decode token now = .ok c ∧
      who = ⟨c.sub, c.email, c.userName, c.expiresAt⟩ ∧ now.seconds < c.exp ∧
      who.expiresAt = (if c.exp ≤ Instant.lastSecond then ⟨c.exp, 0⟩ else Instant.earliest) ∧
      (now < who.expiresAt ↔ c.exp ≤ Instant.lastSecond)) ∧
    ∀ c : Claims, isInt64 c.iat = true → isInt64 c.exp = true → c.iss = s.issuer →
      c.aud = s.audience → Instant.lastSecond < c.exp →
      s.identify (s.sign c) now = .ok ⟨c.sub, c.email, c.userName, Instant.earliest⟩ := by
  constructor
  · intro token who hwho
    obtain ⟨c, hdecode, rfl⟩ := claims_of_identify hwho
    obtain ⟨-, -, -, -, hahead⟩ := checked_of_decode hdecode
    have htold := Claims.expiresAt_eq (nonneg_of_decode hdecode)
    refine ⟨c, hdecode, rfl, hahead, htold, ?_⟩
    simp only [htold]
    split_ifs with hlast
    · simpa [lt_second, hlast] using hahead
    · simpa [hlast] using not_lt_earliest hnow
  · intro c hiat hexp hiss haud hlast
    have hlater : now.seconds < c.exp := Int.lt_of_le_of_lt (inRange_iff.1 hnow).2 hlast
    have hnonneg : 0 ≤ c.exp := Int.le_trans (by decide) (Int.le_of_lt hlast)
    have hdecode : s.decode (s.sign c) now = .ok c := by
      rw [s.decode_sign c hiat hexp, verdict, if_neg (Int.not_lt.2 hnonneg),
        if_neg (not_not.2 hiss), if_neg (not_not.2 haud), if_neg (Int.not_le.2 hlater)]
    have htold := Claims.expiresAt_eq hnonneg
    rw [if_neg (Int.not_le.2 hlast)] at htold
    rw [identify, hdecode, ← htold]
    rfl

/-- A badge for ever and a day. -/
def pass : Claims := { badge with exp := 9000000000000000 }

/-- A badge is told to end ahead, and a pass to have ended. -/
theorem expiry_ahead_iff_badge :
    Instant.inRange (⟨1, 5⟩ : Instant).seconds = true ∧
      (∃ who, clerk.identify (clerk.sign badge) ⟨1, 5⟩ = .ok who ∧
        (⟨1, 5⟩ : Instant) < who.expiresAt) ∧
      clerk.identify (clerk.sign pass) ⟨1, 5⟩ =
        .ok ⟨"u1", "a@example.com", "A\u00E9\n", Instant.earliest⟩ := by
  have hnow : Instant.inRange (⟨1, 5⟩ : Instant).seconds = true := by decide
  have hdecode : clerk.decode (clerk.sign badge) ⟨1, 5⟩ = .ok badge := by
    rw [clerk.decode_sign badge (by decide) (by decide)]
    rfl
  have hwho : clerk.identify (clerk.sign badge) ⟨1, 5⟩ =
      .ok ⟨badge.sub, badge.email, badge.userName, badge.expiresAt⟩ := by
    rw [identify, hdecode]
    rfl
  obtain ⟨htold, hbeyond⟩ := expiry_ahead_iff clerk ⟨1, 5⟩ hnow
  refine ⟨hnow, ⟨_, hwho, ?_⟩, hbeyond pass (by decide) (by decide) rfl rfl (by decide)⟩
  obtain ⟨c, hc, -, -, -, hiff⟩ := htold _ _ hwho
  cases hdecode.symm.trans hc
  exact hiff.2 (by decide)

/-- What is told of an accepted token need not lie ahead. -/
theorem accepted_as_ended :
    clerk.identify (clerk.sign pass) ⟨1772352000, 0⟩ =
        .ok ⟨"u1", "a@example.com", "A\u00E9\n", Instant.earliest⟩ ∧
      ¬ (⟨1772352000, 0⟩ : Instant) < Instant.earliest := by
  have hdecode : clerk.decode (clerk.sign pass) ⟨1772352000, 0⟩ = .ok pass := by
    rw [clerk.decode_sign pass (by decide) (by decide)]
    rfl
  refine ⟨?_, by decide⟩
  rw [identify, hdecode]
  rfl

end Signer

end Jwt

end Gatehouse
