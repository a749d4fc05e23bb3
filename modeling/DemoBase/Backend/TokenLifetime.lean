import DemoBase.Backend.TokenService

/-!
Owns the exact lifetime of an access token: from which microsecond on
`verify_token` rejects what `create_access_token` minted, for every lifetime the
configuration may hold, zero and negative ones included.
-/

set_option autoImplicit false

namespace DemoBase.Backend

/-- The last whole second that is not after the instant. -/
def wholeSecond (instant : Instant) : Instant :=
  instant / microsecondsPerSecond * microsecondsPerSecond

namespace TokenService

variable {self : TokenService}

/-- The expiry is compared as whole seconds, the instants it is compared with are
not. -/
theorem rejectedFrom_eq_wholeSecond (self : TokenService) (mintedAt : Instant) :
    self.rejectedFrom mintedAt =
      wholeSecond (mintedAt + self.jwtConfig.accessTokenExpireMinutes * microsecondsPerMinute) :=
  rfl

/-- A minted token is rejected from its whole second of expiry on, and rejected
then means `None`. -/
theorem verifyToken_eq_none_iff (documented : self.jwt.Documented) {email : String}
    {role : UserRole} {token : String} {mintedAt : Instant}
    (minted : self.createAccessToken ⟨some email, some role⟩ mintedAt = .ok token)
    (now : Instant) :
    self.verifyToken token now = .ok none ↔ self.rejectedFrom mintedAt ≤ now := by
  rw [verifyToken_createAccessToken documented minted now]
  by_cases early : now < self.rejectedFrom mintedAt
  · rw [if_pos early]
    exact iff_of_false (by simp) (not_le.mpr early)
  · rw [if_neg early]
    exact iff_of_true rfl (not_lt.mp early)

/-- Minting returns a token; verifying it returns its email and role strictly
before the whole second of its expiry and `None` from then on, and a rejected
token stays rejected. -/
theorem createAccessToken_lifetime (self : TokenService) (documented : self.jwt.Documented)
    (email : String) (role : UserRole) (mintedAt : Instant) :
    ∃ token, self.createAccessToken ⟨some email, some role⟩ mintedAt = .ok token ∧
      (∀ now, self.verifyToken token now =
        if now < wholeSecond
            (mintedAt + self.jwtConfig.accessTokenExpireMinutes * microsecondsPerMinute)
        then .ok (some ⟨some email, some role⟩) else .ok none) ∧
      ∀ rejectedAt later, rejectedAt ≤ later → self.verifyToken token rejectedAt = .ok none →
        self.verifyToken token later = .ok none := by
  obtain ⟨token, minted⟩ :
      ∃ token, self.createAccessToken ⟨some email, some role⟩ mintedAt = .ok token := ⟨_, rfl⟩
  refine ⟨token, minted, ?_, ?_⟩
  · intro now
    rw [← self.rejectedFrom_eq_wholeSecond mintedAt]
    exact verifyToken_createAccessToken documented minted now
  · intro rejectedAt later order rejected
    rw [verifyToken_eq_none_iff documented minted] at rejected ⊢
    exact rejected.trans order

/-- A token of a service whose lifetime is negative is rejected when it is minted. -/
theorem createAccessToken_lifetime_negative :
    ∃ token, (TokenService.mk referenceJWT ⟨"secret", "HS256", -1⟩).createAccessToken
        ⟨some "user@example.com", some .user⟩ 500000 = .ok token ∧
      (TokenService.mk referenceJWT ⟨"secret", "HS256", -1⟩).verifyToken token 500000 =
        .ok none := by
  obtain ⟨token, minted, verified, -⟩ :=
    createAccessToken_lifetime (TokenService.mk referenceJWT ⟨"secret", "HS256", -1⟩)
      referenceJWT_documented "user@example.com" .user 500000
  exact ⟨token, minted, (verified 500000).trans (if_neg (by decide))⟩

end TokenService

end DemoBase.Backend
