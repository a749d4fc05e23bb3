import DemoBase.Backend.AuthMiddleware

/-!
Owns how the decision of `AuthMiddleware.dispatch` depends on the list of
access rules: what inserting one entry changes, and what the order of the
entries changes. Both come from one fact, that the first of the longest
matching entries is consulted and no other.
-/

set_option autoImplicit false

namespace DemoBase.Backend

open DemoBase.Foundations.KeyedRows DemoBase.Foundations.Selection

/-- The middleware of one rule list. -/
abbrev middlewareWith (tokenService : TokenService) (pathAccess : List PathAccessConfig) :
    AuthMiddleware :=
  ⟨⟨pathAccess⟩, tokenService⟩

/-! ### Selection -/

/-- `entry` matches the path and no matching entry of the list is longer. -/
def LongestMatch (pathAccess : List PathAccessConfig) (requestPath : String)
    (entry : PathAccessConfig) : Prop :=
  entry ∈ pathAccess ∧ pathMatches requestPath entry.path = true ∧
    ∀ other ∈ pathAccess, pathMatches requestPath other.path = true →
      other.path.length ≤ entry.path.length

/-- An entry listed between `before` and `after` is the one consulted for the
path: it matches, it is longer than every matching entry before it and at least
as long as every matching entry after it. -/
def Overrides (before : List PathAccessConfig) (entry : PathAccessConfig)
    (after : List PathAccessConfig) (requestPath : String) : Prop :=
  pathMatches requestPath entry.path = true ∧
    (∀ other ∈ before, pathMatches requestPath other.path = true →
      other.path.length < entry.path.length) ∧
    ∀ other ∈ after, pathMatches requestPath other.path = true →
      other.path.length ≤ entry.path.length

theorem longestMatch_of_selected {pathAccess : List PathAccessConfig} {requestPath : String}
    {entry : PathAccessConfig}
    (selected : findMatchingPathConfig pathAccess requestPath = some entry) :
    LongestMatch pathAccess requestPath entry := by
  rcases isMax_of_argmax selected with ⟨member, longest⟩
  rw [List.mem_filter] at member
  exact ⟨member.1, member.2, fun other otherMember otherMatches =>
    longest other (List.mem_filter.mpr ⟨otherMember, otherMatches⟩)⟩

/-- Any longest match can be made the consulted entry by listing it first. -/
theorem exists_perm_selects {pathAccess : List PathAccessConfig} {requestPath : String}
    {entry : PathAccessConfig} (longest : LongestMatch pathAccess requestPath entry) :
    ∃ reordered, reordered.Perm pathAccess ∧
      findMatchingPathConfig reordered requestPath = some entry := by
  obtain ⟨member, isMatch, upper⟩ := longest
  refine ⟨entry :: pathAccess.erase entry, (List.perm_cons_erase member).symm, ?_⟩
  unfold findMatchingPathConfig
  rw [List.filter_cons, if_pos isMatch]
  apply argmax_cons_of_max
  intro other otherMember
  rw [List.mem_filter] at otherMember
  exact upper other (List.mem_of_mem_erase otherMember.1) otherMember.2

/-- Inserting an entry consults it exactly when it overrides its surroundings,
and otherwise changes nothing. -/
theorem findMatchingPathConfig_insert (before after : List PathAccessConfig)
    (entry : PathAccessConfig) (requestPath : String) :
    (Overrides before entry after requestPath →
        findMatchingPathConfig (before ++ entry :: after) requestPath = some entry) ∧
      (¬ Overrides before entry after requestPath →
        findMatchingPathConfig (before ++ entry :: after) requestPath =
          findMatchingPathConfig (before ++ after) requestPath) := by
  unfold findMatchingPathConfig
  rw [List.filter_append, List.filter_append]
  by_cases isMatch : pathMatches requestPath entry.path = true
  · rw [List.filter_cons, if_pos isMatch]
    constructor
    · intro overrides
      apply argmax_insert_of_beats
      exact ⟨fun other member => overrides.2.1 other (List.mem_of_mem_filter member)
          (List.mem_filter.mp member).2,
        fun other member => overrides.2.2 other (List.mem_of_mem_filter member)
          (List.mem_filter.mp member).2⟩
    · intro keeps
      apply argmax_insert_of_not_beats
      intro beats
      exact keeps ⟨isMatch,
        fun other member otherMatches =>
          beats.1 other (List.mem_filter.mpr ⟨member, otherMatches⟩),
        fun other member otherMatches =>
          beats.2 other (List.mem_filter.mpr ⟨member, otherMatches⟩)⟩
  · rw [List.filter_cons, if_neg isMatch]
    exact ⟨fun overrides => absurd overrides.1 isMatch, fun _ => rfl⟩

/-! ### Inserting a rule -/

/-- A request without an `Authorization` header that is refused under a rule
list stays refused when an entry is inserted anywhere, unless that entry becomes
the consulted one and does not list the method: then the request is forwarded. -/
theorem dispatch_insert (tokenService : TokenService) (before after : List PathAccessConfig)
    (entry : PathAccessConfig) (request : Request) (now : Instant) (detail : String)
    (noHeader : request.authorization = none)
    (refused : (middlewareWith tokenService (before ++ after)).dispatch request now =
      .ok (.unauthorized detail)) :
    (¬ (Overrides before entry after request.path ∧ ¬ entry.Lists request) →
        (middlewareWith tokenService (before ++ entry :: after)).dispatch request now =
          .ok (.unauthorized detail)) ∧
      (Overrides before entry after request.path ∧ ¬ entry.Lists request →
        (middlewareWith tokenService (before ++ entry :: after)).dispatch request now =
          .ok (.forward none)) := by
  have noToken : extractTokenFromHeader request = none := by
    unfold extractTokenFromHeader
    rw [noHeader]
  have selection := findMatchingPathConfig_insert before after entry request.path
  rw [AuthMiddleware.dispatch_of_no_token noToken] at refused ⊢
  by_cases overrides : Overrides before entry after request.path
  · rw [selection.1 overrides]
    by_cases listed : entry.Lists request
    · have sameDetail : detail = "Authentication required" := by
        split at refused
        · cases refused
        · split at refused <;> cases refused
          rfl
      simp [listed, sameDetail]
    · simp [listed, overrides]
  · rw [selection.2 overrides, refused]
    exact ⟨fun _ => rfl, fun opens => absurd opens.1 overrides⟩

private def postOwnUser : Request where
  method := "POST"
  path := "/api/v1/users/me"

theorem dispatch_insert_usersRule :
    (middlewareWith referenceTokenService ([usersMeRule] ++ usersRule :: [])).dispatch
        { postOwnUser with method := "GET" } 0 =
      .ok (.unauthorized "Authentication required") :=
  (dispatch_insert referenceTokenService [usersMeRule] [] usersRule
    { postOwnUser with method := "GET" } 0 "Authentication required" rfl (by decide)).1
    (by
      rintro ⟨-, unlisted⟩
      exact unlisted (by decide))

/-- `POST /api/v1/users/me` is protected by the rule for `/api/v1/users` and is
no longer protected once the rule for `/api/v1/users/me` is added. -/
theorem dispatch_insert_opens :
    ¬ ∀ (tokenService : TokenService) (before after : List PathAccessConfig)
        (entry : PathAccessConfig) (request : Request) (now : Instant),
        request.authorization = none →
        (∃ detail, (middlewareWith tokenService (before ++ after)).dispatch request now =
          .ok (.unauthorized detail)) →
        ∃ detail, (middlewareWith tokenService (before ++ entry :: after)).dispatch request now =
          .ok (.unauthorized detail) := by
  intro stays
  have opened : (middlewareWith referenceTokenService ([] ++ usersMeRule :: [usersRule])).dispatch
      postOwnUser 0 = .ok (.forward none) := by decide
  obtain ⟨detail, refused⟩ := stays referenceTokenService [] [usersRule] usersMeRule postOwnUser 0 rfl
    ⟨"Authentication required", by decide⟩
  rw [opened] at refused
  cases refused

/-! ### Reordering the rules -/

theorem LongestMatch.of_perm {left right : List PathAccessConfig} (reordered : left.Perm right)
    {requestPath : String} {entry : PathAccessConfig}
    (longest : LongestMatch left requestPath entry) : LongestMatch right requestPath entry :=
  ⟨reordered.mem_iff.mp longest.1, longest.2.1,
    fun other member => longest.2.2 other (reordered.mem_iff.mpr member)⟩

theorem findMatchingPathConfig_eq_none {pathAccess : List PathAccessConfig} {requestPath : String} :
    findMatchingPathConfig pathAccess requestPath = none ↔
      ∀ entry ∈ pathAccess, ¬ pathMatches requestPath entry.path = true := by
  unfold findMatchingPathConfig
  rw [List.argmax_eq_none, List.filter_eq_nil_iff]

/-- The verified token data does not depend on the rules, so it may have been
read under any other list. -/
theorem dispatch_of_selected {tokenService : TokenService} {anyList pathAccess : List PathAccessConfig}
    {request : Request} {now : Instant} {tokenData : Option TokenData} {rule : PathAccessConfig}
    (verified : (middlewareWith tokenService anyList).userTokenData request now = .ok tokenData)
    (selected : findMatchingPathConfig pathAccess request.path = some rule) :
    (middlewareWith tokenService pathAccess).dispatch request now =
      .ok (enforce request (extractTokenFromHeader request) tokenData rule) := by
  have sameData : (middlewareWith tokenService pathAccess).userTokenData request now =
      .ok tokenData := verified
  unfold AuthMiddleware.dispatch
  simp only [sameData, selected]

theorem isPrefix_of_pathMatches {requestPath configuredPath : String}
    (isMatch : pathMatches requestPath configuredPath = true) :
    configuredPath.toList <+: requestPath.toList := by
  unfold pathMatches at isMatch
  rcases Bool.or_eq_true _ _ ▸ isMatch with same | continued
  · rw [eq_of_beq same]
  · have boundary : (configuredPath ++ "/").toList <+: requestPath.toList :=
      List.isPrefixOf_iff_prefix.mp continued
    rw [String.toList_append] at boundary
    exact (List.prefix_append _ _).trans boundary

/-- Two longest matches of one path are two rules for one path string. -/
theorem LongestMatch.path_eq {pathAccess : List PathAccessConfig} {requestPath : String}
    {left right : PathAccessConfig} (leftLongest : LongestMatch pathAccess requestPath left)
    (rightLongest : LongestMatch pathAccess requestPath right) : left.path = right.path := by
  have leftPrefix := isPrefix_of_pathMatches leftLongest.2.1
  have rightPrefix := isPrefix_of_pathMatches rightLongest.2.1
  have sameLength : left.path.length = right.path.length :=
    le_antisymm (rightLongest.2.2 left leftLongest.1 leftLongest.2.1)
      (leftLongest.2.2 right rightLongest.1 rightLongest.2.1)
  have nested : left.path.toList <+: right.path.toList :=
    List.prefix_of_prefix_length_le leftPrefix rightPrefix sameLength.le
  exact String.toList_injective (nested.eq_of_length sameLength)

/-- All longest matches of the request's path admit it, or none does. -/
def TiesAgree (tokenService : TokenService) (pathAccess : List PathAccessConfig)
    (request : Request) (now : Instant) : Prop :=
  ∀ tokenData,
    (middlewareWith tokenService pathAccess).userTokenData request now = .ok tokenData →
    ∀ left right, LongestMatch pathAccess request.path left →
      LongestMatch pathAccess request.path right →
      (left.Admits request tokenData ↔ right.Admits request tokenData)

section Reorder

variable {tokenService : TokenService} {pathAccess reordered : List PathAccessConfig}
  {request : Request} {now : Instant}

theorem dispatch_perm_of_tiesAgree (agree : TiesAgree tokenService pathAccess request now)
    (permutation : reordered.Perm pathAccess) :
    (middlewareWith tokenService reordered).dispatch request now =
      (middlewareWith tokenService pathAccess).dispatch request now := by
  have sameData : (middlewareWith tokenService reordered).userTokenData request now =
      (middlewareWith tokenService pathAccess).userTokenData request now := rfl
  cases verified : (middlewareWith tokenService pathAccess).userTokenData request now with
  | error error =>
      rw [verified] at sameData
      simp only [AuthMiddleware.dispatch, verified, sameData]
  | ok tokenData =>
      cases selected : findMatchingPathConfig pathAccess request.path with
      | none =>
          have unmatched : findMatchingPathConfig reordered request.path = none := by
            rw [findMatchingPathConfig_eq_none] at selected ⊢
            intro entry member
            exact selected entry (permutation.mem_iff.mp member)
          rw [verified] at sameData
          simp only [AuthMiddleware.dispatch, verified, sameData, selected, unmatched]
      | some rule =>
          have longest := longestMatch_of_selected selected
          obtain ⟨other, otherSelected⟩ :
              ∃ other, findMatchingPathConfig reordered request.path = some other := by
            rw [← Option.ne_none_iff_exists']
            intro unmatched
            rw [findMatchingPathConfig_eq_none] at unmatched
            exact unmatched rule (permutation.mem_iff.mpr longest.1) longest.2.1
          have otherLongest := (longestMatch_of_selected otherSelected).of_perm permutation
          have sameVerdict := agree tokenData verified other rule otherLongest longest
          rw [dispatch_of_selected verified selected, dispatch_of_selected verified otherSelected,
            (enforce_eq_enforce (AuthMiddleware.verified_has_token verified)).mpr sameVerdict]

/-- When no two rules share a path, the order of the rules never matters. -/
theorem dispatch_perm_of_distinct_paths (distinct : UniqueOn PathAccessConfig.path pathAccess)
    (permutation : reordered.Perm pathAccess) :
    (middlewareWith tokenService reordered).dispatch request now =
      (middlewareWith tokenService pathAccess).dispatch request now := by
  have agree : TiesAgree tokenService pathAccess request now := by
    intro tokenData _ left right leftLongest rightLongest
    have same : left = right :=
      distinct.eq_of_key leftLongest.1 rightLongest.1 (leftLongest.path_eq rightLongest)
    rw [same]
  exact dispatch_perm_of_tiesAgree agree permutation

end Reorder

/-- The order of the rules is irrelevant to a request exactly when all longest
matches of its path agree on whether they admit it. -/
theorem dispatch_perm_iff (tokenService : TokenService) (pathAccess : List PathAccessConfig)
    (request : Request) (now : Instant) :
    (∀ reordered : List PathAccessConfig, reordered.Perm pathAccess →
        (middlewareWith tokenService reordered).dispatch request now =
          (middlewareWith tokenService pathAccess).dispatch request now) ↔
      TiesAgree tokenService pathAccess request now := by
  constructor
  · intro invariant tokenData verified left right leftLongest rightLongest
    rcases exists_perm_selects leftLongest with ⟨leftFirst, leftPerm, leftSelected⟩
    rcases exists_perm_selects rightLongest with ⟨rightFirst, rightPerm, rightSelected⟩
    have leftDecision := invariant leftFirst leftPerm
    have rightDecision := invariant rightFirst rightPerm
    rw [dispatch_of_selected verified leftSelected] at leftDecision
    rw [dispatch_of_selected verified rightSelected] at rightDecision
    have same := Except.ok.inj (leftDecision.trans rightDecision.symm)
    exact (enforce_eq_enforce (AuthMiddleware.verified_has_token verified)).mp same
  · intro agree reordered permutation
    exact dispatch_perm_of_tiesAgree agree permutation

/-- Two entries for one path: the first is consulted, whichever it is. -/
theorem dispatch_order_matters :
    ¬ ∀ (tokenService : TokenService) (pathAccess reordered : List PathAccessConfig),
        reordered.Perm pathAccess → ∀ (request : Request) (now : Instant),
        (middlewareWith tokenService reordered).dispatch request now =
          (middlewareWith tokenService pathAccess).dispatch request now := by
  intro invariant
  have same := invariant referenceTokenService
    [usersRule, { usersRule with methods := [.get] }]
    [{ usersRule with methods := [.get] }, usersRule] (List.Perm.swap _ _ _)
    { method := "POST", path := "/api/v1/users" } 0
  revert same
  decide

end DemoBase.Backend
