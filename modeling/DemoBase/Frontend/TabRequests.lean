import DemoBase.Frontend.AuthInterceptor

/-!
Owns what is on its way from a tab: its requests are numbered apart, by the tab and by
`UserInfoService`, and delivering an answer removes one of them and touches no other.
-/

set_option autoImplicit false

namespace DemoBase.Frontend

open DemoBase.Foundations

namespace Tab

variable {backendUrl : String} {self : Tab}

/-- The requests `UserInfoService` waits for are numbered apart. -/
structure Numbered (tab : Tab) : Prop where
  waiting : ∀ request ∈ tab.outgoing, ∀ number, request.userInfo = some number →
    number < tab.browser.issued ∧ number ∈ tab.browser.pending
  distinct : ∀ left ∈ tab.outgoing, ∀ right ∈ tab.outgoing, ∀ number,
    left.userInfo = some number → right.userInfo = some number → left = right
  cached : ∀ number, tab.browser.userInfo.request = some number → number < tab.browser.issued

/-- What delivering an answer does, by who waits for it. -/
structure Delivered (before after : Tab) (request : SentRequest) (answer : Answer) : Prop where
  outgoing : after.outgoing = before.outgoing.filter fun other => some request ≠ some other
  issued : after.browser.issued = before.browser.issued
  token : after.authService.tokenStorage =
    if logsOut request.url answer = true then none else before.authService.tokenStorage
  pending : ∀ number ∈ before.browser.pending, request.userInfo ≠ some number →
    number ∈ after.browser.pending
  forgets : ∀ number, after.browser.userInfo.request = some number →
    before.browser.userInfo.request = some number ∧ logsOut request.url answer = false ∧
      (request.userInfo ≠ none → ∃ user, answer = .ok user)

theorem delivered (numbered : self.Numbered) {id : Nat} {request : SentRequest}
    (found : self.waiting id = some request) (answer : Answer) :
    Delivered self (self.step backendUrl (.deliver id answer)) request answer := by
  have listed : request ∈ self.outgoing := List.mem_of_find?_eq_some found
  have browser := step_deliver_browser backendUrl found answer
  have token : (intercepted self.browser request.url answer).authService.tokenStorage =
      if logsOut request.url answer = true then none else self.authService.tokenStorage := by
    unfold intercepted
    split <;> rfl
  have issued : (intercepted self.browser request.url answer).issued = self.browser.issued := by
    unfold intercepted
    split <;> rfl
  have cached : ∀ number,
      (intercepted self.browser request.url answer).userInfo.request = some number →
        self.browser.userInfo.request = some number ∧ logsOut request.url answer = false := by
    intro number isCached
    unfold intercepted at isCached
    split at isCached
    · cases isCached
    · rename_i passes
      exact ⟨isCached, Bool.eq_false_iff.mpr passes⟩
  have pending := intercepted_pending self.browser request.url answer
  cases awaits : request.userInfo with
  | none =>
      rw [awaits] at browser
      refine ⟨step_deliver_outgoing backendUrl found answer, ?_, ?_, ?_, ?_⟩
      · rw [browser, issued]
      · show (self.step backendUrl (.deliver id answer)).browser.authService.tokenStorage = _
        rw [browser, token]
      · intro number inFlight _
        rw [browser, pending]
        exact inFlight
      · intro number isCached
        rw [browser] at isCached
        rcases cached number isCached with ⟨before, passes⟩
        exact ⟨before, passes, fun awaited => absurd awaits awaited⟩
  | some number =>
      rw [awaits] at browser
      have inFlight : number ∈ (intercepted self.browser request.url answer).pending := by
        rw [pending]
        exact (numbered.waiting request listed number awaits).2
      have keeps := (intercepted self.browser request.url answer).deliver_keeps number answer
      refine ⟨step_deliver_outgoing backendUrl found answer, ?_, ?_, ?_, ?_⟩
      · rw [browser, keeps.2.1, issued]
      · show (self.step backendUrl (.deliver id answer)).browser.authService.tokenStorage = _
        rw [browser, keeps.1, token]
      · intro other waits apart
        rw [browser, Browser.pending_deliver, pending]
        exact (List.mem_erase_of_ne fun same => apart (awaits.trans (congrArg some same.symm))).mpr
          waits
      · intro other isCached
        rw [browser, Browser.userInfo_deliver inFlight] at isCached
        cases answer with
        | error error => cases isCached
        | ok user =>
            rcases cached other isCached with ⟨before, passes⟩
            exact ⟨before, passes, fun _ => ⟨user, rfl⟩⟩

/-- With a request cached, asking for the user changes nothing. -/
theorem step_load_cached {number : Nat} (cached : self.browser.userInfo.request = some number) :
    self.step backendUrl .loadCurrentUser = self := by
  obtain ⟨browser, sent, outgoing⟩ := self
  have same : browser.step .loadCurrentUser = browser :=
    Browser.step_loadCurrentUser_cached cached
  have quiet : (browser.userInfo.loadCurrentUser browser.issued).2 = false := by
    simp only [UserInfoService.loadCurrentUser, show browser.userInfo.request =
      some number from cached]
  simp [step, serviceActions, sends, answers, same, quiet]

/-- A step that sends nothing `UserInfoService` waits for. -/
theorem Numbered.of_fewer (numbered : self.Numbered) {after : Tab}
    (outgoing : ∀ request ∈ after.outgoing, request.userInfo ≠ none → request ∈ self.outgoing)
    (issued : after.browser.issued = self.browser.issued)
    (pending : ∀ request ∈ after.outgoing, ∀ number, request.userInfo = some number →
      number ∈ self.browser.pending → number ∈ after.browser.pending)
    (cached : ∀ number, after.browser.userInfo.request = some number →
      self.browser.userInfo.request = some number) : after.Numbered := by
  have older : ∀ request ∈ after.outgoing, ∀ number, request.userInfo = some number →
      request ∈ self.outgoing := by
    intro request member number isNumber
    exact outgoing request member (by simp [isNumber])
  refine ⟨?_, ?_, ?_⟩
  · intro request member number isNumber
    rcases numbered.waiting request (older request member number isNumber) number isNumber with
      ⟨below, waits⟩
    exact ⟨by rw [issued]; exact below, pending request member number isNumber waits⟩
  · intro left leftMember right rightMember number isLeft isRight
    exact numbered.distinct left (older left leftMember number isLeft) right
      (older right rightMember number isRight) number isLeft isRight
  · intro number isCached
    rw [issued]
    exact numbered.cached number (cached number isCached)

/-- An action between two answers that sends nothing. -/
theorem outgoing_silent {action : TabAction} (sendsNothing : self.sends backendUrl action = none)
    (answersNothing : self.answers action = none) :
    (self.step backendUrl action).outgoing = self.outgoing := by
  simp [step, sendsNothing, answersNothing]

/-- Asking for the user sends the next request unless one is cached. -/
theorem Numbered.load (numbered : self.Numbered) :
    (self.step backendUrl .loadCurrentUser).Numbered := by
  cases cached : self.browser.userInfo.request with
  | some number =>
      rw [step_load_cached cached]
      exact numbered
  | none =>
      have browser : (self.step backendUrl .loadCurrentUser).browser = _ :=
        Browser.step_loadCurrentUser_uncached cached
      have outgoing := outgoing_loadCurrentUser_uncached backendUrl cached
      refine ⟨?_, ?_, ?_⟩
      · intro request member number isNumber
        rw [outgoing] at member
        rw [browser]
        rcases List.mem_cons.mp member with rfl | older
        · obtain rfl := Option.some.inj isNumber
          exact ⟨Nat.lt_succ_self _, List.mem_cons_self⟩
        · rcases numbered.waiting request older number isNumber with ⟨below, waits⟩
          exact ⟨Nat.lt_succ_of_lt below, List.mem_cons_of_mem _ waits⟩
      · intro left leftMember right rightMember number isLeft isRight
        rw [outgoing] at leftMember rightMember
        rcases List.mem_cons.mp leftMember with rfl | olderLeft
        · rcases List.mem_cons.mp rightMember with rfl | olderRight
          · rfl
          · obtain rfl := Option.some.inj isLeft
            have below := (numbered.waiting right olderRight _ isRight).1
            omega
        · rcases List.mem_cons.mp rightMember with rfl | olderRight
          · obtain rfl := Option.some.inj isRight
            have below := (numbered.waiting left olderLeft _ isLeft).1
            omega
          · exact numbered.distinct left olderLeft right olderRight number isLeft isRight
      · intro number isCached
        rw [browser] at isCached ⊢
        obtain rfl := Option.some.inj isCached
        exact Nat.lt_succ_self _

theorem Numbered.step (numbered : self.Numbered) (action : TabAction) :
    (self.step backendUrl action).Numbered := by
  cases action with
  | loadCurrentUser => exact numbered.load
  | send url =>
      refine numbered.of_fewer ?_ rfl (fun _ _ _ _ waits => waits) fun _ isCached => isCached
      intro request member awaited
      rcases mem_outgoing_step member with older | sent
      · exact older
      · obtain rfl := Option.some.inj sent
        exact absurd rfl awaited
  | loginSucceeds accessToken =>
      have outgoing :
          (self.step backendUrl (.loginSucceeds accessToken)).outgoing = self.outgoing :=
        outgoing_silent rfl rfl
      exact numbered.of_fewer (fun request member _ => outgoing ▸ member) rfl
        (fun _ _ _ _ waits => waits) nofun
  | loginFails =>
      have outgoing : (self.step backendUrl .loginFails).outgoing = self.outgoing :=
        outgoing_silent rfl rfl
      exact numbered.of_fewer (fun request member _ => outgoing ▸ member) rfl
        (fun _ _ _ _ waits => waits) fun _ isCached => isCached
  | logout =>
      have outgoing : (self.step backendUrl .logout).outgoing = self.outgoing :=
        outgoing_silent rfl rfl
      exact numbered.of_fewer (fun request member _ => outgoing ▸ member) rfl
        (fun _ _ _ _ waits => waits) nofun
  | deliver id answer =>
      cases found : self.waiting id with
      | none =>
          rw [step_deliver_unasked backendUrl found]
          exact numbered
      | some request =>
          have done := @delivered backendUrl self numbered id request found answer
          have older : ∀ other ∈ (self.step backendUrl (.deliver id answer)).outgoing,
              other ∈ self.outgoing ∧ other ≠ request := by
            intro other member
            rw [done.outgoing, List.mem_filter] at member
            exact ⟨member.1, fun same => by simp [same] at member⟩
          refine numbered.of_fewer (fun other member _ => (older other member).1) done.issued ?_
            fun number isCached => (done.forgets number isCached).1
          intro other member number isNumber waits
          refine done.pending number waits fun same => (older other member).2 ?_
          exact numbered.distinct other (older other member).1 request
            (List.mem_of_find?_eq_some found) number isNumber same

theorem numbered_opened (token : Option String) : (opened token).Numbered := by
  refine ⟨?_, ?_, nofun⟩
  · intro request impossible
    cases impossible
  · intro left impossible
    cases impossible

/-- The requests of a tab are told apart by their ids. -/
structure Identified (tab : Tab) : Prop where
  below : ∀ request ∈ tab.outgoing, request.id < tab.sent
  distinct : ∀ left ∈ tab.outgoing, ∀ right ∈ tab.outgoing, left.id = right.id → left = right

theorem Identified.step (identified : self.Identified) (action : TabAction) :
    (self.step backendUrl action).Identified := by
  have more : self.sent ≤ (self.step backendUrl action).sent := self.sent_le_step action
  refine ⟨?_, ?_⟩
  · intro request member
    rcases mem_outgoing_step member with older | sent
    · exact Nat.lt_of_lt_of_le (identified.below request older) more
    · have numbered := id_of_sends sent
      omega
  · intro left leftMember right rightMember sameId
    rcases mem_outgoing_step leftMember with olderLeft | sentLeft
    · have below := identified.below left olderLeft
      rcases mem_outgoing_step rightMember with olderRight | sentRight
      · exact identified.distinct left olderLeft right olderRight sameId
      · have fresh := (id_of_sends sentRight).1
        omega
    · rcases mem_outgoing_step rightMember with olderRight | sentRight
      · have below := identified.below right olderRight
        have fresh := (id_of_sends sentLeft).1
        omega
      · exact Option.some.inj (sentLeft.symm.trans sentRight)

/-- Each request on its way can be answered. -/
theorem Identified.waiting (identified : self.Identified) {request : SentRequest}
    (member : request ∈ self.outgoing) : self.waiting request.id = some request := by
  cases found : self.waiting request.id with
  | none =>
      have missing := List.find?_eq_none.mp found request member
      exact absurd (decide_eq_true rfl) missing
  | some other =>
      have sameId : other.id = request.id := by simpa using List.find?_some found
      rw [identified.distinct other (List.mem_of_find?_eq_some found) request member sameId]

theorem identified_of_run {environment : Machine.Environment Tab TabAction Unit}
    {token : Option String} {past : Past} {tab : Tab}
    (run : Machine.Run (machine backendUrl) environment (opened token) past tab) :
    tab.Identified := by
  apply run.invariant
  · refine ⟨?_, ?_⟩
    · intro request impossible
      cases impossible
    · intro left impossible
      cases impossible
  · intro earlier before action _ _ identified
    exact identified.step action

end Tab

end DemoBase.Frontend
