import DemoBase.Frontend.AuthInterceptor

/-!
Owns the requests of `ApiService` and which of them `authInterceptor` lets pass
untouched. The interceptor searches the whole URL for a public path, so it takes
more requests for public than those whose path is one.
-/

set_option autoImplicit false

namespace DemoBase.Frontend

/-- `environment.ts`, which a production build replaces by `environment.prod.ts`. -/
inductive Environment where
  | development
  | production
deriving DecidableEq, Repr

def Environment.backendUrl : Environment → String
  | .development => "http://localhost:8000"
  | .production => ""

inductive RequestMethod where
  | get
  | post
  | put
  | delete
deriving DecidableEq, Repr

structure HttpRequest where
  method : RequestMethod
  url : String
deriving DecidableEq, Repr

/-- `String.prototype.startsWith`. -/
def startsWith (text searched : String) : Bool := decide (searched.toList <+: text.toList)

def normalizedEndpoint (endpoint : String) : String :=
  if startsWith endpoint "/" then endpoint else "/" ++ endpoint

structure ApiService where
  environment : Environment

namespace ApiService

variable (self : ApiService)

def baseUrl : String := self.environment.backendUrl ++ "/api/v1"

def buildUrl (endpoint : String) : String := self.baseUrl ++ normalizedEndpoint endpoint

/-- What `get`, `post`, `put` and `delete` hand to `HttpClient`. -/
def request (method : RequestMethod) (endpoint : String) : HttpRequest :=
  ⟨method, self.buildUrl endpoint⟩

def get (endpoint : String) : HttpRequest := self.request .get endpoint

def post (endpoint : String) : HttpRequest := self.request .post endpoint

def put (endpoint : String) : HttpRequest := self.request .put endpoint

def delete (endpoint : String) : HttpRequest := self.request .delete endpoint

end ApiService

/-- The part of a URL before its query and fragment. -/
def urlPath (url : String) : String :=
  String.ofList (url.toList.takeWhile fun character => character ≠ '?' && character ≠ '#')

/-- The path of the request is the API base followed by a public path. -/
def ApiService.IsPublicRequest (self : ApiService) (request : HttpRequest) : Prop :=
  ∃ path ∈ publicAuthPaths, urlPath request.url = self.baseUrl ++ path

instance decidableIsPublicRequest (self : ApiService) (request : HttpRequest) :
    Decidable (self.IsPublicRequest request) :=
  inferInstanceAs (Decidable (∃ path ∈ publicAuthPaths, _))

/-- `authInterceptor` neither adds a header nor handles a 401. -/
def Bypasses (authService : AuthService) (request : HttpRequest) : Prop :=
  authService.authorizationFor request.url = none ∧
    ∀ error, error.status = 401 → logsOut request.url (.error error) = false

/-- `authInterceptor` adds the token and logs out on a 401. -/
def Intercepts (authService : AuthService) (token : String) (request : HttpRequest) : Prop :=
  authService.authorizationFor request.url = some ("Bearer " ++ token) ∧
    ∀ error, error.status = 401 → logsOut request.url (.error error) = true

/-- Exactly the public requests pass, every other request is intercepted. -/
structure BypassedExactly (apiService : ApiService) (authService : AuthService) (token : String)
    (request : HttpRequest) : Prop where
  bypass : Bypasses authService request ↔ apiService.IsPublicRequest request
  otherwise : ¬ apiService.IsPublicRequest request → Intercepts authService token request

/-- The endpoint is a public path, up to a leading slash, a query and a fragment. -/
def NamesPublicPath (endpoint : String) : Prop :=
  urlPath (normalizedEndpoint endpoint) ∈ publicAuthPaths

/-- A public path occurs somewhere in the endpoint. -/
def MentionsPublicPath (endpoint : String) : Prop :=
  ∃ path ∈ publicAuthPaths, path.toList <:+: (normalizedEndpoint endpoint).toList

instance decidableMentionsPublicPath (endpoint : String) :
    Decidable (MentionsPublicPath endpoint) :=
  inferInstanceAs (Decidable (∃ path ∈ publicAuthPaths, _))

theorem isPublicAuthPath_iff {url : String} :
    isPublicAuthPath url = true ↔ ∃ path ∈ publicAuthPaths, path.toList <:+: url.toList := by
  simp [isPublicAuthPath, includes]

theorem normalizedEndpoint_slash (endpoint : String) :
    ∃ rest, (normalizedEndpoint endpoint).toList = '/' :: rest := by
  by_cases starts : startsWith endpoint "/" = true
  · rw [normalizedEndpoint, if_pos starts]
    obtain ⟨rest, split⟩ := of_decide_eq_true starts
    exact ⟨rest, split.symm⟩
  · rw [normalizedEndpoint, if_neg starts, String.toList_append]
    exact ⟨endpoint.toList, rfl⟩

/-- No occurrence of a public path begins inside the API base. -/
theorem public_infix_buildUrl (self : ApiService) (endpoint : String) {path : String}
    (isPublic : path ∈ publicAuthPaths) :
    path.toList <:+: (self.buildUrl endpoint).toList ↔
      path.toList <:+: (normalizedEndpoint endpoint).toList := by
  obtain ⟨rest, slash⟩ := normalizedEndpoint_slash endpoint
  rw [ApiService.buildUrl, String.toList_append, slash, ApiService.baseUrl]
  simp only [publicAuthPaths, List.mem_cons, List.not_mem_nil, or_false] at isPublic
  -- Each suffix of the base differs from a public path before either ends.
  cases self.environment <;> rcases isPublic with rfl | rfl <;>
    simp [Environment.backendUrl, List.infix_cons_iff]

theorem isPublicAuthPath_buildUrl (self : ApiService) (endpoint : String) :
    isPublicAuthPath (self.buildUrl endpoint) = true ↔ MentionsPublicPath endpoint := by
  rw [isPublicAuthPath_iff]
  constructor
  · intro found
    obtain ⟨path, isPublic, occurs⟩ := found
    exact ⟨path, isPublic, (public_infix_buildUrl self endpoint isPublic).mp occurs⟩
  · intro mentions
    obtain ⟨path, isPublic, occurs⟩ := mentions
    exact ⟨path, isPublic, (public_infix_buildUrl self endpoint isPublic).mpr occurs⟩

/-- The API base has neither a query nor a fragment. -/
theorem urlPath_buildUrl (self : ApiService) (endpoint : String) :
    urlPath (self.buildUrl endpoint) = self.baseUrl ++ urlPath (normalizedEndpoint endpoint) := by
  have plain : ∀ character ∈ self.baseUrl.toList, (character ≠ '?' && character ≠ '#') = true := by
    rw [ApiService.baseUrl]
    cases self.environment <;> simp [Environment.backendUrl]
  apply String.toList_injective
  rw [urlPath, ApiService.buildUrl, String.toList_append, List.takeWhile_append_of_pos plain,
    String.toList_append, urlPath, String.toList_ofList, String.toList_ofList]

theorem isPublicRequest_iff (self : ApiService) (method : RequestMethod) (endpoint : String) :
    self.IsPublicRequest (self.request method endpoint) ↔ NamesPublicPath endpoint := by
  have path : urlPath (self.request method endpoint).url =
      self.baseUrl ++ urlPath (normalizedEndpoint endpoint) := urlPath_buildUrl self endpoint
  constructor
  · intro isPublic
    obtain ⟨publicPath, listed, same⟩ := isPublic
    rw [path] at same
    have names : urlPath (normalizedEndpoint endpoint) = publicPath := by
      simpa using same
    rw [NamesPublicPath, names]
    exact listed
  · intro names
    exact ⟨_, names, path⟩

theorem MentionsPublicPath.of_names {endpoint : String} (names : NamesPublicPath endpoint) :
    MentionsPublicPath endpoint := by
  refine ⟨_, names, ?_⟩
  rw [urlPath, String.toList_ofList]
  exact (List.takeWhile_prefix _).isInfix

theorem bypasses_of_mentions (self : ApiService) {endpoint : String}
    (mentions : MentionsPublicPath endpoint) (authService : AuthService) (method : RequestMethod) :
    Bypasses authService (self.request method endpoint) := by
  have isPublic : isPublicAuthPath (self.request method endpoint).url = true :=
    (isPublicAuthPath_buildUrl self endpoint).mpr mentions
  constructor
  · rw [AuthService.authorizationFor, if_pos isPublic]
  · intro error _
    simp [logsOut, isPublic]

/-- A request that mentions no public path has its 401 handled. -/
theorem logsOut_of_unmentioned (self : ApiService) {endpoint : String}
    (unmentioned : ¬ MentionsPublicPath endpoint) (method : RequestMethod)
    {error : HttpErrorResponse} (status : error.status = 401) :
    logsOut (self.request method endpoint).url (.error error) = true := by
  have intercepted : isPublicAuthPath (self.request method endpoint).url = false :=
    Bool.eq_false_iff.mpr fun isPublic =>
      unmentioned ((isPublicAuthPath_buildUrl self endpoint).mp isPublic)
  exact Tab.logsOut_iff.mpr ⟨error, rfl, status, intercepted⟩

/-- The empty token is sent as no token. -/
theorem authorizationFor_of_unmentioned (self : ApiService) {endpoint : String}
    (unmentioned : ¬ MentionsPublicPath endpoint) (userInfo : UserInfoService) (token : String)
    (method : RequestMethod) :
    AuthService.authorizationFor ⟨some token, userInfo⟩ (self.request method endpoint).url =
      if token = "" then none else some ("Bearer " ++ token) := by
  have intercepted : isPublicAuthPath (self.request method endpoint).url ≠ true := fun isPublic =>
    unmentioned ((isPublicAuthPath_buildUrl self endpoint).mp isPublic)
  rw [AuthService.authorizationFor, if_neg intercepted]
  rfl

/-- The interceptor singles out exactly the public requests when the endpoint is a
public path, or mentions none while the stored token is not the empty string. -/
theorem bypassedExactly_iff (self : ApiService) (userInfo : UserInfoService) (token : String)
    (method : RequestMethod) (endpoint : String) :
    BypassedExactly self ⟨some token, userInfo⟩ token (self.request method endpoint) ↔
      NamesPublicPath endpoint ∨ token ≠ "" ∧ ¬ MentionsPublicPath endpoint := by
  have isPublic := isPublicRequest_iff self method endpoint
  by_cases names : NamesPublicPath endpoint
  · have bypasses := bypasses_of_mentions self (MentionsPublicPath.of_names names)
    refine iff_of_true ⟨?_, ?_⟩ (Or.inl names)
    · exact iff_of_true (bypasses _ method) (isPublic.mpr names)
    · intro notPublic
      exact absurd (isPublic.mpr names) notPublic
  · have notPublic : ¬ self.IsPublicRequest (self.request method endpoint) := fun request =>
      names (isPublic.mp request)
    by_cases mentions : MentionsPublicPath endpoint
    · constructor
      · intro exactly
        exact absurd (exactly.bypass.mp (bypasses_of_mentions self mentions _ method)) notPublic
      · intro condition
        rcases condition with named | ⟨-, unmentioned⟩
        · exact absurd named names
        · exact absurd mentions unmentioned
    · have header := authorizationFor_of_unmentioned self mentions userInfo token method
      have handled : ∀ error : HttpErrorResponse, error.status = 401 →
          logsOut (self.request method endpoint).url (.error error) = true := fun _ status =>
        logsOut_of_unmentioned self mentions method status
      have passesNot : ¬ Bypasses ⟨some token, userInfo⟩ (self.request method endpoint) := by
        intro bypasses
        have ignored := bypasses.2 ⟨401, .null⟩ rfl
        rw [handled ⟨401, .null⟩ rfl] at ignored
        cases ignored
      constructor
      · intro exactly
        have carries := (exactly.otherwise notPublic).1
        refine Or.inr ⟨?_, mentions⟩
        intro empty
        rw [header, if_pos empty] at carries
        cases carries
      · intro condition
        rcases condition with named | ⟨nonempty, -⟩
        · exact absurd named names
        · rw [if_neg nonempty] at header
          exact ⟨iff_of_false passesNot notPublic, fun _ => ⟨header, handled⟩⟩

/-- A query that mentions the login page takes the token off a request for users. -/
theorem bypassedExactly_fails_on_query :
    (ApiService.mk .production).get "/users?next=/auth/login" =
        ⟨.get, "/api/v1/users?next=/auth/login"⟩ ∧
      Bypasses ⟨some "token", UserInfoService.initial⟩
        ((ApiService.mk .production).get "/users?next=/auth/login") ∧
      ¬ BypassedExactly (ApiService.mk .production) ⟨some "token", UserInfoService.initial⟩ "token"
        ((ApiService.mk .production).get "/users?next=/auth/login") := by
  have url : (ApiService.mk .production).get "/users?next=/auth/login" =
      ⟨.get, "/api/v1/users?next=/auth/login"⟩ := by decide
  have bypasses : Bypasses ⟨some "token", UserInfoService.initial⟩
      ((ApiService.mk .production).get "/users?next=/auth/login") :=
    bypasses_of_mentions _ (by decide) _ .get
  have notPublic : ¬ (ApiService.mk .production).IsPublicRequest
      ((ApiService.mk .production).get "/users?next=/auth/login") := by decide
  exact ⟨url, bypasses, fun exactly => notPublic (exactly.bypass.mp bypasses)⟩

end DemoBase.Frontend
