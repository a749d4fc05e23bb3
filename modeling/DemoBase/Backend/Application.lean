import DemoBase.Backend.Routes

/-!
Owns the application `create_app` assembles: the layers, each as a function from
the application inside it, and their order. `add_middleware` puts a layer in
front of those added before, and the stack is built from the inside out around
the framework's `ExceptionMiddleware`, so the auth middleware, added last, is
outermost; only Starlette's `ServerErrorMiddleware` is around it.
-/

set_option autoImplicit false

namespace DemoBase.Backend

open DemoBase.Foundations

/-- An ASGI application: the request and `request.state.user_token_data` to a
response or to an exception that leaves it. -/
abbrev App := Request → Option TokenData → Except PyException Response

/-! ### The layers -/

/-- Starlette's `ExceptionMiddleware` with FastAPI's handler. -/
def exceptionMiddleware (app : App) : App := fun request userTokenData =>
  match app request userTokenData with
  | .error (.httpException error) => .ok ⟨error.statusCode, .detail error.detail, none⟩
  | outcome => outcome

structure CORSMiddleware where
  allowOrigins : List String
  allowCredentials : Bool
  allowMethods : List HttpMethod

namespace CORSMiddleware

variable (self : CORSMiddleware)

def allowAllOrigins : Bool := "*" ∈ self.allowOrigins

def isAllowedOrigin (origin : String) : Bool :=
  self.allowAllOrigins || decide (origin ∈ self.allowOrigins)

def preflightResponse (origin requestedMethod : String) : Response :=
  let allowOrigin :=
    if self.allowAllOrigins && !self.allowCredentials then some "*"
    else if self.isAllowedOrigin origin then some origin else none
  let failures :=
    (if self.isAllowedOrigin origin then [] else ["origin"]) ++
      if requestedMethod ∈ self.allowMethods.map HttpMethod.value then [] else ["method"]
  if failures = [] then ⟨200, .plain "OK", allowOrigin⟩
  else ⟨400, .plain ("Disallowed CORS " ++ String.intercalate ", " failures), allowOrigin⟩

/-- The header a response gets on its way out. -/
def simpleAllowOrigin (origin : String) : Option String :=
  if self.allowAllOrigins then if self.allowCredentials then some origin else some "*"
  else if origin ∈ self.allowOrigins then some origin else none

def call (app : App) : App := fun request userTokenData =>
  match request.origin, request.accessControlRequestMethod with
  | none, _ => app request userTokenData
  | some origin, some requestedMethod =>
      if request.method = "OPTIONS" then .ok (self.preflightResponse origin requestedMethod)
      else (app request userTokenData).map fun response =>
        { response with allowOrigin := self.simpleAllowOrigin origin }
  | some origin, none =>
      (app request userTokenData).map fun response =>
        { response with allowOrigin := self.simpleAllowOrigin origin }

end CORSMiddleware

def internalServerErrorMessage : String :=
  "An unexpected error occurred. Please try again later."

namespace ErrorMiddlewareConfig

variable (self : ErrorMiddlewareConfig)

/-- `ErrorMiddleware._create_response`. -/
def createResponse (statusCode : Nat) (detail : String) : Response :=
  let shown :=
    if 500 ≤ statusCode ∧ statusCode < 600 ∧ self.returnDetailedInternalErrors = false then
      internalServerErrorMessage
    else detail
  ⟨statusCode, .message shown, none⟩

/-- `ErrorMiddleware.dispatch`. -/
def dispatch (app : App) : App := fun request userTokenData =>
  match app request userTokenData with
  | .ok response => .ok response
  | .error (.httpException error) => .ok (self.createResponse error.statusCode error.detail)
  | .error error => .ok (self.createResponse 500 error.str)

end ErrorMiddlewareConfig

/-- `AuthMiddleware.dispatch` around the application it forwards to. -/
def AuthMiddleware.call (self : AuthMiddleware) (now : Instant) (app : App) : App :=
  fun request _ =>
    match self.dispatch request now with
    | .error error => .error error
    | .ok (.unauthorized detail) => .ok ⟨401, .detail detail, none⟩
    | .ok (.forward userTokenData) => app request userTokenData

/-- What Starlette's `ServerErrorMiddleware` sends the client. -/
def serverErrorMiddleware (outcome : Except PyException Response) : Response :=
  match outcome with
  | .ok response => response
  | .error _ => ⟨500, .plain "Internal Server Error", none⟩

/-! ### `create_app` -/

/-- `app.user_middleware.insert(0, …)`. -/
def addMiddleware (userMiddleware : List (App → App)) (layer : App → App) : List (App → App) :=
  layer :: userMiddleware

def buildMiddlewareStack (userMiddleware : List (App → App)) (router : App) : App :=
  userMiddleware.foldr (fun layer app => layer app) (exceptionMiddleware router)

/-- An error injected at one call. -/
abbrev Fault := Option (Site × PyException)

/-- A PyJWT whose `decode` is struck by the fault. -/
def PyJWT.struckBy (jwt : PyJWT) (fault : Fault) : PyJWT :=
  match fault with
  | some (.decode, error) => { jwt with decode := fun _ _ _ _ _ => .error (.other error) }
  | _ => jwt

/-- One deployment handling one request. -/
structure Deployment where
  config : ApiConfig
  libraries : Libraries
  world : World

namespace Deployment

variable (self : Deployment) (fault : Fault)

def cors : CORSMiddleware :=
  ⟨self.config.origins, self.config.allowCredentials, self.config.allowMethods⟩

def authMiddleware : AuthMiddleware :=
  ⟨self.config.authMiddleware, ⟨self.libraries.jwt.struckBy fault, self.config.jwt⟩⟩

def router : App := fun request userTokenData =>
  (self.libraries.router self.config.jwt self.world request userTokenData).runWith fault

def createApp : App :=
  let withCORS := addMiddleware [] self.cors.call
  let withError := addMiddleware withCORS self.config.errorMiddleware.dispatch
  let withAuth := addMiddleware withError ((self.authMiddleware fault).call self.world.now)
  buildMiddlewareStack withAuth (self.router fault)

/-- What the client receives. -/
def respond (request : Request) : Response :=
  serverErrorMiddleware (self.createApp fault request none)

/-- The application the auth middleware forwards to. -/
def innerApp : App :=
  self.config.errorMiddleware.dispatch (self.cors.call (exceptionMiddleware (self.router fault)))

end Deployment

/-! ### A deployment to run -/

def referenceLibraries : Libraries where
  jwt := referenceJWT
  pwdContext := referenceContext
  emailStr := referenceEmailStr
  uuid4 := some
  loginForm := fun request =>
    match request.fields.lookup "username", request.fields.lookup "password" with
    | some username, some password => some ⟨username, password⟩
    | _, _ => none
  paginate := fun users _ => .ok (.array (users.rows.map fun user => .string user.email))
  validationError := fun _ => ⟨422, .json .null, none⟩
  otherRoutes := fun _ => ⟨404, .detail "Not Found", none⟩

def referenceDeployment : Deployment where
  config :=
    { origins := [], allowCredentials := true, allowMethods := [.get, .post, .put, .delete],
      errorMiddleware := ⟨false⟩, authMiddleware := ⟨defaultPathAccess⟩,
      jwt := ⟨"secret", "HS256", 30⟩ }
  libraries := referenceLibraries
  world :=
    { users := ⟨[], List.nodup_nil⟩, now := 0, salt := "salt",
      generated := ⟨1, "0b6c3a34-6a4f-4c0e-8f5e-6f2f1a9f7b21"⟩ }

def registerRequest : Request where
  method := "POST"
  path := "/api/v1/auth/register"
  fields := [("email", "user@example.com"), ("password", "password")]

/-! ### What each layer lets through -/

theorem exceptionMiddleware_httpException {app : App} {request : Request}
    {userTokenData : Option TokenData} {error : HTTPException}
    (raised : app request userTokenData = .error (.httpException error)) :
    exceptionMiddleware app request userTokenData =
      .ok ⟨error.statusCode, .detail error.detail, none⟩ := by
  unfold exceptionMiddleware
  rw [raised]

theorem exceptionMiddleware_other {app : App} {request : Request}
    {userTokenData : Option TokenData} {text : String}
    (raised : app request userTokenData = .error (.other text)) :
    exceptionMiddleware app request userTokenData = .error (.other text) := by
  unfold exceptionMiddleware
  rw [raised]

/-- The CORS layer passes status, body and exceptions through, except that it
answers a preflight itself. -/
theorem CORSMiddleware.call_of_not_options (self : CORSMiddleware) (app : App)
    {request : Request} (notOptions : request.method ≠ "OPTIONS")
    (userTokenData : Option TokenData) :
    ∃ allowOrigin : Response → Option String, self.call app request userTokenData =
      (app request userTokenData).map fun response =>
        { response with allowOrigin := allowOrigin response } := by
  unfold CORSMiddleware.call
  cases request.origin with
  | none =>
      refine ⟨Response.allowOrigin, ?_⟩
      cases app request userTokenData <;> rfl
  | some origin =>
      refine ⟨fun _ => self.simpleAllowOrigin origin, ?_⟩
      cases request.accessControlRequestMethod with
      | none => rfl
      | some requestedMethod => simp only [if_neg notOptions]

/-- No exception passes the error middleware. -/
theorem ErrorMiddlewareConfig.dispatch_ok (self : ErrorMiddlewareConfig) (app : App)
    (request : Request) (userTokenData : Option TokenData) :
    ∃ response, self.dispatch app request userTokenData = .ok response := by
  unfold ErrorMiddlewareConfig.dispatch
  cases app request userTokenData with
  | ok response => exact ⟨response, rfl⟩
  | error error => cases error <;> exact ⟨_, rfl⟩

namespace Deployment

variable (self : Deployment) (fault : Fault)

/-- The stack, outermost layer first. -/
theorem createApp_eq :
    self.createApp fault = (self.authMiddleware fault).call self.world.now (self.innerApp fault) :=
  rfl

theorem innerApp_ok (request : Request) (userTokenData : Option TokenData) :
    ∃ response, self.innerApp fault request userTokenData = .ok response :=
  self.config.errorMiddleware.dispatch_ok _ request userTokenData

end Deployment

end DemoBase.Backend
