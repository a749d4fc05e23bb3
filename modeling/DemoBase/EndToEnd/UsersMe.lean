import DemoBase.Backend.AuthRoutes
import DemoBase.Backend.Isolation
import DemoBase.EndToEnd.AdminAccess
import DemoBase.Frontend.UserInfoService

/-!
Owns what the tab reads in the backend's answer to its `/users/me` request, through
all layers of the application: the account the route returns, or the status of what
went wrong.
-/

set_option autoImplicit false

namespace DemoBase.EndToEnd

open DemoBase.Foundations DemoBase.Backend

open DemoBase.Frontend (UserInfo HttpErrorResponse Answer)

/-- The request of `loadCurrentUser` as it reaches the backend: in production the
application is served from the origin it calls. -/
def usersMeRequest (authorization : Option String) : Request where
  method := "GET"
  path := "/api/v1/users/me"
  authorization := authorization

/-- The JSON of a `GetUserResponseDto`. -/
def dtoJson (dto : GetUserResponseDto) : Json :=
  .object [("user_uuid", .string dto.userUuid), ("email", .string dto.email),
    ("is_active", .bool dto.isActive), ("role", .string dto.role.value)]

/-- The `UserInfo` of a JSON object; TypeScript does not check its members. -/
def parseUserInfo (members : List (String × Json)) : Option UserInfo :=
  match members.lookup "user_uuid", members.lookup "email", members.lookup "is_active",
    members.lookup "role" with
  | some (.string userUuid), some (.string email), some (.bool isActive), some (.string role) =>
      some ⟨userUuid, email, isActive, role⟩
  | _, _, _, _ => none

/-- The `error` of an `HttpErrorResponse` with this body. -/
def errorBody : Body → Json
  | .detail text => .object [("detail", .string text)]
  | .message text => .object [("message", .string text)]
  | .plain text => .string text
  | .json value => value

def errorOf (response : Response) : HttpErrorResponse :=
  ⟨response.statusCode, errorBody response.body⟩

/-- What `HttpClient` makes of a response: the parsed body of a success, or an error. -/
def readUserInfo (response : Response) : Answer :=
  match response.body with
  | .json (.object members) =>
      match parseUserInfo members with
      | some user => if response.statusCode = 200 then .ok user else .error (errorOf response)
      | none => .error (errorOf response)
  | _ => .error (errorOf response)

/-- The response the layers around a route make of its exception. -/
def failureResponse (config : ErrorMiddlewareConfig) : PyException → Response
  | .httpException raised => ⟨raised.statusCode, .detail raised.detail, none⟩
  | error => config.createResponse 500 error.str

theorem failureResponse_statusCode (config : ErrorMiddlewareConfig) (error : PyException) :
    (failureResponse config error).statusCode = failureStatus error := by
  cases error <;> rfl

/-- The answer for what the route computes. -/
def answerOf (config : ErrorMiddlewareConfig) : Except PyException GetUserResponseDto → Answer
  | .ok dto => .ok (userInfoOf dto)
  | .error error => .error (errorOf (failureResponse config (sessionScope error)))

theorem usersMe_result (libraries : Libraries) (world : World) (request : Request)
    (userTokenData : Option TokenData) :
    (libraries.usersMe world request userTokenData).result =
      ((getMe libraries.uuid4 world.users request userTokenData).map fun dto =>
        (⟨200, .json (dtoJson dto), none⟩ : Response)).mapError sessionScope := by
  have lookup : (currentUserCalls world userTokenData).result =
      getCurrentUserInfo world.users userTokenData := by
    unfold currentUserCalls getCurrentUserInfo
    cases userTokenData with
    | none => rfl
    | some tokenData =>
        cases email : tokenData.email with
        | none => simp [email]; rfl
        | some email' => simp [email]
  unfold Libraries.usersMe getMe
  cases scheme : oauth2Scheme request with
  | error error =>
      have isHttp : sessionScope error = error := by
        unfold oauth2Scheme at scheme
        split at scheme
        · cases scheme
          rfl
        · split at scheme
          · cases scheme
          · cases scheme
            rfl
      simp [bind, Except.bind, Except.map, Except.mapError, isHttp]
  | ok token =>
      show Except.mapError sessionScope (Scripted.result _) = _
      rw [Scripted.result_bind, lookup]
      cases found : getCurrentUserInfo world.users userTokenData with
      | error error => rfl
      | ok user =>
          simp only [Except.bind, bind, Scripted.result_perform]
          rfl

/-- What the layers around the route make of its outcome. -/
theorem readUserInfo_layers (config : ErrorMiddlewareConfig) {app : App} {request : Request}
    {userTokenData : Option TokenData} {outcome : Except PyException GetUserResponseDto}
    (route : app request userTokenData =
      (outcome.map fun dto => (⟨200, .json (dtoJson dto), none⟩ : Response)).mapError
        sessionScope) :
    readUserInfo (serverErrorMiddleware
        (config.dispatch (exceptionMiddleware app) request userTokenData)) =
      answerOf config outcome := by
  unfold ErrorMiddlewareConfig.dispatch exceptionMiddleware
  rw [route]
  cases outcome with
  | ok dto => rfl
  | error error =>
      simp only [Except.map, Except.mapError, answerOf]
      cases sessionScope error with
      | httpException raised => rfl
      | sqlAlchemyError text => rfl
      | other text => rfl

/-- The answer of the whole application to the tab's request. -/
theorem readUserInfo_respond (deployment : Deployment) (authorization : Option String) :
    readUserInfo (deployment.respond none (usersMeRequest authorization)) =
      match (deployment.authMiddleware none).dispatch (usersMeRequest authorization)
        deployment.world.now with
      | .error _ => .error (errorOf ⟨500, .plain "Internal Server Error", none⟩)
      | .ok (.unauthorized detail) => .error (errorOf ⟨401, .detail detail, none⟩)
      | .ok (.forward userTokenData) =>
          answerOf deployment.config.errorMiddleware (getMe deployment.libraries.uuid4
            deployment.world.users (usersMeRequest authorization) userTokenData) := by
  unfold Deployment.respond
  rw [Deployment.createApp_eq]
  unfold AuthMiddleware.call
  cases (deployment.authMiddleware none).dispatch (usersMeRequest authorization)
    deployment.world.now with
  | error error => rfl
  | ok decision =>
      cases decision with
      | unauthorized detail => rfl
      | forward userTokenData =>
          have route : deployment.router none (usersMeRequest authorization) userTokenData =
              (deployment.libraries.usersMe deployment.world (usersMeRequest authorization)
                userTokenData).result := rfl
          rw [usersMe_result] at route
          exact readUserInfo_layers deployment.config.errorMiddleware route

/-- The deployment the frontend belongs to. -/
structure Production where
  config : ApiConfig
  libraries : Libraries

namespace Production

variable (self : Production)

def server : Server :=
  ⟨self.libraries.authService self.config.jwt, self.config.authMiddleware.pathAccess⟩

/-- The deployment as it handles a request in this state. The routes that look at a
session draw neither a salt nor a generated column. -/
def deployment (state : ServerState) : Deployment :=
  ⟨self.config, self.libraries, ⟨state.users, state.now, "", ⟨0, ""⟩⟩⟩

end Production

end DemoBase.EndToEnd
