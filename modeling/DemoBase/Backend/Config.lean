import DemoBase.Backend.Schemas

/-!
Owns the configuration models the middlewares and services read
(`config/models.py`) and the access rules that `default_config.yaml` ships.
-/

set_option autoImplicit false

namespace DemoBase.Backend

/-- `HttpMethod(str, Enum)`. -/
inductive HttpMethod where
  | get
  | post
  | put
  | delete
  | patch
deriving DecidableEq, Repr

def HttpMethod.value : HttpMethod → String
  | .get => "GET"
  | .post => "POST"
  | .put => "PUT"
  | .delete => "DELETE"
  | .patch => "PATCH"

/-- One access rule. -/
structure PathAccessConfig where
  path : String
  allowedRoles : List UserRole
  methods : List HttpMethod
deriving DecidableEq, Repr

structure AuthMiddlewareConfig where
  pathAccess : List PathAccessConfig
deriving DecidableEq, Repr

structure ErrorMiddlewareConfig where
  returnDetailedInternalErrors : Bool
deriving DecidableEq, Repr

structure JWTConfig where
  secretKey : String
  algorithm : String
  accessTokenExpireMinutes : Int
deriving DecidableEq, Repr

/-- The part of `ApiConfig` that `create_app` hands to the middlewares. -/
structure ApiConfig where
  origins : List String
  allowCredentials : Bool
  allowMethods : List HttpMethod
  errorMiddleware : ErrorMiddlewareConfig
  authMiddleware : AuthMiddlewareConfig
  jwt : JWTConfig
deriving DecidableEq, Repr

/-! `api.middleware.auth_middleware.path_access` of `default_config.yaml`. -/

def usersMeRule : PathAccessConfig where
  path := "/api/v1/users/me"
  allowedRoles := [.user, .admin]
  methods := [.get]

def usersRule : PathAccessConfig where
  path := "/api/v1/users"
  allowedRoles := [.admin]
  methods := [.get, .post, .put, .delete]

def defaultPathAccess : List PathAccessConfig := [usersMeRule, usersRule]

end DemoBase.Backend
