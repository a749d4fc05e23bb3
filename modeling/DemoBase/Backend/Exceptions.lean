import Mathlib.Data.List.Basic

/-!
Owns the exceptions the backend raises: the `BaseAppException` family of
`exceptions.py`, `auth_exceptions.py` and `db_exceptions.py`, all of which are
HTTP exceptions with a status code and a detail, and the two other kinds the
code's `except` clauses tell apart.
-/

set_option autoImplicit false

namespace DemoBase.Backend

/-- FastAPI's `HTTPException`, as far as a handler reads it. -/
structure HTTPException where
  statusCode : Nat
  detail : String
deriving DecidableEq, Repr

def baseAppException (statusCode : Nat) (detail : String) : HTTPException := ⟨statusCode, detail⟩

def baseAlreadyExistsException (detail : String) : HTTPException := baseAppException 409 detail

def baseUnauthorizedException (detail : String) : HTTPException := baseAppException 401 detail

def baseInternalServerErrorException (detail : String) : HTTPException :=
  baseAppException 500 detail

def userExistsException (userEmail : String) : HTTPException :=
  baseAlreadyExistsException s!"The user {userEmail} already exists."

def userCreateInternalErrorException (detail : String) : HTTPException :=
  baseInternalServerErrorException detail

def invalidCredentialsException : HTTPException :=
  baseUnauthorizedException "Invalid email or password."

def invalidTokenException (detail : String) : HTTPException := baseUnauthorizedException detail

def databaseTransactionError (detail : String) : HTTPException :=
  baseInternalServerErrorException detail

/-- What a call can raise, by the classes the `except` clauses distinguish. -/
inductive PyException where
  | httpException (error : HTTPException)
  | sqlAlchemyError (text : String)
  | other (text : String)
deriving DecidableEq, Repr

/-- `str(e)`. -/
def PyException.str : PyException → String
  | .httpException error => s!"{error.statusCode}: {error.detail}"
  | .sqlAlchemyError text => text
  | .other text => text

/-- The `except` clause of `AsyncDBClient.session`. -/
def sessionScope (error : PyException) : PyException :=
  match error with
  | .sqlAlchemyError text =>
      .httpException (databaseTransactionError s!"Database transaction failed: {text}")
  | other => other

end DemoBase.Backend
