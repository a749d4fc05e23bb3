import DemoBase.Backend.Builtins
import DemoBase.Foundations.SingleFlight
import DemoBase.Frontend.AuthService

/-!
Owns the login and the registration form: what they check before they send anything,
what they show for each answer, and that they send one request at a time. Both are
instances of a form whose controls are disabled while it is busy.
-/

set_option autoImplicit false

namespace DemoBase.Frontend

open DemoBase.Foundations

open DemoBase.Backend (Json)

/-! ### Errors -/

/-- The error a form is handed: `err.status` and `err.error?.detail`. -/
structure FormError where
  status : Nat
  detail : Option Json

/-- `!!value`. -/
def isTruthy : Json → Bool
  | .null => false
  | .bool value => value
  | .number value => value != 0
  | .string value => value != ""
  | .array _ => true
  | .object _ => true

/-- `err.error?.detail || fallback`. -/
def FormError.detailOr (error : FormError) (fallback : String) : Json :=
  match error.detail with
  | none => .string fallback
  | some detail => if isTruthy detail then detail else .string fallback

/-! ### Checks -/

/-- The code units of UTF-16: a character outside the basic plane takes two. -/
def utf16Units : List Char → Nat
  | [] => 0
  | character :: rest => (if character.toNat < 0x10000 then 1 else 2) + utf16Units rest

/-- `String.prototype.length`. -/
def utf16Length (text : String) : Nat := utf16Units text.toList

/-- The class `\s` of a regular expression. -/
def isRegexSpace (character : Char) : Bool :=
  let code := character.toNat
  (0x09 ≤ code && code ≤ 0x0D) || code == 0x20 || code == 0xA0 || code == 0x1680 ||
    (0x2000 ≤ code && code ≤ 0x200A) || code == 0x2028 || code == 0x2029 || code == 0x202F ||
    code == 0x205F || code == 0x3000 || code == 0xFEFF

/-- The class `[^\s@]`. -/
def isAddressChar (character : Char) : Bool :=
  !isRegexSpace character && character != '@'

/-- `/^[^\s@]+@[^\s@]+\.[^\s@]+$/`: one `@`, and a dot strictly inside what follows. -/
def emailRegexTest (email : String) : Bool :=
  match email.toList.splitOn '@' with
  | [localPart, domain] =>
      localPart != [] && localPart.all isAddressChar && domain.all isAddressChar &&
        (domain.drop 1).dropLast.contains '.'
  | _ => false

/-- A character of the list other than its first and last is a separator inside it. -/
theorem mem_inside_iff {separator : Char} {text : List Char} :
    separator ∈ (text.drop 1).dropLast ↔
      ∃ before after, text = before ++ separator :: after ∧ before ≠ [] ∧ after ≠ [] := by
  constructor
  · intro inside
    cases text with
    | nil => simp at inside
    | cons first tail =>
        rw [List.drop_one, List.tail_cons] at inside
        rcases List.append_of_mem inside with ⟨before, after, split⟩
        have nonempty : tail ≠ [] := by
          rintro rfl
          simp at inside
        have whole := List.dropLast_append_getLast nonempty
        rw [split] at whole
        refine ⟨first :: before, after ++ [tail.getLast nonempty], ?_, by simp, by simp⟩
        conv => lhs; rw [← whole]
        simp
  · rintro ⟨before, after, rfl, beforeSome, afterSome⟩
    cases before with
    | nil => exact absurd rfl beforeSome
    | cons first before =>
        rw [List.cons_append, List.drop_one, List.tail_cons,
          List.dropLast_append_of_ne_nil (by simp), List.dropLast_cons_of_ne_nil afterSome]
        exact List.mem_append_right _ List.mem_cons_self

/-- The pattern, part by part. -/
theorem emailRegexTest_iff {email : String} :
    emailRegexTest email = true ↔
      ∃ localPart label rest, email.toList = localPart ++ '@' :: (label ++ '.' :: rest) ∧
        localPart ≠ [] ∧ label ≠ [] ∧ rest ≠ [] ∧
        (∀ character ∈ localPart, isAddressChar character = true) ∧
        ∀ character ∈ label ++ '.' :: rest, isAddressChar character = true := by
  constructor
  · intro accepted
    unfold emailRegexTest at accepted
    have joined : ['@'].intercalate (email.toList.splitOn '@') = email.toList :=
      List.intercalate_splitOn '@'
    split at accepted
    · rename_i localPart domain split
      simp only [Bool.and_eq_true, bne_iff_ne, List.all_eq_true, List.contains_iff_mem]
        at accepted
      obtain ⟨⟨⟨localSome, localPlain⟩, domainPlain⟩, dotted⟩ := accepted
      rcases mem_inside_iff.mp dotted with ⟨label, rest, rfl, labelSome, restSome⟩
      rw [split] at joined
      refine ⟨localPart, label, rest, ?_, localSome, labelSome, restSome, localPlain, domainPlain⟩
      rw [← joined]
      simp
    · cases accepted
  · rintro ⟨localPart, label, rest, whole, localSome, labelSome, restSome, localPlain, domainPlain⟩
    have noAt : ∀ part : List Char, (∀ character ∈ part, isAddressChar character = true) →
        '@' ∉ part := by
      intro part plain member
      exact absurd (plain '@' member) (by decide)
    have split : email.toList.splitOn '@' = [localPart, label ++ '.' :: rest] := by
      rw [whole, List.splitOn_append_cons_self, List.splitOn_eq_singleton (noAt _ localPlain),
        List.splitOn_eq_singleton (noAt _ domainPlain)]
      rfl
    unfold emailRegexTest
    rw [split]
    simp only [Bool.and_eq_true, bne_iff_ne, List.all_eq_true, List.contains_iff_mem]
    exact ⟨⟨⟨localSome, localPlain⟩, domainPlain⟩,
      mem_inside_iff.mpr ⟨label, rest, rfl, labelSome, restSome⟩⟩

/-! ### The login form -/

/-- The arguments of `AuthService.login`, which the form never calls with an empty one. -/
structure LoginRequest where
  username : String
  password : String
  filledIn : username ≠ "" ∧ password ≠ ""

structure LoginViewComponent where
  email : String
  password : String
  hidePassword : Bool
  isLoading : Bool
  errorMessage : Option Json
  /-- The last argument of `router.navigate`. -/
  navigated : Option String

/-- The form together with the service it signs in through. -/
structure LoginPage where
  component : LoginViewComponent
  authService : AuthService

/-- `logout` is that of the header or of the interceptor, which share the service. -/
inductive LoginEdit where
  | email (text : String)
  | password (text : String)
  | togglePasswordVisibility
  | logout

def credentialsMissing : Json := .string "Please enter email and password"

/-- What the form shows for an error. -/
def loginFailure (error : FormError) : Json :=
  if error.status = 401 then .string "Invalid email or password"
  else if error.status = 0 then .string "Unable to connect to server"
  else error.detailOr "Login failed. Please try again."

namespace LoginViewComponent

def initial : LoginViewComponent := ⟨"", "", true, false, none, none⟩

/-- `onLogin`, with the call of `authService.login` if it gets that far. -/
def onLogin (self : LoginViewComponent) : LoginViewComponent × Option LoginRequest :=
  if missing : self.email = "" ∨ self.password = "" then
    ({ self with errorMessage := some credentialsMissing }, none)
  else
    ({ self with isLoading := true, errorMessage := none },
      some ⟨self.email, self.password, not_or.mp missing⟩)

/-- Submitting either asks for what is missing or sends what was typed. -/
theorem onLogin_cases (self : LoginViewComponent) :
    self.onLogin = ({ self with errorMessage := some credentialsMissing }, none) ∨
      ∃ request : LoginRequest, request.username = self.email ∧
        request.password = self.password ∧
        self.onLogin = ({ self with isLoading := true, errorMessage := none }, some request) := by
  unfold onLogin
  split
  · exact Or.inl rfl
  · exact Or.inr ⟨_, rfl, rfl, rfl⟩

/-- The callbacks of the subscription. -/
def settle (self : LoginViewComponent) (answer : Except FormError String) :
    LoginViewComponent :=
  match answer with
  | .ok _ => { self with isLoading := false, navigated := some "/home" }
  | .error error => { self with isLoading := false, errorMessage := some (loginFailure error) }

end LoginViewComponent

namespace LoginPage

def edit (self : LoginPage) : LoginEdit → LoginPage
  | .email text => { self with component := { self.component with email := text } }
  | .password text => { self with component := { self.component with password := text } }
  | .togglePasswordVisibility =>
      { self with
        component := { self.component with hidePassword := !self.component.hidePassword } }
  | .logout => { self with authService := self.authService.logout }

/-- The service's `tap` or `catchError` runs before the form's own callback. -/
def settle (self : LoginPage) (answer : Except FormError String) : LoginPage where
  component := self.component.settle answer
  authService :=
    match answer with
    | .ok accessToken => self.authService.login accessToken
    | .error _ => self.authService.loginFailed

/-- The page of `/login`: every control is disabled while `isLoading()`. -/
def form : SingleFlight.Form LoginPage LoginEdit LoginRequest (Except FormError String) where
  busy := fun page => page.component.isLoading
  edit := edit
  submit := fun page => ({ page with component := page.component.onLogin.1 },
    page.component.onLogin.2)
  settle := settle

theorem form_disciplined : form.Disciplined where
  edit := by
    intro page edit
    cases edit <;> rfl
  submit := by
    intro page idle
    show page.component.onLogin.1.isLoading = page.component.onLogin.2.isSome
    rcases page.component.onLogin_cases with refused | ⟨request, -, -, sent⟩
    · rw [refused]
      exact idle
    · rw [sent]
      rfl
  settle := by
    intro page answer
    cases answer <;> rfl

/-- The message is the form's own or the one for the last answer, and after an answer the
stored token is the one it brought, unless a logout has removed it. -/
structure Shows (page : LoginPage) (settled : Option (LoginRequest × Except FormError String)) :
    Prop where
  waiting : page.component.isLoading = true → page.component.errorMessage = none
  message : ∀ message, page.component.errorMessage = some message →
    message = credentialsMissing ∨
      ∃ request error, settled = some (request, .error error) ∧ message = loginFailure error
  token : ∀ request answer, settled = some (request, answer) → ∀ token,
    page.authService.tokenStorage = some token → answer = .ok token

theorem shows_initial (authService : AuthService) : Shows ⟨.initial, authService⟩ none where
  waiting := fun _ => rfl
  message := by
    intro message shown
    cases shown
  token := by
    intro request answer settled
    cases settled

theorem form_reflects : SingleFlight.Reflects form Shows where
  edit := by
    intro page settled edit shows
    cases edit with
    | logout =>
        refine ⟨shows.waiting, shows.message, fun request answer _ token stored => ?_⟩
        cases stored
    | _ => exact ⟨shows.waiting, shows.message, shows.token⟩
  submit := by
    intro page settled idle shows
    have notLoading : page.component.isLoading = false := idle
    show Shows { page with component := page.component.onLogin.1 } settled
    rcases page.component.onLogin_cases with refused | ⟨request, -, -, sent⟩
    · rw [refused]
      refine ⟨fun loading => ?_, fun message shown => ?_, shows.token⟩
      · exact absurd loading (by simp [notLoading])
      · exact Or.inl (Option.some.inj shown).symm
    · rw [sent]
      refine ⟨fun _ => rfl, fun message shown => ?_, shows.token⟩
      cases shown
  settle := by
    intro page settled request answer busy shows
    have unset : page.component.errorMessage = none := shows.waiting busy
    cases answer with
    | ok accessToken =>
        refine ⟨fun _ => unset, fun message shown => ?_, fun other brought now token stored => ?_⟩
        · have same : page.component.errorMessage = some message := shown
          rw [unset] at same
          cases same
        · obtain ⟨-, rfl⟩ := Prod.mk.inj (Option.some.inj now)
          exact congrArg Except.ok (Option.some.inj stored)
    | error error =>
        refine ⟨fun loading => ?_, fun message shown => ?_, fun _ _ _ _ stored => ?_⟩
        · cases loading
        · exact Or.inr ⟨request, error, rfl, (Option.some.inj shown).symm⟩
        · cases stored

end LoginPage

/-! ### The registration form -/

/-- The arguments of `AuthService.register`, which the form has checked. -/
structure RegisterRequest where
  email : String
  password : String
  emailAccepted : emailRegexTest email = true
  passwordAccepted : 8 ≤ utf16Length password

structure RegistrationViewComponent where
  email : String
  password : String
  confirmPassword : String
  hidePassword : Bool
  hideConfirmPassword : Bool
  isLoading : Bool
  errorMessage : Option Json
  successMessage : Option String
  /-- What the timers of `setTimeout` will navigate to. -/
  redirects : List String

inductive RegistrationEdit where
  | email (text : String)
  | password (text : String)
  | confirmPassword (text : String)
  | togglePasswordVisibility
  | toggleConfirmPasswordVisibility

/-- What the form shows for an error. -/
def registrationFailure (error : FormError) : Json :=
  if error.status = 409 then .string "An account with this email already exists"
  else if error.status = 422 then .string "Invalid email or password format"
  else if error.status = 0 then .string "Unable to connect to server"
  else error.detailOr "Registration failed. Please try again."

/-- What the form shows for an entry it sends nowhere. -/
def registrationRefusals : List Json :=
  [.string "Please fill in all fields", .string "Please enter a valid email address",
    .string "Password must be at least 8 characters long", .string "Passwords do not match"]

namespace RegistrationViewComponent

def initial : RegistrationViewComponent := ⟨"", "", "", true, true, false, none, none, []⟩

def refuse (self : RegistrationViewComponent) (message : String) :
    RegistrationViewComponent × Option RegisterRequest :=
  ({ self with errorMessage := some (.string message) }, none)

/-- `onRegister`, with the call of `authService.register` if it gets that far. -/
def onRegister (self : RegistrationViewComponent) :
    RegistrationViewComponent × Option RegisterRequest :=
  if self.email = "" ∨ self.password = "" ∨ self.confirmPassword = "" then
    self.refuse "Please fill in all fields"
  else if emailAccepted : emailRegexTest self.email = true then
    if passwordAccepted : 8 ≤ utf16Length self.password then
      if self.password = self.confirmPassword then
        ({ self with isLoading := true, errorMessage := none, successMessage := none },
          some ⟨self.email, self.password, emailAccepted, passwordAccepted⟩)
      else self.refuse "Passwords do not match"
    else self.refuse "Password must be at least 8 characters long"
  else self.refuse "Please enter a valid email address"

/-- The callbacks of the subscription. -/
def settle (self : RegistrationViewComponent) (answer : Except FormError Unit) :
    RegistrationViewComponent :=
  match answer with
  | .ok _ =>
      { self with
        isLoading := false
        successMessage := some "Registration successful! Redirecting to login..."
        redirects := "/login" :: self.redirects }
  | .error error =>
      { self with isLoading := false, errorMessage := some (registrationFailure error) }

def edit (self : RegistrationViewComponent) : RegistrationEdit → RegistrationViewComponent
  | .email text => { self with email := text }
  | .password text => { self with password := text }
  | .confirmPassword text => { self with confirmPassword := text }
  | .togglePasswordVisibility => { self with hidePassword := !self.hidePassword }
  | .toggleConfirmPasswordVisibility =>
      { self with hideConfirmPassword := !self.hideConfirmPassword }

/-- The page of `/register`: every control is disabled while `isLoading()`. -/
def form : SingleFlight.Form RegistrationViewComponent RegistrationEdit RegisterRequest
    (Except FormError Unit) where
  busy := isLoading
  edit := edit
  submit := onRegister
  settle := settle

/-- Submitting either refuses the entry or sends it, and only the latter clears both
messages. -/
theorem onRegister_cases (self : RegistrationViewComponent) :
    (∃ message ∈ registrationRefusals,
        self.onRegister = ({ self with errorMessage := some message }, none)) ∨
      ∃ request : RegisterRequest, request.email = self.email ∧
        request.password = self.password ∧
        self.onRegister = ({ self with
          isLoading := true, errorMessage := none, successMessage := none }, some request) := by
  unfold onRegister refuse
  split
  · exact Or.inl ⟨_, by simp [registrationRefusals], rfl⟩
  · split
    · split
      · split
        · exact Or.inr ⟨_, rfl, rfl, rfl⟩
        · exact Or.inl ⟨_, by simp [registrationRefusals], rfl⟩
      · exact Or.inl ⟨_, by simp [registrationRefusals], rfl⟩
    · exact Or.inl ⟨_, by simp [registrationRefusals], rfl⟩

theorem form_disciplined : form.Disciplined where
  edit := by
    intro view edit
    cases edit <;> rfl
  submit := by
    intro view idle
    show view.onRegister.1.isLoading = view.onRegister.2.isSome
    rcases view.onRegister_cases with ⟨message, -, refused⟩ | ⟨request, -, -, sent⟩
    · rw [refused]
      exact idle
    · rw [sent]
      rfl
  settle := by
    intro view answer
    cases answer <;> rfl

/-- An error message is the form's own or the one for the last answer, and the success
message stands only after a success. -/
structure Shows (view : RegistrationViewComponent)
    (settled : Option (RegisterRequest × Except FormError Unit)) : Prop where
  waiting : view.isLoading = true → view.errorMessage = none ∧ view.successMessage = none
  message : ∀ message, view.errorMessage = some message → message ∈ registrationRefusals ∨
    ∃ request error, settled = some (request, .error error) ∧ message = registrationFailure error
  success : view.successMessage ≠ none → ∃ request, settled = some (request, .ok ())

theorem shows_initial : Shows .initial none where
  waiting := fun _ => ⟨rfl, rfl⟩
  message := by
    intro message shown
    cases shown
  success := fun shown => absurd rfl shown

theorem form_reflects : SingleFlight.Reflects form Shows where
  edit := by
    intro view settled edit shows
    cases edit <;> exact ⟨shows.waiting, shows.message, shows.success⟩
  submit := by
    intro view settled idle shows
    have notLoading : view.isLoading = false := idle
    show Shows view.onRegister.1 settled
    rcases view.onRegister_cases with ⟨message, listed, refused⟩ | ⟨request, -, -, sent⟩
    · rw [refused]
      refine ⟨fun loading => ?_, fun other shown => ?_, shows.success⟩
      · exact absurd loading (by simp [notLoading])
      · rw [← Option.some.inj shown]
        exact Or.inl listed
    · rw [sent]
      refine ⟨fun _ => ⟨rfl, rfl⟩, fun other shown => ?_, fun some => ?_⟩
      · cases shown
      · exact absurd rfl some
  settle := by
    intro view settled request answer busy shows
    obtain ⟨noError, noSuccess⟩ := shows.waiting busy
    cases answer with
    | ok value =>
        refine ⟨fun loading => ?_, fun message shown => ?_, fun _ => ⟨request, rfl⟩⟩
        · cases loading
        · have same : view.errorMessage = some message := shown
          rw [noError] at same
          cases same
    | error error =>
        refine ⟨fun loading => ?_, fun message shown => ?_, fun succeeded => ?_⟩
        · cases loading
        · exact Or.inr ⟨request, error, rfl, (Option.some.inj shown).symm⟩
        · exact absurd noSuccess succeeded

end RegistrationViewComponent

end DemoBase.Frontend
