import InstagramClone.Controller.MainTabController

/-! # The forms of LoginController and RegistrationController

The view model holds a copy of each text that was edited, and the button is enabled by its verdict.
What is submitted is read from the fields themselves. A text field is never without a text: it
starts with the empty one.
-/

namespace InstagramClone

open Async

inductive Hue where
  | blue
  | systemBlue
deriving DecidableEq, Repr

/-- A colour with the alpha component in percent. -/
structure UIColor where
  hue : Hue
  alpha : ℕ := 100
deriving DecidableEq, Repr

/-- `text?.isEmpty == false` -/
def entered (text : Option String) : Bool := text.map String.isEmpty = some false

theorem entered_iff {text : Option String} :
    entered text = true ↔ ∃ value, text = some value ∧ value ≠ "" := by
  cases text with
  | none => simp [entered]
  | some value => simp [entered]

/-- `isValidForm ? UIColor.systemBlue : UIColor.systemBlue.withAlphaComponent(0.5)` -/
def formColor (isValidForm : Bool) : UIColor :=
  if isValidForm then { hue := .systemBlue } else { hue := .systemBlue, alpha := 50 }

structure LoginViewModel where
  email : Option String := none
  password : Option String := none
deriving DecidableEq, Repr

namespace LoginViewModel

def isValidForm (self : LoginViewModel) : Bool := entered self.email && entered self.password

def buttonBackgroundColor (self : LoginViewModel) : UIColor := formColor self.isValidForm

end LoginViewModel

structure RegistrationViewModel where
  email : Option String := none
  password : Option String := none
  fullName : Option String := none
  username : Option String := none
deriving DecidableEq, Repr

namespace RegistrationViewModel

def isValidForm (self : RegistrationViewModel) : Bool :=
  entered self.email && entered self.password && entered self.fullName && entered self.username

def buttonBackgroundColor (self : RegistrationViewModel) : UIColor := formColor self.isValidForm

end RegistrationViewModel

structure UIButton where
  backgroundColor : UIColor
  isEnabled : Bool
deriving DecidableEq, Repr

structure LoginController where
  viewModel : LoginViewModel := {}
  emailTextField : Option String := some ""
  passwordTextField : Option String := some ""
  loginButton : UIButton := ⟨{ hue := .systemBlue, alpha := 50 }, false⟩
deriving DecidableEq, Repr

namespace LoginController

inductive TextField where
  | email
  | password
deriving DecidableEq, Repr

def updateForm (self : LoginController) : LoginController :=
  { self with loginButton := ⟨self.viewModel.buttonBackgroundColor, self.viewModel.isValidForm⟩ }

def onTextChanged (sender : TextField) (self : LoginController) : LoginController :=
  updateForm <| match sender with
    | .email => { self with viewModel := { self.viewModel with email := self.emailTextField } }
    | .password =>
      { self with viewModel := { self.viewModel with password := self.passwordTextField } }

/-- The user edits a field, which reports `editingChanged`. -/
def edit (sender : TextField) (text : String) (self : LoginController) : LoginController :=
  onTextChanged sender <| match sender with
    | .email => { self with emailTextField := some text }
    | .password => { self with passwordTextField := some text }

/-- What `onTapLogin` passes to `loginUser`. -/
def onTapLogin (self : LoginController) : Option (String × String) :=
  self.emailTextField.bind fun email => self.passwordTextField.map fun password =>
    (email, password)

end LoginController

structure RegistrationController where
  viewModel : RegistrationViewModel := {}
  profileImage : Option UIImage := none
  emailTextField : Option String := some ""
  passwordTextField : Option String := some ""
  fullNameTextField : Option String := some ""
  userNameTextField : Option String := some ""
  signUpButton : UIButton := ⟨{ hue := .blue, alpha := 50 }, true⟩
deriving DecidableEq, Repr

namespace RegistrationController

inductive TextField where
  | email
  | password
  | fullName
  | userName
deriving DecidableEq, Repr

def updateForm (self : RegistrationController) : RegistrationController :=
  { self with signUpButton := ⟨self.viewModel.buttonBackgroundColor, self.viewModel.isValidForm⟩ }

def onTextChanged (sender : TextField) (self : RegistrationController) : RegistrationController :=
  updateForm <| match sender with
    | .email => { self with viewModel := { self.viewModel with email := self.emailTextField } }
    | .password =>
      { self with viewModel := { self.viewModel with password := self.passwordTextField } }
    | .fullName =>
      { self with viewModel := { self.viewModel with fullName := self.fullNameTextField } }
    | .userName =>
      { self with viewModel := { self.viewModel with username := self.userNameTextField } }

/-- The user edits a field, which reports `editingChanged`. -/
def edit (sender : TextField) (text : String) (self : RegistrationController) :
    RegistrationController :=
  onTextChanged sender <| match sender with
    | .email => { self with emailTextField := some text }
    | .password => { self with passwordTextField := some text }
    | .fullName => { self with fullNameTextField := some text }
    | .userName => { self with userNameTextField := some text }

/-- `imagePickerController(_:didFinishPickingMediaWithInfo:)` with `info[.editedImage]` -/
def didFinishPickingMedia (editedImage : Option UIImage) (self : RegistrationController) :
    RegistrationController :=
  match editedImage with
  | none => self
  | some image => { self with profileImage := some image }

/-- What `onTapSignUp` passes to `registerUser`. -/
def onTapSignUp (self : RegistrationController) : Option AuthCredentials :=
  self.emailTextField.bind fun email => self.passwordTextField.bind fun password =>
    self.userNameTextField.bind fun username => self.fullNameTextField.bind fun fullName =>
      self.profileImage.map fun image =>
        ⟨email, some password, fullName, username, some image, none⟩

end RegistrationController

section Services

variable {page : Ref}

/-- A tap on Log In calls `loginUser` with just these. -/
theorem onTapLogin_eq {self : LoginController} {email password : String}
    (emailIs : self.emailTextField = some email)
    (passwordIs : self.passwordTextField = some password) :
    AuthenticationController.onTapLogin page email password =
      match self.onTapLogin with
      | none => .done
      | some (email, password) => AuthService.loginUser email password fun
          | .error _ => .done
          | .ok _ => AuthenticationController.didComplete page := by
  rw [LoginController.onTapLogin, emailIs, passwordIs]
  rfl

/-- A tap on Sign Up calls `registerUser` with just this, or nothing. -/
theorem onTapSignUp_eq {self : RegistrationController} {email password username fullName : String}
    (emailIs : self.emailTextField = some email) (passwordIs : self.passwordTextField = some password)
    (usernameIs : self.userNameTextField = some username)
    (fullNameIs : self.fullNameTextField = some fullName) :
    AuthenticationController.onTapSignUp page email password username fullName self.profileImage =
      match self.onTapSignUp with
      | none => .done
      | some credential => AuthService.registerUser credential fun
          | some _ => .done
          | none => AuthenticationController.didComplete page := by
  rw [RegistrationController.onTapSignUp, emailIs, passwordIs, usernameIs, fullNameIs]
  cases self.profileImage <;> rfl

end Services

end InstagramClone
