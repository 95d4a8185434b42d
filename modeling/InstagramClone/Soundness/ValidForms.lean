import InstagramClone.Async.Run
import InstagramClone.Controller.AuthenticationForms

/-! # What the forms submit

From the first edit on, each text that the view model holds is that of its field, and the button is
enabled as the view model says. The login button starts disabled, but the sign-up button starts
enabled, so that a picked photo is enough to submit an empty form.
-/

namespace InstagramClone

open Async

namespace ValidForms

section Login

inductive LoginEvent where
  | edit (field : LoginController.TextField) (text : String)
  | tapLogin

/-- A button can be tapped while it is enabled. -/
def loginStep? (form : LoginController) : LoginEvent → Option LoginController
  | .edit field text => some (form.edit field text)
  | .tapLogin => if form.loginButton.isEnabled then some form else none

/-- What is submitted is not empty, and what the view model has found valid. -/
def LoginSubmits (form : LoginController) : LoginEvent → Prop
  | .edit .. => True
  | .tapLogin => ∀ submitted ∈ form.onTapLogin, submitted.1 ≠ "" ∧ submitted.2 ≠ "" ∧
      form.viewModel.isValidForm = true ∧
      form.viewModel = ⟨some submitted.1, some submitted.2⟩

/-- The view model holds the text of the field, or none for a field that was not edited. -/
def Copies (model field : Option String) : Prop :=
  ∃ text, field = some text ∧ (model = some text ∨ model = none ∧ text = "")

private theorem copies_start : Copies none (some "") := ⟨"", rfl, .inr ⟨rfl, rfl⟩⟩

private theorem copies_edited (text : String) :
    Copies (some text) (some text) := ⟨text, rfl, .inl rfl⟩

private theorem Copies.valid {model field : Option String} (copies : Copies model field)
    (valid : entered model = true) :
    ∃ text, model = some text ∧ field = some text ∧ text ≠ "" := by
  obtain ⟨value, rfl, filled⟩ := entered_iff.mp valid
  obtain ⟨text, shown, same | ⟨missing, -⟩⟩ := copies
  · obtain rfl := Option.some.inj same
    exact ⟨value, rfl, shown, filled⟩
  · cases missing

private theorem Copies.untouched {field : Option String} (copies : Copies none field) :
    field = some "" := by
  obtain ⟨text, shown, same | ⟨-, rfl⟩⟩ := copies
  · cases same
  · exact shown

structure LoginAgrees (form : LoginController) : Prop where
  email : Copies form.viewModel.email form.emailTextField
  password : Copies form.viewModel.password form.passwordTextField
  enabled : form.loginButton.isEnabled = form.viewModel.isValidForm

private theorem LoginAgrees.step {form next : LoginController} {event : LoginEvent}
    (agrees : LoginAgrees form) (taken : loginStep? form event = some next) : LoginAgrees next := by
  cases event with
  | edit field text =>
    obtain rfl := Option.some.inj taken
    cases field with
    | email => exact ⟨copies_edited text, agrees.password, rfl⟩
    | password => exact ⟨agrees.email, copies_edited text, rfl⟩
  | tapLogin =>
    simp only [loginStep?] at taken
    split_ifs at taken
    obtain rfl := Option.some.inj taken
    exact agrees

private theorem LoginAgrees.submits {form next : LoginController} {event : LoginEvent}
    (agrees : LoginAgrees form) (taken : loginStep? form event = some next) :
    LoginSubmits form event := by
  cases event with
  | edit => trivial
  | tapLogin =>
    simp only [loginStep?] at taken
    split_ifs at taken with enabled
    have valid : form.viewModel.isValidForm = true := agrees.enabled.symm.trans enabled
    obtain ⟨validEmail, validPassword⟩ := Bool.and_eq_true_iff.mp valid
    obtain ⟨email, modelEmail, fieldEmail, filledEmail⟩ := agrees.email.valid validEmail
    obtain ⟨password, modelPassword, fieldPassword, filledPassword⟩ :=
      agrees.password.valid validPassword
    intro submitted passed
    rw [LoginController.onTapLogin, fieldEmail, fieldPassword] at passed
    obtain rfl := Option.some.inj passed
    refine ⟨filledEmail, filledPassword, valid, ?_⟩
    rw [← modelEmail, ← modelPassword]

end Login

section Registration

inductive RegistrationEvent where
  | edit (field : RegistrationController.TextField) (text : String)
  | pick (editedImage : Option UIImage)
  | tapSignUp

def registrationStep? (form : RegistrationController) :
    RegistrationEvent → Option RegistrationController
  | .edit field text => some (form.edit field text)
  | .pick editedImage => some (form.didFinishPickingMedia editedImage)
  | .tapSignUp => if form.signUpButton.isEnabled then some form else none

/-- What is submitted is not empty, and what the view model has found valid. -/
def RegistrationSubmits (form : RegistrationController) : RegistrationEvent → Prop
  | .edit .. | .pick _ => True
  | .tapSignUp => ∀ credential ∈ form.onTapSignUp,
      credential.email ≠ "" ∧ (∃ password, credential.password = some password ∧ password ≠ "") ∧
      credential.fullname ≠ "" ∧ credential.username ≠ "" ∧
      form.viewModel.isValidForm = true ∧ form.viewModel =
        ⟨some credential.email, credential.password, some credential.fullname,
          some credential.username⟩

/-- With a photo picked, Sign Up is tapped only once some field was edited. -/
def Edited (form : RegistrationController) : RegistrationEvent → Prop
  | .edit .. | .pick _ => True
  | .tapSignUp => form.profileImage.isSome → form.viewModel ≠ {}

instance (form : RegistrationController) (event : RegistrationEvent) :
    Decidable (Edited form event) :=
  match event with
  | .edit .. | .pick _ => inferInstanceAs (Decidable True)
  | .tapSignUp => inferInstanceAs (Decidable (form.profileImage.isSome → form.viewModel ≠ {}))

structure RegistrationAgrees (form : RegistrationController) : Prop where
  email : Copies form.viewModel.email form.emailTextField
  password : Copies form.viewModel.password form.passwordTextField
  fullName : Copies form.viewModel.fullName form.fullNameTextField
  username : Copies form.viewModel.username form.userNameTextField
  enabled : form.viewModel ≠ {} → form.signUpButton.isEnabled = form.viewModel.isValidForm

private theorem RegistrationAgrees.step {form next : RegistrationController}
    {event : RegistrationEvent} (agrees : RegistrationAgrees form)
    (taken : registrationStep? form event = some next) :
    RegistrationAgrees next := by
  obtain ⟨email, password, fullName, username, enabled⟩ := agrees
  cases event with
  | edit field text =>
    obtain rfl := Option.some.inj taken
    cases field with
    | email => exact ⟨copies_edited text, password, fullName, username, fun _ => rfl⟩
    | password => exact ⟨email, copies_edited text, fullName, username, fun _ => rfl⟩
    | fullName => exact ⟨email, password, copies_edited text, username, fun _ => rfl⟩
    | userName => exact ⟨email, password, fullName, copies_edited text, fun _ => rfl⟩
  | pick editedImage =>
    obtain rfl := Option.some.inj taken
    cases editedImage with
    | none => exact ⟨email, password, fullName, username, enabled⟩
    | some image => exact ⟨email, password, fullName, username, enabled⟩
  | tapSignUp =>
    simp only [registrationStep?] at taken
    split_ifs at taken
    obtain rfl := Option.some.inj taken
    exact ⟨email, password, fullName, username, enabled⟩

/-- A tap submits what is valid exactly if the form was edited before, where there is a photo. -/
private theorem RegistrationAgrees.submits_iff {form next : RegistrationController}
    {event : RegistrationEvent} (agrees : RegistrationAgrees form)
    (taken : registrationStep? form event = some next) :
    RegistrationSubmits form event ↔ Edited form event := by
  cases event with
  | edit => exact Iff.rfl
  | pick => exact Iff.rfl
  | tapSignUp =>
    simp only [registrationStep?] at taken
    split_ifs at taken with tappable
    constructor
    · intro submits picked untouched
      obtain ⟨image, picked⟩ := Option.isSome_iff_exists.mp picked
      obtain ⟨emailCopies, passwordCopies, fullNameCopies, usernameCopies, -⟩ := agrees
      rw [untouched] at emailCopies passwordCopies fullNameCopies usernameCopies
      have passed : form.onTapSignUp = some ⟨"", some "", "", "", some image, none⟩ := by
        rw [RegistrationController.onTapSignUp, emailCopies.untouched, passwordCopies.untouched,
          fullNameCopies.untouched, usernameCopies.untouched, picked]
        rfl
      exact (submits _ passed).1 rfl
    · intro edited credential passed
      have picked : form.profileImage.isSome := by
        cases missing : form.profileImage with
        | none => simp [RegistrationController.onTapSignUp, missing] at passed
        | some image => rfl
      have valid : form.viewModel.isValidForm = true :=
        (agrees.enabled (edited picked)).symm.trans tappable
      obtain ⟨rest, validUsername⟩ := Bool.and_eq_true_iff.mp valid
      obtain ⟨rest, validFullName⟩ := Bool.and_eq_true_iff.mp rest
      obtain ⟨validEmail, validPassword⟩ := Bool.and_eq_true_iff.mp rest
      obtain ⟨email, modelEmail, fieldEmail, filledEmail⟩ := agrees.email.valid validEmail
      obtain ⟨password, modelPassword, fieldPassword, filledPassword⟩ :=
        agrees.password.valid validPassword
      obtain ⟨fullName, modelFullName, fieldFullName, filledFullName⟩ :=
        agrees.fullName.valid validFullName
      obtain ⟨username, modelUsername, fieldUsername, filledUsername⟩ :=
        agrees.username.valid validUsername
      obtain ⟨image, picked⟩ := Option.isSome_iff_exists.mp picked
      rw [RegistrationController.onTapSignUp, fieldEmail, fieldPassword, fieldFullName,
        fieldUsername, picked] at passed
      obtain rfl := Option.some.inj passed
      refine ⟨filledEmail, ⟨password, rfl, filledPassword⟩, filledFullName, filledUsername, valid, ?_⟩
      rw [← modelEmail, ← modelPassword, ← modelFullName, ← modelUsername]

end Registration

section Run

/-- The sign-up form submits only what is valid exactly if, with a photo picked, it is submitted only
after some edit. The login form submits only what is valid. -/
theorem valid_forms_submitted (events : List RegistrationEvent) (final : RegistrationController)
    (logins : List LoginEvent) (form : LoginController) :
    (Run (fun form event next => registrationStep? form event = some next ∧
        RegistrationSubmits form event) {} events final ↔
      Run (fun form event next => registrationStep? form event = some next ∧ Edited form event)
        {} events final) ∧
    (Run (fun form event next => loginStep? form event = some next) {} logins form →
      Run (fun form event next => loginStep? form event = some next ∧ LoginSubmits form event)
        {} logins form) := by
  constructor
  · refine Run.congr RegistrationAgrees ?_ ?_ ?_
    · exact ⟨copies_start, copies_start, copies_start, copies_start, fun edited => absurd rfl edited⟩
    · exact fun taken agrees => agrees.submits_iff taken
    · exact fun taken _ agrees => agrees.step taken
  · intro run
    have same : Run (fun form event next => loginStep? form event = some next ∧
          LoginSubmits form event) {} logins form ↔
        Run (fun form event next => loginStep? form event = some next ∧ True) {} logins form := by
      refine Run.congr LoginAgrees ⟨copies_start, copies_start, rfl⟩ ?_ ?_
      · exact fun taken agrees => iff_of_true (agrees.submits taken) trivial
      · exact fun taken _ agrees => agrees.step taken
    exact same.mpr (run.mono fun taken => ⟨taken, trivial⟩)

/-- A photo is picked and Sign Up is tapped at once: four empty texts are submitted. -/
theorem empty_form_submitted :
    ¬ ∀ (events : List RegistrationEvent) (final : RegistrationController),
      Run (fun form event next => registrationStep? form event = some next) {} events final →
      Run (fun form event next => registrationStep? form event = some next ∧
        RegistrationSubmits form event) {} events final := by
  intro claim
  have taps : Run (fun form event next => registrationStep? form event = some next) {}
      [.pick (some ⟨some []⟩), .tapSignUp] { profileImage := some ⟨some []⟩ } :=
    .cons rfl (.single rfl)
  cases claim _ _ taps with
  | cons picked rest =>
    cases rest with
    | cons tapped _ =>
      obtain rfl := Option.some.inj picked.1
      exact (tapped.2 _ rfl).1 rfl

end Run

end ValidForms

end InstagramClone
