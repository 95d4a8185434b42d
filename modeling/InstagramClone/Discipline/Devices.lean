import InstagramClone.Discipline.Controllers

/-! # Any number of devices

Each device signs in and out and uses the app, and the surroundings serve, refuse, delay and reorder
requests as they like. A policy whose contract lets every device read, register and write holds
along all their runs.
-/

namespace InstagramClone

open Async

/-- What the user of a device does: sign in or out, or use the app. -/
inductive AppAction where
  | auth (action : AuthAction)
  | user (action : UserAction)

def AppAction.perform : AppAction → Code App
  | auth action => action.perform
  | user action => action.perform

def AppAction.Pictured (image : String → Prop) : AppAction → Prop
  | auth action => action.Pictured image
  | user _ => True

theorem AppAction.pictured_of_forall {image : String → Prop} (all : ∀ link, image link)
    (action : AppAction) : action.Pictured image := by
  cases action with
  | auth action => exact action.pictured_of_forall all
  | user action => trivial

/-- The app on a device that nobody is signed in to: it shows a login page. -/
def App.signedOut : App where
  currentUser := none
  objects := [⟨.authentication ⟨true⟩, false⟩]

namespace Policy

variable {ι : Type} {B : Backend firebase} {P : Policy B.Store}
  {C : Contract firebase B.Store App ι} {client : ι} {store : B.Store} {app : App}

/-- A new device holds nothing yet. -/
theorem governs_signedOut {S : Type} {P : Policy S} {store : S} : P.Governs store .signedOut := by
  refine ⟨fun _ shown => (Option.some_ne_none _ shown.symm).elim,
    fun _ shown => (Option.some_ne_none _ shown.symm).elim,
    fun _ shown => (Option.some_ne_none _ shown.symm).elim, fun entry member => ?_⟩
  obtain rfl := List.mem_singleton.mp member
  trivial

/-- Every action of a device keeps a contract whose policy trusts all identities. -/
private theorem effect_perform (registers : P.Registers C client) (writes : P.Writes C client)
    (signs : ∀ store user, P.signs store user) (uploads : ∀ store uid user, P.uploads store uid user)
    (valid : C.holds client store app) {action : AppAction} (pictured : action.Pictured P.image) :
    (action.perform.run app).Keeps C client store := by
  cases action with
  | auth action => exact (registers.keeps_perform pictured).run valid
  | user action =>
    apply writes.effect_perform valid
    cases action with
    | uploadOnTapShare => exact fun _ _ _ user _ uid _ => uploads store uid user
    | _ => exact fun user _ => signs store user

variable [DecidableEq ι] {net final : Network B App ι ι} {events : List (Event B ι AppAction)}
  {chosen : B.Choice → Prop} {legal : Event B ι AppAction → Prop}

/-- Such a contract holds along every run whose signals are those that the backend is lawful for, and
the store evolves as it says. -/
theorem sound_run (registers : ∀ client, P.Registers C client) (writes : ∀ client, P.Writes C client)
    (signs : ∀ store user, P.signs store user) (uploads : ∀ store uid user, P.uploads store uid user)
    (lawful : B.Lawful C chosen) (signals : ∀ signal, legal (.signal signal) → signal.Chosen chosen)
    (pictured : ∀ client action, legal (.act client action) → action.Pictured P.image)
    (start : net.Sound C id)
    (run : Run (fun net event next => legal event ∧ net.event? AppAction.perform event = some next)
      net events final) : final.Sound C id ∧ C.evolves net.store final.store := by
  apply run.invariant ⟨start, C.refl net.store⟩
  rintro state event next ⟨allowed, taken⟩ ⟨sound, since⟩
  have stepped : next.Sound C id ∧ C.evolves state.store next.store := by
    apply sound.event lawful _ _ taken
    · rintro signal rfl
      exact signals signal allowed
    · rintro client action rfl app running
      exact effect_perform (registers client) (writes client) signs uploads
        (sound.clients client app running) (pictured client action allowed)
  exact ⟨stepped.1, C.trans since stepped.2⟩

end Policy

end InstagramClone
