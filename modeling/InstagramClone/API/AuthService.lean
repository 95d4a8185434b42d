import InstagramClone.API.UserService

/-! # AuthService

A successful sign-in or account creation makes the account the device's current user before the
completion handler runs.
-/

namespace InstagramClone

open Async

structure AuthCredentials where
  email : String
  password : Option String
  fullname : String
  username : String
  profileImage : Option UIImage
  profileImageUrl : Option String
deriving DecidableEq, Repr

/-- The part of the address before the first `@`, when there is one. -/
def extractUsername (email : String) : Option String :=
  match email.toList.splitOn '@' with
  | component :: _ :: _ => some (String.ofList component)
  | _ => none

namespace AuthService

variable {σ : Type} [Device σ]

/-- The handler of a sign-in, run after the device took the new current user. -/
def signedIn (completion : Except BackendError Uid → Code σ) :
    Except BackendError Uid → Code σ
  | .error error => completion (.error error)
  | .ok uid => .update (Device.setCurrentUser (some uid)) (completion (.ok uid))

def loginUser (email password : String) (completion : Except BackendError Uid → Code σ) : Code σ :=
  Code.call (.signIn email.toLower password) (signedIn completion)

def registerUser (credential : AuthCredentials)
    (completion : Option BackendError → Code σ) : Code σ :=
  match credential.password, credential.profileImage with
  | some password, some profileImage =>
    ImageUploaderService.uploadImage profileImage fun imageUrl =>
      Code.call (.createUser credential.email password) <| signedIn fun
        | .error _ => .done
        | .ok id => Code.call (.setData (.user id)
            (UserService.data credential.email credential.fullname imageUrl id credential.username))
              completion
  | _, _ => .done

def logoutUser : Code σ := .update (Device.setCurrentUser none) .done

def registerGoogleUser (credential : AuthCredential)
    (completion : Option BackendError → Code σ) : Code σ :=
  .seq logoutUser <| Code.call (.signInWith credential) <| signedIn fun
    | .error _ => .done
    | .ok uid => .inspect fun state =>
      match Device.googleProfile state with
      | none => .done
      | some profile => Code.call (.setData (.user uid)
          (UserService.data profile.email profile.name (profile.imageURL.getD "") uid
            ((extractUsername profile.email).getD profile.email))) completion

end AuthService

end InstagramClone
