import InstagramClone.Model.Backend
import InstagramClone.Model.Records

/-! # What services read of the device

Services are generic in the client state. All they use of it is who is signed in, the clock, and
the profile of the last Google sign-in. `Session` is the smallest such state.
-/

namespace InstagramClone

open Async

/-- `GIDSignIn.sharedInstance.currentUser?.profile` -/
structure GoogleProfile where
  email : String
  name : String
  imageURL : Option String
deriving DecidableEq, Repr

class Device (σ : Type) where
  /-- `Auth.auth().currentUser?.uid` -/
  currentUser : σ → Option Uid
  setCurrentUser : Option Uid → σ → σ
  now : σ → Timestamp
  googleProfile : σ → Option GoogleProfile

/-- A client of which only the signed-in account matters. -/
structure Session where
  currentUser : Option Uid
  now : Timestamp := ⟨0, 0⟩
deriving DecidableEq, Repr

instance : Device Session where
  currentUser := Session.currentUser
  setCurrentUser uid session := { session with currentUser := uid }
  now := Session.now
  googleProfile _ := none

namespace Code

variable {σ : Type} [Device σ]

/-- Issue one request with its completion handler. -/
def call (request : Request) (completion : request.Response → Code σ) : Code σ :=
  .send request completion .done

/-- `guard let uid = Auth.auth().currentUser?.uid else { return }` -/
def withCurrentUser (body : Uid → Code σ) : Code σ :=
  .inspect fun state =>
    match Device.currentUser state with
    | none => .done
    | some uid => body uid

/-- `Timestamp(date: Date())` -/
def withTimestamp (body : Timestamp → Code σ) : Code σ :=
  .inspect fun state => body (Device.now state)

omit [Device σ] in
@[simp] theorem run_call (request : Request) (completion : request.Response → Code σ) (state : σ) :
    (call request completion).run state = ⟨some state, [⟨request, completion⟩], []⟩ := rfl

omit [Device σ] in
@[simp] theorem call_seq (request : Request) (completion : request.Response → Code σ)
    (last : Code σ) : (call request completion).seq last = .send request completion last := rfl

theorem run_withCurrentUser {state : σ} {uid : Uid} (signedIn : Device.currentUser state = some uid)
    (body : Uid → Code σ) : (withCurrentUser body).run state = (body uid).run state := by
  simp [withCurrentUser, signedIn]

theorem run_withCurrentUser_none {state : σ} (signedOut : Device.currentUser state = none)
    (body : Uid → Code σ) : (withCurrentUser body).run state = ⟨some state, [], []⟩ := by
  simp [withCurrentUser, signedOut]

@[simp] theorem run_withTimestamp (body : Timestamp → Code σ) (state : σ) :
    (withTimestamp body).run state = (body (Device.now state)).run state := rfl

end Code

end InstagramClone
