import InstagramClone.Async.Obligation
import InstagramClone.Model.App

/-! # The app's code under a contract

One rule for each way the code is put together: what it must do in every state that the contract
lets it run in.
-/

namespace InstagramClone

open Async

/-- A signal without a failure has a choice without one. -/
theorem chosen_of_succeeds {signal : Signal cloud} (allowed : succeeds signal = true) :
    signal.Chosen fun choice : Choice => choice.succeeds = true := by
  cases signal with
  | serve index choice => exact allowed
  | deliver index => trivial
  | notify index choice => exact allowed

namespace Code

section Device

variable {S σ τ : Type} [Device σ] {C : Contract firebase S σ τ} {origin : τ} {store : S}

omit [Device σ] in
theorem keeps_call {request : Request} {completion : request.Response → Code σ}
    (allowed : C.allows origin store request)
    (keeps : ∀ later answer, C.evolves store later → C.replies later request answer →
      (completion answer).Keeps C origin later) :
    (call request completion).Keeps C origin store :=
  ⟨⟨allowed, keeps⟩, trivial⟩

theorem keeps_withCurrentUser {body : Uid → Code σ}
    (keeps : ∀ later state uid, C.evolves store later → C.holds origin later state →
      Device.currentUser state = some uid → (body uid).Keeps C origin later) :
    (withCurrentUser body).Keeps C origin store := by
  intro later state evolves valid
  cases signedIn : Device.currentUser state with
  | none => simp only [signedIn, Program.keeps_done]
  | some uid =>
    simp only [signedIn]
    exact keeps later state uid evolves valid signedIn

theorem keeps_withTimestamp {body : Timestamp → Code σ}
    (keeps : ∀ later timestamp, C.evolves store later → (body timestamp).Keeps C origin later) :
    (withTimestamp body).Keeps C origin store :=
  fun later state evolves _ => keeps later (Device.now state) evolves

end Device

section App

variable {S τ α : Type} [Instance α] {C : Contract firebase S App τ} {origin : τ} {store : S}

theorem keeps_withObject {ref : Ref} {body : α → Code App}
    (keeps : ∀ later app value, C.evolves store later → C.holds origin later app →
      app.find? α ref = some value → (body value).Keeps C origin later) :
    (withObject ref body).Keeps C origin store := by
  intro later app evolves valid
  cases found : app.find? α ref with
  | none => simp only [found, Program.keeps_done]
  | some value =>
    simp only [found]
    exact keeps later app value evolves valid found

theorem keeps_modify {ref : Ref} {change : α → α}
    (keeps : ∀ later app, C.evolves store later → C.holds origin later app →
      C.holds origin later (app.modify ref change)) :
    (modify ref change).Keeps C origin store :=
  ⟨keeps, trivial⟩

theorem keeps_alloc {value : α} {inTab : Bool} {body : Ref → Code App}
    (valid : ∀ later app, C.evolves store later → C.holds origin later app →
      C.holds origin later (app.add (Instance.inject value) inTab))
    (keeps : ∀ later app, C.evolves store later → C.holds origin later app →
      (body app.objects.length).Keeps C origin later) :
    (alloc value inTab body).Keeps C origin store := by
  intro later app evolves holds
  exact ⟨fun last app beyond => valid last app (C.trans evolves beyond),
    keeps later app evolves holds⟩

theorem keeps_push {opener : Ref} {value : α}
    (valid : ∀ later app inTab, C.evolves store later → C.holds origin later app →
      C.holds origin later (app.add (Instance.inject value) inTab)) :
    (push opener value).Keeps C origin store := by
  intro later app evolves _
  refine keeps_alloc (fun last app beyond => valid last app _ (C.trans evolves beyond)) ?_
  exact fun _ _ _ _ => trivial

theorem keeps_withTabUser {ref : Ref} {body : User → Code App}
    (keeps : ∀ later app user, C.evolves store later → C.holds origin later app →
      app.inTab ref = true → app.user = some user → (body user).Keeps C origin later) :
    (withTabUser ref body).Keeps C origin store := by
  intro later app evolves valid
  cases inside : app.inTab ref with
  | false => simp only [inside, Program.keeps_done]
  | true =>
    cases shown : app.user with
    | none => simp only [inside, shown, Program.keeps_done]
    | some user =>
      simp only [inside, shown]
      exact keeps later app user evolves valid inside shown

end App

end Code

end InstagramClone
