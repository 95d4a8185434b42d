import InstagramClone.Async.Contract
import InstagramClone.Async.Settlement
import InstagramClone.Model.Device

/-! # ImageUploaderService

The observer of the upload task moves the progress bar. It divides the counts of every progress that
it is shown, which traps as long as nothing has been sent.
-/

namespace InstagramClone.ImageUploaderService

open Async

variable {σ : Type}

/-- The observer: `completedUnitCount / totalUnitCount`. -/
def handleProgress (progress : UploadProgress) : Code σ := if progress.divides then .done else .trap

def handleLocated (completion : String → Code σ) : Except BackendError String → Code σ
  | .error _ => .done
  | .ok imageUrl => completion imageUrl

/-- The task's observer is called first, and its completion handler last. -/
def handleStored (completion : String → Code σ) (upload : Upload) : Code σ :=
  .seq (.forEach upload.snapshots handleProgress) <|
  match upload.result with
  | .error _ => .done
  | .ok ref => Code.call (.downloadURL ref) (handleLocated completion)

def uploadImage (image : UIImage) (completion : String → Code σ) : Code σ :=
  match image.jpegData with
  | none => .done
  | some imageData => Code.call (.putData imageData) (handleStored completion)

variable {image : UIImage} {completion : String → Code σ}

theorem uploadImage_of_encoded {data : Bytes} (encoded : image.jpegData = some data)
    (completion : String → Code σ) :
    uploadImage image completion = Code.call (.putData data) (handleStored completion) := by
  simp only [uploadImage, encoded]

private theorem forEach_handleProgress (snapshots : List UploadProgress) :
    (Program.forEach snapshots handleProgress : Code σ) =
      if snapshots.all UploadProgress.divides then .done else .trap := by
  induction snapshots with
  | nil => rfl
  | cons progress rest ih =>
    rw [Program.forEach_cons, ih, handleProgress, List.all_cons]
    cases progress.divides <;> rfl

/-- An upload stops the app, or ends where it fails, or goes on with its object. -/
theorem handleStored_cases (completion : String → Code σ) (upload : Upload) :
    (upload.steady = false ∧ handleStored completion upload = .trap) ∨
      (upload.steady = true ∧ ((∃ error, upload.result = .error error) ∧
          handleStored completion upload = .done ∨
        ∃ ref, upload.result = .ok ref ∧
          handleStored completion upload =
            Code.call (.downloadURL ref) (handleLocated completion))) := by
  unfold handleStored
  rw [forEach_handleProgress]
  cases steady : upload.steady with
  | false =>
    rw [Upload.steady] at steady
    exact .inl ⟨rfl, by simp only [steady]; rfl⟩
  | true =>
    rw [Upload.steady] at steady
    refine .inr ⟨rfl, ?_⟩
    cases stored : upload.result with
    | error error => exact .inl ⟨⟨error, rfl⟩, by simp only [steady]; rfl⟩
    | ok ref => exact .inr ⟨ref, rfl, by simp only [steady]; rfl⟩

/-- An upload that does not stop the app and stores the image asks for its URL. -/
theorem handleStored_ok {upload : Upload} {ref : String} (steady : upload.steady = true)
    (stored : upload.result = .ok ref) :
    handleStored completion upload = Code.call (.downloadURL ref) (handleLocated completion) := by
  obtain ⟨wild, -⟩ | ⟨-, ⟨⟨error, failed⟩, -⟩ | ⟨other, found, same⟩⟩ :=
    handleStored_cases completion upload
  · exact absurd (wild.symm.trans steady) Bool.false_ne_true
  · cases failed.symm.trans stored
  · obtain rfl := Except.ok.inj (found.symm.trans stored)
    exact same

/-- What is true of an upload's steps, and of the code that it hands the URL to, is true of it. -/
theorem uploadImage_induction (holds : Code σ → Prop) (idle : holds .done) (crash : holds .trap)
    (put : ∀ data callback, image.jpegData = some data → (∀ upload, holds (callback upload)) →
      holds (Code.call (.putData data) callback))
    (locate : ∀ ref callback, (∀ answer, holds (callback answer)) →
      holds (Code.call (.downloadURL ref) callback))
    (complete : ∀ url, holds (completion url)) : holds (uploadImage image completion) := by
  unfold uploadImage
  cases encoded : image.jpegData with
  | none => exact idle
  | some data =>
    refine put data _ encoded fun upload => ?_
    rcases handleStored_cases completion upload with ⟨-, same⟩ | ⟨-, ⟨-, same⟩ | ⟨ref, -, same⟩⟩
    · exact same ▸ crash
    · exact same ▸ idle
    · refine same ▸ locate ref _ fun answer => ?_
      cases answer with
      | error => exact idle
      | ok url => exact complete url

section Settlement

variable {state : σ} {final : Option σ} {served : List (Served firebase)}

/-- What is asked for an image that is not uploaded: nothing if it cannot be encoded, and else up to
the request that fails. -/
inductive Stopped (image : UIImage) : List (Served firebase) → Prop
  | unencoded : image.jpegData = none → Stopped image []
  | unstored (data : Bytes) : image.jpegData = some data → Stopped image [⟨.putData data, false⟩]
  | unlocated (data : Bytes) (ref : String) : image.jpegData = some data →
      Stopped image [⟨.putData data, true⟩, ⟨.downloadURL ref, false⟩]

/-- An upload whose requests have been answered has stopped, maybe with the app, or gone on with the
URL. -/
theorem settles_uploadImage
    (settles : Settles Request.succeeded ((uploadImage image completion).run state).calls
      ((uploadImage image completion).run state).state served final) :
    (Stopped image served ∧ ∀ last ∈ final, last = state) ∨
      ∃ data ref url later, image.jpegData = some data ∧
        served = ⟨.putData data, true⟩ :: ⟨.downloadURL ref, true⟩ :: later ∧
        Settles Request.succeeded ((completion url).run state).calls
          ((completion url).run state).state later final := by
  unfold uploadImage at settles
  cases encoded : image.jpegData with
  | none =>
    simp only [encoded, Program.run_done] at settles
    obtain ⟨rfl, rfl⟩ := settles.of_nil
    exact .inl ⟨.unencoded encoded, by simp⟩
  | some data =>
    simp only [encoded, Code.run_call] at settles
    obtain ⟨upload, later, rest, rfl⟩ := settles.of_single
    rcases handleStored_cases completion upload with
      ⟨wild, same⟩ | ⟨steady, ⟨⟨error, failed⟩, same⟩ | ⟨ref, stored, same⟩⟩
    · simp only [same] at rest
      obtain ⟨rfl, rfl⟩ := rest.of_none
      simp only [Request.succeeded, wild, Bool.false_and]
      exact .inl ⟨.unstored data encoded, by simp⟩
    · simp only [same] at rest
      obtain ⟨rfl, rfl⟩ := rest.of_nil
      simp only [Request.succeeded, failed, Except.isOk, Except.toBool, Bool.and_false]
      exact .inl ⟨.unstored data encoded, by simp⟩
    · simp only [same, Code.run_call] at rest
      obtain ⟨answer, later, settled, rfl⟩ := rest.of_single
      simp only [Request.succeeded, steady, stored, Except.isOk, Except.toBool, Bool.and_self]
      cases answer with
      | error error =>
        obtain ⟨rfl, rfl⟩ := settled.of_nil
        exact .inl ⟨.unlocated data ref encoded, by simp⟩
      | ok url => exact .inr ⟨data, ref, url, later, rfl, rfl, settled⟩

end Settlement

section Contract

variable {S τ : Type} {C : Contract firebase S σ τ} {origin : τ} {store : S}

/-- An upload under a contract. -/
theorem keeps_uploadImage (put : ∀ data, C.allows origin store (.putData data))
    (crash : ∀ later data upload, C.replies later (.putData data) upload →
      upload.steady = false → C.mayTrap)
    (locate : ∀ later data upload ref, C.evolves store later →
      C.replies later (.putData data) upload → upload.result = .ok ref →
      C.allows origin later (.downloadURL ref))
    (keeps : ∀ later ref url, C.evolves store later → C.replies later (.downloadURL ref) (.ok url) →
      (completion url).Keeps C origin later) :
    (uploadImage image completion).Keeps C origin store := by
  unfold uploadImage
  cases image.jpegData with
  | none => trivial
  | some data =>
    refine ⟨⟨put data, fun first upload toFirst replied => ?_⟩, trivial⟩
    rcases handleStored_cases completion upload with
      ⟨wild, same⟩ | ⟨-, ⟨-, same⟩ | ⟨ref, stored, same⟩⟩
    · exact same ▸ crash first data upload replied wild
    · exact same ▸ trivial
    · rw [same]
      refine ⟨⟨locate first data upload ref toFirst replied stored, ?_⟩, trivial⟩
      intro last answer toLast located
      cases answer with
      | error => trivial
      | ok url => exact keeps last ref url (C.trans toFirst toLast) located

end Contract

end InstagramClone.ImageUploaderService
