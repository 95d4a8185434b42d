import InstagramClone.Discipline.Devices
import InstagramClone.Soundness.StoredImages

/-! # Nothing crashes while nothing fails

The services end with a fatal error where the image that a user replaces is not in the storage
bucket, where the posts of an account that is unfollowed cannot be listed, and where an upload shows
a progress that cannot be divided. In a network where no request fails, no upload shows such a
progress and every profile image was uploaded, no device ever comes to one of them, whatever its
user does, whatever the others do meanwhile, and however late the answers are.
-/

namespace InstagramClone

open Async StoredImages

namespace CrashFree

/-- A profile image is in the bucket. -/
def uploaded : String → Prop := Known fun _ => False

/-- The profile image of every user that a device holds is in the bucket. -/
def policy : Policy Cloud :=
  .free (fun _ => True) (fun _ => True) (fun _ _ => True) (fun _ => True) (fun _ _ _ => True) uploaded

private theorem policy_mono : policy.Mono fun _ _ => True := Policy.free_mono fun _ known => known

/-- All profile images are in the bucket, every request is answered, and no device traps. -/
def contract (ι : Type) : Contract firebase Cloud App ι where
  invariant := Valid fun _ => False
  evolves _ _ := True
  holds _ store app := policy.Governs store app
  allows _ _ request := request.Puts (Pictured fun _ => False)
  opens _ _ _ := True
  replies store request answer :=
    Valid (fun _ => False) store ∧ Tells (fun _ => False) request answer ∧
      request.Answers store answer ∧ request.Steady answer
  reports _ _ _ := True
  mayTrap := False
  refl _ := trivial
  trans _ _ := trivial
  holds_mono _ valid := policy_mono.governs_mono trivial valid
  allows_mono _ allowed := allowed
  opens_mono _ _ := trivial

variable {ι : Type} {client : ι}

private theorem lawful : cloud.Lawful (contract ι) fun choice => choice.smooth = true where
  serve {choice _ store request next answer} smooth valid pictured served := by
    obtain ⟨order, fresh, transfer, resolved⟩ := serve_succeeds (Choice.smooth_succeeds smooth) served
    have kept : Valid (fun _ => False) next := by
      refine ⟨Request.resolve_isStorageURL resolved valid.objects, ?_⟩
      rw [(Request.resolve_firestore resolved).1]
      exact pictured.apply valid.records fresh
    exact ⟨kept, trivial, kept, tells_resolve valid resolved, Request.resolve_answers resolved,
      Request.steady_serve (Choice.smooth_steady smooth) served⟩
  publish _ _ _ _ := trivial

private theorem policy_reads : policy.Reads (contract ι) client := by
  refine Policy.free_reads (fun _ known => known) (fun _ _ => Iff.rfl) (fun _ request reads => ?_)
    (fun _ _ => trivial) (fun _ => trivial) (fun _ _ _ => trivial) (fun replied wild => ?_)
    (fun replied => .inl replied.2.1) (fun replied => replied.2.1) fun replied document listed => ?_
  · cases request with
    | setData | updateData | delete | addDocument => cases reads
    | _ => trivial
  · have steady : Upload.steady _ = true := replied.2.2.2
    exact absurd (steady.symm.trans wild) (by simp)
  · obtain ⟨valid, -, ⟨documents, same, answers⟩, -⟩ := replied
    obtain rfl := Except.ok.inj same
    obtain ⟨reference, ⟨parent, -, -⟩, stored, -⟩ := (answers document).mp listed
    have pictured := valid.records reference document.data stored
    cases reference with
    | user uid => exact pictured
    | _ => cases parent

private theorem policy_registers : policy.Registers (contract ι) client where
  toReads := policy_reads
  created _ := trivial
  signed_in _ := trivial
  signed_in_with _ := trivial
  register {_ uid _} _ known email fullname username := by
    have known : Known (fun _ => False) _ := known
    exact pictured_data known email fullname uid uid username

private theorem policy_writes : policy.Writes (contract ι) client where
  toReads := policy_reads
  unanswered := by
    rintro store uid error ⟨-, -, ⟨documents, impossible, -⟩, -⟩
    cases impossible
  elsewhere := by
    rintro image (stored | impossible) outside
    · rw [stored] at outside
      cases outside
    · exact impossible
  like_counter _ _ _ := fun _ _ => trivial
  like _ _ present := by cases present <;> exact ⟨trivial, trivial⟩
  edge _ _ _ present := by cases present <;> exact ⟨trivial, trivial⟩
  edge_notified _ _ present := by cases present <;> exact ⟨trivial, trivial⟩
  feed _ _ _ _ present := by cases present <;> trivial
  notify_follow _ _ _ _ _ _ := fun _ => trivial
  notify_post _ _ _ _ _ _ _ := fun _ => trivial
  comment _ _ _ _ := fun _ => trivial
  upload _ _ _ _ := fun _ => trivial
  save {_ uid _} _ known email fullname username := by
    have known : Known (fun _ => False) _ := known
    exact pictured_data known email fullname uid uid username
  picture _ known := by
    intro stored _
    rw [Pictured, Dictionary.string, Dictionary.updating_self]
    exact known
  owner_image _ _ _ _ _ := fun _ _ => trivial

/-- Nothing fails, no upload shows a progress that cannot be divided, and Google profiles come with
images of the bucket. -/
def Smooth : Event cloud ι AppAction → Prop
  | .act _ action => action.Pictured uploaded
  | .signal signal => smooth signal = true

variable [DecidableEq ι] {net final : Network cloud App ι ι} {events : List (Event cloud ι AppAction)}

/-- As long as nothing fails, every progress can be divided and all images were uploaded, every
device keeps running, and all the users that it holds have images of the bucket. -/
theorem never_crashes (valid : Valid (fun _ => False) net.store)
    (running : ∀ client, net.clients client ≠ none)
    (known : ∀ client, ∀ app ∈ net.clients client, policy.Governs net.store app)
    (idle : net.flight = []) (quiet : net.listeners = [])
    (run : Run (fun net event next => Smooth event ∧
      net.event? AppAction.perform event = some next) net events final) :
    (∀ client, final.clients client ≠ none) ∧
      ∀ client, ∀ app ∈ final.clients client, policy.Governs final.store app := by
  have sound : final.Sound (contract ι) id := by
    refine (Policy.sound_run (fun _ => policy_registers) (fun _ => policy_writes) (fun _ _ => trivial)
      (fun _ _ _ => trivial) lawful (fun signal smooth => ?_) (fun _ _ pictured => pictured) ?_ run).1
    · cases signal with
      | serve index choice => exact smooth
      | deliver index => trivial
      | notify index choice => exact smooth
    · exact ⟨valid, fun client stopped => (running client stopped).elim, known, by simp [idle],
        by simp [quiet]⟩
  exact ⟨fun client stopped => sound.running client stopped, sound.clients⟩

section Example

/-- One device that nobody is signed in to, over an empty backend. -/
def start : Network cloud App Unit Unit where
  store := {}
  clients _ := some .signedOut

/-- A link into the bucket. -/
def link (name : String) : Choice := Choice.drawing ("gs://" ++ storageBucket ++ name)

/-- A registration with an image, which its user then replaces. -/
def replacing : List (Event cloud Unit AppAction) :=
  .act () (.auth (.registrationOnTapSignUp 0 "e" "p" "n" "f" (some ⟨some [0]⟩))) ::
    drain [link "/a"] ++ drain [link ""] ++ drain [Choice.drawing "u"] ++ drain [Choice.drawing ""] ++
    drain [Choice.drawing ""] ++
    [.act () (.user (.profileViewForHeader 4)), .act () (.user (.profileOnTapEditProfile 4)),
      .act () (.user (.editDidFinishPicking 5 ⟨some [1]⟩)),
      .act () (.user (.editHandleDone 5 none))] ++
    drain [Choice.drawing "", link "/b"] ++ drain [Choice.drawing ""] ++ drain [Choice.drawing ""] ++
    drain [Choice.answer [] ""]

private theorem smooth_replacing : ∀ event ∈ replacing, Smooth event := by
  simp [replacing, drain, Smooth, AppAction.Pictured, AuthAction.Pictured, smooth,
    Choice.smooth, Choice.succeeds, Choice.steady, Transfer.snapshots, Transfer.smooth,
    UploadProgress.divides, Choice.drawing, link]

/-- The device survives the change of its image, which is then stored. -/
theorem never_crashes_replacing : ∃ final,
    Run (fun net event next => Smooth event ∧ net.event? AppAction.perform event = some next) start
      replacing final ∧ final.clients () ≠ none ∧
      (final.store.firestore.lookup (.user "u")).map (fun data => data.string "profileImage") =
        some ("gs://" ++ storageBucket ++ "/b") := by
  have completes : (replay? (Network.event? AppAction.perform) start replacing).any (fun final =>
      decide ((final.store.firestore.lookup (.user "u")).map
        (fun data => data.string "profileImage") = some ("gs://" ++ storageBucket ++ "/b"))) =
      true := by
    decide +kernel
  obtain ⟨final, run, replaced⟩ := exists_run_of_replay? completes
  have smooth := run.restrict smooth_replacing
  have valid : Valid (fun _ => False) start.store :=
    ⟨fun _ member => absurd member List.not_mem_nil, fun reference data stored => by
      cases stored⟩
  have known : ∀ client, ∀ app ∈ start.clients client, policy.Governs start.store app := by
    rintro client app ⟨⟩
    exact Policy.governs_signedOut
  have running : ∀ client, start.clients client ≠ none := fun _ => Option.some_ne_none _
  exact ⟨final, smooth, (never_crashes valid running known rfl rfl smooth).1 (), replaced⟩

end Example

end CrashFree

end InstagramClone
