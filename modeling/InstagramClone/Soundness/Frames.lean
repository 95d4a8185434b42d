import InstagramClone.Discipline.Preservation
import InstagramClone.Soundness.TypedStore

/-! # What each action leaves alone

Every action may write documents of a few kinds only, however late its answers come and whatever
they are. So documents of a kind that none of the actions of a run may write stay as they are, on
however many devices the run takes place: likes do not change who follows whom, and whoever only
reads changes nothing.
-/

namespace InstagramClone

open Async

/-- The documents that an action, or what follows from its answers, may write or delete. -/
def UserAction.writes : UserAction → DocumentReference → Bool
  | feedCellOnTapLike _, .post _ | feedCellOnTapLike _, .postLike ..
  | feedCellOnTapLike _, .userLike .. | feedCellOnTapLike _, .notification .. => true
  | profileOnTapEditProfile _, .following .. | profileOnTapEditProfile _, .follower ..
  | profileOnTapEditProfile _, .userFeed .. | profileOnTapEditProfile _, .notification .. => true
  | editHandleDone .., .user _ | editHandleDone .., .post _ => true
  | commentOnTapPost _, .comment .. | commentOnTapPost _, .notification .. => true
  | notificationCellTouchFollow _, .following .. | notificationCellTouchFollow _, .follower .. => true
  | uploadOnTapShare _, .post _ => true
  | _, _ => false

def AuthAction.writes : AuthAction → DocumentReference → Bool
  | loginOnTapGoogle .., .user _ | registrationOnTapSignUp .., .user _ => true
  | _, _ => false

def AppAction.writes : AppAction → DocumentReference → Bool
  | auth action, reference => action.writes reference
  | user action, reference => action.writes reference

namespace Frames

open Code

section Writing

variable {asks : Request → Prop} {self : Ref} {image : UIImage}

private theorem preserves_update {α : Type} [Instance α] {ref : Ref} {change : α → α} :
    (modify ref change).Preserves asks fun _ : App => True :=
  preserves_modify fun _ _ => trivial

private theorem preserves_onTapLike
    (counter : ∀ id likes, asks (.updateData (.post id) (.ofList [("likes", .int likes)])))
    (likes : ∀ id uid present, asks (.put (.postLike id uid) present) ∧
      asks (.put (.userLike uid id) present))
    (notifies : ∀ receiver data, asks (.addDocument (.userNotifications receiver) data)) :
    (FeedCell.onTapLike self).Preserves asks fun _ => True := by
  apply preserves_withObject
  intro cell
  cases cell.viewModel with
  | none => trivial
  | some post =>
    apply preserves_withTabUser
    intro user
    apply preserves_update.seq
    split_ifs
    · exact PostService.preserves_unlikePost (counter _) (likes _) fun _ => preserves_update
    · apply PostService.preserves_likePost (counter _) (likes _)
      intro _
      exact preserves_update.seq (NotificationService.preserves_addNotification (notifies _))

private theorem preserves_commentOnTapPost
    (comments : ∀ id data, asks (.addDocument (.comments id) data))
    (notifies : ∀ receiver data, asks (.addDocument (.userNotifications receiver) data)) :
    (CommentController.onTapPost self).Preserves asks fun _ => True := by
  apply preserves_withObject
  intro page
  apply preserves_withTabUser
  intro user
  apply preserves_withObject
  intro shown
  apply preserves_withTimestamp
  intro now
  apply preserves_call (comments _ _)
  intro _
  exact preserves_update.seq (NotificationService.preserves_addNotification (notifies _))

private theorem preserves_touchFollowButton (edges : ∀ uid other present,
      asks (.put (.following uid other) present) ∧ asks (.put (.follower uid other) present)) :
    (NotificationCell.touchFollowButton self).Preserves asks fun _ => True := by
  apply preserves_withObject
  intro cell
  cases cell.viewModel with
  | none => trivial
  | some notification =>
    dsimp only
    split_ifs
    · apply preserves_withObject
      intro shown
      cases shown.viewModel with
      | none => trivial
      | some current =>
        dsimp only
        split_ifs
        · exact UserService.preserves_unFollow edges fun _ => preserves_update
        · exact UserService.preserves_follow edges fun _ => preserves_update
    · trivial

variable (reads : ∀ request : Request, request.writes = false → asks request)
include reads

theorem preserves_updateProfileImage
    (users : ∀ uid fields, asks (.updateData (.user uid) fields))
    (posts : ∀ id fields, asks (.updateData (.post id) fields)) :
    (EditProfileController.updateProfileImage self).Preserves asks fun _ => True := by
  apply preserves_withObject
  intro edit
  cases edit.selectedImage with
  | none => trivial
  | some image =>
    apply preserves_withCurrentUser
    intro uid
    apply Program.Preserves.seq
    · split_ifs
      · exact preserves_post (reads _ rfl)
      · trivial
    apply ImageUploaderService.preserves_uploadImage (fun _ => reads _ rfl) fun _ => reads _ rfl
    intro url
    apply preserves_call (users _ _)
    intro error
    cases error with
    | some error => trivial
    | none =>
      apply Program.Preserves.seq
      · apply preserves_call (reads _ rfl)
        intro answer
        cases answer with
        | error => trivial
        | ok documents =>
          exact Program.preserves_forEach fun document _ => preserves_post (posts _ _)
      · exact preserves_update.seq (preserves_withObject fun _ => preserves_update)

private theorem preserves_handleDone {editing : Option (EditProfileOptions × String)}
    (saves : ∀ uid data, asks (.setData (.user uid) data))
    (users : ∀ uid fields, asks (.updateData (.user uid) fields))
    (posts : ∀ id fields, asks (.updateData (.post id) fields)) :
    (EditProfileController.handleDone self editing).Preserves asks fun _ => True := by
  have image : (EditProfileController.updateProfileImage self).Preserves asks fun _ => True :=
    preserves_updateProfileImage reads users posts
  have save {user : User} {completion : Option BackendError → Code App}
      (each : ∀ error, (completion error).Preserves asks fun _ => True) :
      (UserService.saveUserData user completion).Preserves asks fun _ => True :=
    preserves_withCurrentUser fun uid => preserves_call (saves uid _) each
  apply Program.Preserves.seq
  · rcases editing with _ | ⟨option, text⟩
    · trivial
    · exact preserves_update
  apply preserves_withObject
  intro edit
  split_ifs
  swap
  · trivial
  apply preserves_withObject
  intro edit
  apply Program.Preserves.seq
  · split_ifs
    · exact image
    · trivial
  apply Program.Preserves.seq
  · split_ifs
    · exact save fun _ => preserves_withObject fun _ => preserves_update
    · trivial
  · split_ifs
    · exact save fun _ => image
    · trivial

theorem preserves_didComplete :
    (AuthenticationController.didComplete self).Preserves asks fun _ => True := by
  apply preserves_withObject
  intro page
  split_ifs
  · apply preserves_withCurrentUser
    intro uid
    apply preserves_call (reads _ rfl)
    intro answer
    rcases answer with _ | _ | data
    · trivial
    · trivial
    · exact ⟨fun _ _ => trivial, trivial⟩
  · trivial

omit reads in
private theorem preserves_signedIn {completion : Except BackendError Uid → Code App}
    (each : ∀ answer, (completion answer).Preserves asks fun _ => True)
    (answer : Except BackendError Uid) :
    (AuthService.signedIn completion answer).Preserves asks fun _ => True := by
  cases answer with
  | error error => exact each _
  | ok uid => exact ⟨fun _ _ => trivial, each _⟩

private theorem preserves_onTapLoginGoogle {credential : AuthCredential} {profile : GoogleProfile}
    (saves : ∀ uid data, asks (.setData (.user uid) data)) :
    (AuthenticationController.onTapLoginGoogle self credential profile).Preserves asks
      fun _ => True := by
  refine ⟨fun _ _ => trivial, fun _ _ => trivial, ?_⟩
  apply preserves_call (reads _ rfl)
  apply preserves_signedIn
  intro answer
  cases answer with
  | error => trivial
  | ok uid =>
    intro state
    dsimp only
    cases Device.googleProfile state with
    | none => trivial
    | some profile =>
      apply preserves_call (saves _ _)
      intro error
      cases error with
      | some error => trivial
      | none => exact preserves_didComplete reads

private theorem preserves_onTapSignUp {email password username fullName : String}
    {profileImage : Option UIImage} (saves : ∀ uid data, asks (.setData (.user uid) data)) :
    (AuthenticationController.onTapSignUp self email password username fullName
      profileImage).Preserves asks fun _ => True := by
  cases profileImage with
  | none => trivial
  | some image =>
    apply ImageUploaderService.preserves_uploadImage (fun _ => reads _ rfl) fun _ => reads _ rfl
    intro url
    apply preserves_call (reads _ rfl)
    apply preserves_signedIn
    intro answer
    cases answer with
    | error => trivial
    | ok uid =>
      apply preserves_call (saves _ _)
      intro error
      cases error with
      | some error => trivial
      | none => exact preserves_didComplete reads

theorem preserves_onTapLogin {email password : String} :
    (AuthenticationController.onTapLogin self email password).Preserves asks fun _ => True := by
  apply preserves_call (reads _ rfl)
  apply preserves_signedIn
  intro answer
  cases answer with
  | error => trivial
  | ok uid => exact preserves_didComplete reads

end Writing

section Contract

variable {ι : Type} {client : ι} {store : Cloud} {reference : DocumentReference} {app : App}

/-- The document is left as it is. -/
def contract (ι : Type) (reference : DocumentReference) : Contract firebase Cloud App ι where
  invariant _ := True
  evolves before after := after.firestore.lookup reference = before.firestore.lookup reference
  holds _ _ _ := True
  allows _ _ request := ¬ request.Touches reference
  opens _ _ _ := True
  replies _ _ _ := True
  reports _ _ _ := True
  mayTrap := True
  refl _ := rfl
  trans left right := right.trans left
  holds_mono _ _ := trivial
  allows_mono _ := id
  opens_mono _ _ := trivial

private theorem lawful : cloud.Lawful (contract ι reference) fun _ => True where
  serve {_ _ store request next _} _ _ apart served := by
    refine ⟨trivial, ?_, trivial⟩
    rcases serve_cases served with ⟨rfl, -⟩ | ⟨order, fresh, transfer, resolved⟩
    · exact (contract ι reference).refl next
    · change next.firestore.lookup reference = store.firestore.lookup reference
      rw [(Request.resolve_firestore resolved).1, Request.lookup_apply apart]
  publish _ _ _ _ := trivial

/-- No read touches a document. -/
private theorem apart_of_reads {request : Request} (reads : request.writes = false) :
    ¬ request.Touches reference := by
  cases request with
  | setData | updateData | delete | addDocument => cases reads
  | _ => exact id

private theorem policy_reads : (TypedStore.policy Cloud).Reads (contract ι reference) client :=
  Policy.free_reads (fun _ known => known)
    (fun store app => iff_of_true trivial (TypedStore.governs store app))
    (fun _ _ reads => apart_of_reads reads) (fun _ _ => trivial) (fun _ => trivial)
    fun _ _ _ => trivial

/-- Code that issues no request on the document keeps the contract. -/
private theorem keeps_of_preserves {program : Code App}
    (preserves : program.Preserves (fun request : Request => ¬ request.Touches reference)
      fun _ => True)
    (store : Cloud) : program.Keeps (contract ι reference) client store := by
  induction program generalizing store with
  | done => trivial
  | trap => trivial
  | send request callback next each rest =>
    refine ⟨⟨preserves.1.1, fun later answer _ _ => ?_⟩, rest preserves.2 store⟩
    exact each answer (preserves.1.2 answer) later
  | listen topic callback next each rest =>
    refine ⟨⟨trivial, fun later event _ _ => ?_⟩, rest preserves.2 store⟩
    exact each event (preserves.1 event) later
  | inspect body each => exact fun later state _ _ => each state (preserves state) later
  | update change next rest => exact ⟨fun _ _ _ _ => trivial, rest preserves.2 store⟩

end Contract

section Actions

variable {ι : Type} {client : ι} {store : Cloud} {reference : DocumentReference} {app : App}

/-- What a user does leaves the documents alone that the action may not write. -/
private theorem effect_userAction {action : UserAction} (apart : action.writes reference = false) :
    (action.perform.run app).Keeps (contract ι reference) client store := by
  have reads : (TypedStore.policy Cloud).Reads (contract ι reference) client := policy_reads
  have valid : (contract ι reference).holds client store app := trivial
  have read (request : Request) (only : request.writes = false) : ¬ request.Touches reference :=
    apart_of_reads only
  have notifies (touched : ∀ receiver id, action.writes (.notification receiver id) = true)
      (receiver : Uid) (data : String → Dictionary) :
      ¬ (Request.addDocument (.userNotifications receiver) data).Touches reference := by
    intro same
    cases reference with
    | notification uid id => exact absurd apart (by simp [touched])
    | _ => cases same
  have edges (touched : ∀ uid other, action.writes (.following uid other) = true ∧
        action.writes (.follower uid other) = true) (uid other : Uid) (present : Bool) :
      ¬ (Request.put (.following uid other) present).Touches reference ∧
        ¬ (Request.put (.follower uid other) present).Touches reference := by
    rw [Request.touches_put, Request.touches_put]
    constructor
    · rintro rfl
      exact absurd apart (by simp [touched])
    · rintro rfl
      exact absurd apart (by simp [touched])
  cases action with
  | tabsViewDidLoad => exact reads.keeps_tabsViewDidLoad.run valid
  | tabsDidFinishPicking image => exact (reads.keeps_tabsDidFinishPicking image).run valid
  | feedViewDidLoad self => exact (reads.keeps_feedFetchPosts self).run valid
  | feedOnTapRefresh self => exact (reads.keeps_feedFetchPosts self).run valid
  | feedNewCell self => exact (reads.keeps_newCell self).run valid
  | feedCellForItemAt self row cell => exact (reads.keeps_feedCellForItemAt self row cell).run valid
  | feedCellShowUserProfile cell => exact (reads.keeps_feedCellShowUserProfile cell).run valid
  | feedCellOnTapLike cell =>
    refine (keeps_of_preserves (preserves_onTapLike ?_ ?_ ?_) store).run valid
    · rintro id likes rfl
      cases apart
    · intro id uid present
      rw [Request.touches_put, Request.touches_put]
      constructor
      · rintro rfl
        cases apart
      · rintro rfl
        cases apart
    · exact notifies fun _ _ => rfl
  | feedCellOnTapComment cell => exact (reads.keeps_feedCellOnTapComment cell).run valid
  | profileViewDidLoad self => exact (reads.keeps_profileViewDidLoad self).run valid
  | profileViewForHeader self => exact (reads.keeps_viewForHeader self).run valid
  | profileDidSelectItemAt self row => exact (reads.keeps_profileDidSelectItemAt self row).run valid
  | profileOnTapEditProfile self =>
    refine (keeps_of_preserves (ProfileController.preserves_onTapEditProfile read
      (edges fun _ _ => ⟨rfl, rfl⟩) ?_ (notifies fun _ _ => rfl) (fun _ _ _ _ => trivial)
      fun _ _ _ _ _ => trivial) store).run valid
    intro uid post present
    rw [Request.touches_put]
    rintro rfl
    cases apart
  | editUpdateUserInfo self option text =>
    exact (reads.keeps_updateUserInfo self option text).run valid
  | editHandleDone self editing =>
    refine (keeps_of_preserves (preserves_handleDone read ?_ ?_ ?_) store).run valid
    · rintro uid data rfl
      cases apart
    · rintro uid fields rfl
      cases apart
    · rintro id fields rfl
      cases apart
  | editDidFinishPicking self image => exact (reads.keeps_editDidFinishPicking self image).run valid
  | commentViewDidLoad self => exact (reads.keeps_commentViewDidLoad self).run valid
  | commentEditText self text => exact (reads.keeps_editText self text).run valid
  | commentOnTapPost self =>
    refine (keeps_of_preserves (preserves_commentOnTapPost ?_ (notifies fun _ _ => rfl))
      store).run valid
    intro id data same
    cases reference with
    | comment post id => cases apart
    | _ => cases same
  | commentDidSelectItemAt self row => exact (reads.keeps_commentDidSelectItemAt self row).run valid
  | notificationViewDidLoad self => exact (reads.keeps_notificationViewDidLoad self).run valid
  | notificationOnRefresh self => exact (reads.keeps_onRefresh self).run valid
  | notificationNewCell self => exact (reads.keeps_notificationNewCell self).run valid
  | notificationCellForRowAt self row cell => exact (reads.keeps_cellForRowAt self row cell).run valid
  | notificationDidSelectRowAt self row =>
    exact (reads.keeps_notificationDidSelectRowAt self row).run valid
  | notificationCellTouchFollow cell =>
    exact (keeps_of_preserves (preserves_touchFollowButton (edges fun _ _ => ⟨rfl, rfl⟩))
      store).run valid
  | notificationCellTouchPost cell => exact reads.effect_touchPostImage valid cell
  | searchViewDidLoad self => exact (reads.keeps_searchViewDidLoad self).run valid
  | searchUpdateResults self isActive text =>
    exact (reads.keeps_updateSearchResults self isActive text).run valid
  | searchDidSelectRowAt self row => exact (reads.keeps_searchDidSelectRowAt self row).run valid
  | uploadEditCaption self caption => exact (reads.keeps_editCaption self caption).run valid
  | uploadOnTapShare self =>
    refine (keeps_of_preserves (UploadPostController.preserves_onTapShare read ?_
      (fun _ _ _ _ => trivial) (fun _ _ _ _ => trivial) fun _ _ _ _ _ => trivial) store).run valid
    intro data same
    cases reference with
    | post id => cases apart
    | _ => cases same

/-- So does signing in or out, registering or not. -/
private theorem keeps_authAction {action : AuthAction} (apart : action.writes reference = false) :
    action.perform.Keeps (contract ι reference) client store := by
  have read (request : Request) (only : request.writes = false) : ¬ request.Touches reference :=
    apart_of_reads only
  apply keeps_of_preserves
  cases action with
  | loginOnTapLogin => exact preserves_onTapLogin read
  | loginOnTapGoogle =>
    apply preserves_onTapLoginGoogle read
    rintro uid data rfl
    cases apart
  | loginOnTapRegister => exact preserves_withObject fun _ _ => ⟨fun _ _ => trivial, trivial⟩
  | registrationOnTapSignUp =>
    apply preserves_onTapSignUp read
    rintro uid data rfl
    cases apart
  | feedOnTapLogout => exact ⟨fun _ _ => trivial, fun _ _ => ⟨fun _ _ => trivial, trivial⟩⟩

variable [DecidableEq ι] {net final : Network cloud App ι ι} {events : List (Event cloud ι AppAction)}

/-- The event is no action that may write the document. -/
def Spares (reference : DocumentReference) (event : Event cloud ι AppAction) : Prop :=
  ∀ client action, event = .act client action → action.writes reference = false

private theorem sound_spare {next : Network cloud App ι ι} {event : Event cloud ι AppAction}
    (sound : net.Sound (contract ι reference) id) (spares : Spares reference event)
    (taken : net.event? AppAction.perform event = some next) :
    next.Sound (contract ι reference) id ∧
      next.store.firestore.lookup reference = net.store.firestore.lookup reference := by
  apply sound.event lawful _ _ taken
  · intro signal _
    cases signal <;> trivial
  · rintro client action rfl app running
    have mine := spares client action rfl
    cases action with
    | auth action => exact (keeps_authAction mine).run (sound.clients client app running)
    | user action => exact effect_userAction mine

/-- In a run of any number of devices, a document that none of the actions may write stays as it is,
or absent, whatever fails and in whatever order answers come. -/
theorem document_untouched (idle : net.flight = []) (quiet : net.listeners = [])
    (run : Run (fun net event next => net.event? AppAction.perform event = some next) net events
      final)
    (apart : ∀ client action, .act client action ∈ events → action.writes reference = false) :
    final.store.firestore.lookup reference = net.store.firestore.lookup reference := by
  have spared : ∀ event ∈ events, Spares reference event := by
    rintro _ member client action rfl
    exact apart client action member
  have start : net.Sound (contract ι reference) id :=
    ⟨trivial, fun _ _ => trivial, fun _ _ _ => trivial, by simp [idle], by simp [quiet]⟩
  have both : final.Sound (contract ι reference) id ∧
      final.store.firestore.lookup reference = net.store.firestore.lookup reference := by
    apply (run.restrict spared).invariant ⟨start, rfl⟩
    rintro state event next ⟨spares, taken⟩ ⟨sound, same⟩
    obtain ⟨still, step⟩ := sound_spare sound spares taken
    exact ⟨still, step.trans same⟩
  exact both.2

/-- A user with nothing but an id. -/
def named (uid : Uid) : User := ⟨"", "", "", "", uid, ⟨0, 0, 0⟩, false⟩

/-- A session shows the page of an account. -/
def visiting : Network cloud App Unit Unit where
  store := { firestore := (∅ : Firestore).insert (.user "v") .empty }
  clients _ := some
    { currentUser := some "u"
      user := some (named "u")
      objects := [⟨.profile { user := named "v", header := some (named "v") }, true⟩] }

/-- A follow leaves the documents of both users alone. -/
theorem document_untouched_following :
    ∃ final, Run (fun net event next => net.event? AppAction.perform event = some next) visiting
        (.act () (.user (.profileOnTapEditProfile 0)) ::
          drain [Choice.drawing ""] ++ drain [Choice.drawing ""]) final ∧
      .following "u" "v" ∈ final.store.firestore ∧
      final.store.firestore.lookup (.user "v") = some .empty := by
  have completes : (replay? (Network.event? AppAction.perform) visiting
      (.act () (.user (.profileOnTapEditProfile 0)) ::
        drain [Choice.drawing ""] ++ drain [Choice.drawing ""])).any (fun final =>
      decide (.following "u" "v" ∈ final.store.firestore)) = true := by
    decide +kernel
  obtain ⟨final, run, followed⟩ := exists_run_of_replay? completes
  refine ⟨final, run, followed, ?_⟩
  rw [document_untouched rfl rfl run]
  · simp [visiting]
  · intro client action member
    have tapped : action = .user (.profileOnTapEditProfile 0) := by
      simpa [drain] using member
    rw [tapped]
    rfl

end Actions

end Frames

end InstagramClone
