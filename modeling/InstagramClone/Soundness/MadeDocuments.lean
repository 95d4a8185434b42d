import InstagramClone.Async.Budget
import InstagramClone.Soundness.Frames

/-! # Documents are made by taps

No document appears unless somebody made it, and nobody makes two with one tap: whatever fails and
however answers are delayed, there are never more posts than were shared, more comments than were
posted, or more notifications than taps that notify. Only entries of feeds are made in any number by
one tap.
-/

namespace InstagramClone

open Async

/-- The kinds of documents, entries of feeds apart. -/
inductive DocumentKind where
  | user
  | post
  | comment
  | notification
  | following
  | follower
  | postLike
  | userLike
deriving DecidableEq

def DocumentReference.kind? : DocumentReference → Option DocumentKind
  | user _ => some .user
  | post _ => some .post
  | comment .. => some .comment
  | notification .. => some .notification
  | following .. => some .following
  | follower .. => some .follower
  | postLike .. => some .postLike
  | userLike .. => some .userLike
  | userFeed .. => none

/-- The documents that the request may make. -/
def Request.makes : Request → List DocumentKind
  | setData reference _ => reference.kind?.toList
  | addDocument collection _ => (collection.document "").kind?.toList
  | _ => []

/-- The documents that an action, or what follows from its answers, may make. -/
def UserAction.makes : UserAction → List DocumentKind
  | feedCellOnTapLike _ => [.postLike, .userLike, .notification]
  | profileOnTapEditProfile _ => [.following, .follower, .notification]
  | editHandleDone .. => [.user]
  | commentOnTapPost _ => [.comment, .notification]
  | notificationCellTouchFollow _ => [.following, .follower]
  | uploadOnTapShare _ => [.post]
  | _ => []

def AuthAction.makes : AuthAction → List DocumentKind
  | loginOnTapGoogle .. | registrationOnTapSignUp .. => [.user]
  | _ => []

def AppAction.makes : AppAction → List DocumentKind
  | auth action => action.makes
  | user action => action.makes

namespace MadeDocuments

open Code

/-- What the documents of a kind cost. -/
def cost (kind : DocumentKind) (request : Request) : ℕ := request.makes.count kind

/-- Whatever is answered, no more comes of the code than these documents. -/
def Makes (kinds : List DocumentKind) (program : Code App) : Prop :=
  ∀ kind, program.Spends (cost kind) (kinds.count kind)

section Code

variable {kinds more : List DocumentKind} {program first last : Code App} {α : Type} [Instance α]
  {self ref : Ref}

private theorem Makes.seq (left : Makes kinds first) (right : Makes more last) :
    Makes (kinds ++ more) (first.seq last) := by
  intro kind
  rw [List.count_append]
  exact (left kind).seq (right kind)

/-- Code that makes nothing comes first. -/
private theorem Makes.before (left : Makes [] first) (right : Makes kinds last) :
    Makes kinds (first.seq last) :=
  left.seq right

/-- Code that makes nothing comes last. -/
private theorem Makes.after (left : Makes kinds first) (right : Makes [] last) :
    Makes kinds (first.seq last) := by
  have makes := left.seq right
  rwa [List.append_nil] at makes

/-- Code that makes nothing may be where something else is made. -/
private theorem Makes.mono (makes : Makes [] program) : Makes kinds program :=
  fun kind => (makes kind).mono (Nat.zero_le _)

private theorem makes_of_preserves
    (preserves : program.Preserves (fun request : Request => request.makes = []) fun _ => True) :
    Makes kinds program := by
  refine Makes.mono fun kind => preserves.spends fun request nothing => ?_
  rw [cost, nothing]
  rfl

private theorem makes_call {request : Request} {completion : request.Response → Code App}
    (each : ∀ answer, Makes kinds (completion answer)) :
    Makes (request.makes ++ kinds) (call request completion) := by
  intro kind
  rw [List.count_append]
  exact ⟨kinds.count kind, 0, fun answer => each answer kind, trivial, Nat.le_refl _⟩

private theorem makes_call_of_nothing {request : Request} {completion : request.Response → Code App}
    (nothing : request.makes = []) (each : ∀ answer, Makes kinds (completion answer)) :
    Makes kinds (call request completion) := by
  have makes := makes_call each
  rwa [nothing, List.nil_append] at makes

private theorem makes_post {request : Request} :
    Makes request.makes (Program.post request : Code App) :=
  fun _ => ⟨0, 0, fun _ => trivial, trivial, Nat.le_refl _⟩

private theorem makes_updateData {reference : DocumentReference} {fields : Dictionary} :
    Makes [] (Program.post (.updateData reference fields) : Code App) :=
  makes_post

private theorem makes_withCurrentUser {body : Uid → Code App} (each : ∀ uid, Makes kinds (body uid)) :
    Makes kinds (withCurrentUser body) := by
  intro kind app
  dsimp only
  cases Device.currentUser app with
  | none => trivial
  | some uid => exact each uid kind

private theorem makes_withTimestamp {body : Timestamp → Code App}
    (each : ∀ now, Makes kinds (body now)) :
    Makes kinds (withTimestamp body) :=
  fun kind app => each (Device.now app) kind

private theorem makes_withObject {body : α → Code App} (each : ∀ value, Makes kinds (body value)) :
    Makes kinds (withObject ref body) := by
  intro kind app
  dsimp only
  cases app.find? α ref with
  | none => trivial
  | some value => exact each value kind

private theorem makes_withTabUser {body : User → Code App} (each : ∀ user, Makes kinds (body user)) :
    Makes kinds (withTabUser ref body) := by
  intro kind app
  dsimp only
  split
  · exact each _ kind
  · trivial

private theorem makes_modify {change : α → α} : Makes kinds (modify ref change) := fun _ => trivial

private theorem makes_update {change : App → App} (makes : Makes kinds program) :
    Makes kinds (.update change program) :=
  makes

private theorem makes_alloc {value : α} {inTab : Bool} :
    Makes kinds (alloc value inTab fun _ => .done) :=
  fun _ _ => trivial

/-- What reads makes nothing. -/
private theorem makes_of_reads {request : Request} (reads : request.writes = false) :
    request.makes = [] := by
  cases request with
  | setData | updateData | delete | addDocument => cases reads
  | _ => rfl

end Code

section Actions

variable {self : Ref} {kinds : List DocumentKind}

private theorem makes_addNotification {receiver : Uid} {fromUser : User} {type : NotificationType}
    {post : Option Post} :
    Makes [.notification] (NotificationService.addNotification receiver fromUser type post) := by
  apply makes_withCurrentUser
  intro uid
  split_ifs
  · exact fun _ => trivial
  · apply makes_withTimestamp
    intro now
    exact makes_post

private theorem makes_follow {uid : Uid} {completion : Option BackendError → Code App}
    (each : ∀ error, Makes kinds (completion error)) :
    Makes (.following :: .follower :: kinds) (UserService.follow uid completion) := by
  apply makes_withCurrentUser
  intro current
  exact makes_call fun _ => makes_call each

private theorem makes_unFollow {uid : Uid} {completion : Option BackendError → Code App}
    (each : ∀ error, Makes kinds (completion error)) :
    Makes kinds (UserService.unFollow uid completion) := by
  apply makes_withCurrentUser
  intro current
  exact makes_call_of_nothing rfl fun _ => makes_call_of_nothing rfl each

private theorem makes_onTapLike :
    Makes [.postLike, .userLike, .notification] (FeedCell.onTapLike self) := by
  apply makes_withObject
  intro cell
  cases cell.viewModel with
  | none => exact fun _ => trivial
  | some post =>
    apply makes_withTabUser
    intro user
    apply makes_modify.before
    split_ifs
    · apply makes_withCurrentUser
      intro uid
      split_ifs
      · apply makes_updateData.before
        exact makes_call_of_nothing rfl fun _ => makes_call_of_nothing rfl fun _ => makes_modify
      · exact fun _ => trivial
    · apply makes_withCurrentUser
      intro uid
      apply makes_updateData.before
      exact makes_call fun _ => makes_call fun _ => makes_modify.before makes_addNotification

private theorem makes_onTapEditProfile : Makes [.following, .follower, .notification]
    (ProfileController.onTapEditProfile self) := by
  have entry (uid : Uid) (post : PostId) (present : Bool) :
      (Request.put (.userFeed uid post) present).makes = [] := by
    cases present <;> rfl
  apply makes_withObject
  intro profile
  cases profile.header with
  | none => exact fun _ => trivial
  | some user =>
    apply makes_withTabUser
    intro currentUser kind app
    dsimp only
    split_ifs
    · exact makes_withObject (fun _ => makes_alloc) kind
    · refine makes_unFollow (fun _ => makes_modify.before ?_) kind
      exact makes_of_preserves (PostService.preserves_removeUserFeed (fun _ => rfl) entry)
    · refine makes_follow (fun _ => makes_modify.before ?_) kind
      exact makes_addNotification.seq (makes_of_preserves
        (PostService.preserves_updateUserFeed (fun _ => rfl) entry))

/-- A comment is made, and its notification. -/
private theorem makes_onTapPost :
    Makes [.comment, .notification] (CommentController.onTapPost self) := by
  apply makes_withObject
  intro page
  apply makes_withTabUser
  intro user
  apply makes_withObject
  intro shown
  apply makes_withTimestamp
  intro now
  exact makes_call fun _ => makes_modify.before makes_addNotification

private theorem makes_touchFollowButton :
    Makes [.following, .follower] (NotificationCell.touchFollowButton self) := by
  apply makes_withObject
  intro cell
  cases cell.viewModel with
  | none => exact fun _ => trivial
  | some notification =>
    dsimp only
    split_ifs
    · apply makes_withObject
      intro shown
      cases shown.viewModel with
      | none => exact fun _ => trivial
      | some current =>
        dsimp only
        split_ifs
        · exact makes_unFollow fun _ => makes_modify
        · exact makes_follow fun _ => makes_modify
    · exact fun _ => trivial

private theorem makes_uploadImage {image : UIImage} {completion : String → Code App}
    (each : ∀ url, Makes kinds (completion url)) :
    Makes kinds (ImageUploaderService.uploadImage image completion) :=
  ImageUploaderService.uploadImage_induction (Makes kinds) (fun _ => trivial) (fun _ => trivial)
    (fun _ _ _ each => makes_call_of_nothing rfl each) (fun _ _ each => makes_call_of_nothing rfl each)
    each

private theorem makes_onTapShare : Makes [.post] (UploadPostController.onTapShare self) := by
  apply makes_withObject
  intro upload
  split
  · apply makes_withCurrentUser
    intro uid
    apply makes_uploadImage
    intro url
    apply makes_withTimestamp
    intro now
    refine makes_call fun error => ?_
    cases error with
    | some error => exact fun _ => trivial
    | none =>
      apply makes_of_preserves
      exact MainTabController.preserves_didFinishUploadPost (fun _ => makes_of_reads)
        (fun _ _ _ _ => trivial) (fun _ _ _ _ => trivial) fun _ _ _ _ _ => trivial
  · exact fun _ => trivial

private theorem makes_saveUserData {user : User} {completion : Option BackendError → Code App}
    (each : ∀ error, Makes [] (completion error)) :
    Makes [.user] (UserService.saveUserData user completion) := by
  apply makes_withCurrentUser
  intro uid
  exact makes_call each

/-- Of the three parts of a Done tap, one saves the record at most. -/
private theorem makes_handleDone {editing : Option (EditProfileOptions × String)} :
    Makes [.user] (EditProfileController.handleDone self editing) := by
  have image : Makes [] (EditProfileController.updateProfileImage self) :=
    makes_of_preserves (Frames.preserves_updateProfileImage (fun _ => makes_of_reads)
      (fun _ _ => rfl) fun _ _ => rfl)
  apply Makes.before
  · rcases editing with _ | ⟨option, text⟩
    · exact fun _ => trivial
    · exact makes_modify
  apply makes_withObject
  intro edit
  split_ifs
  swap
  · exact fun _ => trivial
  apply makes_withObject
  intro edit
  apply Makes.before
  · split_ifs
    · exact image
    · exact fun _ => trivial
  cases edit.userInfoChanged with
  | false => exact fun _ => trivial
  | true =>
    cases edit.imageChanged with
    | false =>
      refine Makes.after ?_ fun _ => trivial
      exact makes_saveUserData fun _ => makes_withObject fun _ => makes_modify
    | true => exact Makes.before (fun _ => trivial) (makes_saveUserData fun _ => image)

private theorem makes_signedIn {completion : Except BackendError Uid → Code App}
    (each : ∀ answer, Makes kinds (completion answer)) (answer : Except BackendError Uid) :
    Makes kinds (AuthService.signedIn completion answer) := by
  cases answer with
  | error error => exact each _
  | ok uid => exact each _

private theorem makes_onTapLoginGoogle {credential : AuthCredential} {profile : GoogleProfile} :
    Makes [.user] (AuthenticationController.onTapLoginGoogle self credential profile) := by
  apply makes_update
  refine Makes.before (fun _ => trivial) ?_
  refine makes_call_of_nothing rfl (makes_signedIn ?_)
  intro answer
  cases answer with
  | error => exact fun _ => trivial
  | ok uid =>
    intro kind app
    dsimp only
    cases Device.googleProfile app with
    | none => trivial
    | some profile =>
      refine makes_call (fun error => ?_) kind
      cases error with
      | some error => exact fun _ => trivial
      | none =>
        exact makes_of_preserves (Frames.preserves_didComplete fun _ => makes_of_reads)

private theorem makes_onTapSignUp {email password username fullName : String}
    {profileImage : Option UIImage} :
    Makes [.user] (AuthenticationController.onTapSignUp self email password username fullName
      profileImage) := by
  cases profileImage with
  | none => exact fun _ => trivial
  | some image =>
    apply makes_uploadImage
    intro url
    refine makes_call_of_nothing rfl (makes_signedIn ?_)
    intro answer
    cases answer with
    | error => exact fun _ => trivial
    | ok uid =>
      refine makes_call fun error => ?_
      cases error with
      | some error => exact fun _ => trivial
      | none =>
        exact makes_of_preserves (Frames.preserves_didComplete fun _ => makes_of_reads)

/-- Signing in or out makes the record of an account at most. -/
private theorem makes_authAction (action : AuthAction) : Makes action.makes action.perform := by
  cases action with
  | loginOnTapLogin =>
    exact makes_of_preserves (Frames.preserves_onTapLogin fun _ => makes_of_reads)
  | loginOnTapGoogle => exact makes_onTapLoginGoogle
  | loginOnTapRegister => exact makes_withObject fun _ => makes_alloc
  | registrationOnTapSignUp => exact makes_onTapSignUp
  | feedOnTapLogout =>
    refine Makes.before (fun _ => trivial) fun kind app => ?_
    exact makes_alloc kind

/-- A contract under which nothing is made. -/
def contract : Contract firebase Unit App Unit where
  invariant _ := True
  evolves _ _ := True
  holds _ _ _ := True
  allows _ _ request := request.makes = []
  opens _ _ _ := True
  replies _ _ _ := True
  reports _ _ _ := True
  mayTrap := True
  refl _ := trivial
  trans _ _ := trivial
  holds_mono _ _ := trivial
  allows_mono _ := id
  opens_mono _ _ := trivial

private theorem policy_reads : (TypedStore.policy Unit).Reads contract () :=
  Policy.free_reads (fun _ known => known)
    (fun store app => iff_of_true trivial (TypedStore.governs store app))
    (fun _ _ reads => makes_of_reads reads) (fun _ _ => trivial) (fun _ => trivial)
    fun _ _ _ => trivial

/-- Code that keeps it makes nothing. -/
private theorem makes_of_keeps {program : Code App} (keeps : program.Keeps contract () ()) :
    Makes kinds program := by
  apply makes_of_preserves
  induction program with
  | done => trivial
  | trap => trivial
  | send request callback next callbacks rest =>
    refine ⟨⟨keeps.1.1, fun answer => ?_⟩, rest keeps.2⟩
    exact callbacks answer (keeps.1.2 () answer trivial trivial)
  | listen topic callback next callbacks rest =>
    refine ⟨fun event => ?_, rest keeps.2⟩
    exact callbacks event (keeps.1.2 () event trivial trivial)
  | inspect body each => exact fun app => each app (keeps () app trivial trivial)
  | update change next rest => exact ⟨fun _ _ => trivial, rest keeps.2⟩

private theorem makes_touchPostImage : Makes kinds (NotificationCell.touchPostImage self) := by
  apply makes_withObject
  intro cell
  cases cell.viewModel with
  | none => exact fun _ => trivial
  | some notification =>
    dsimp only
    split_ifs
    · exact fun _ => trivial
    · apply makes_withObject
      intro shown
      cases shown.viewModel with
      | none => exact fun _ => trivial
      | some current =>
        refine makes_call_of_nothing rfl fun answer => ?_
        rcases answer with _ | _ | data
        · exact fun _ => trivial
        · exact fun _ => trivial
        · apply makes_withTimestamp
          intro now kind app
          exact makes_alloc kind

/-- Using the app makes what the action says at most. -/
private theorem makes_userAction (action : UserAction) : Makes action.makes action.perform := by
  have reads : (TypedStore.policy Unit).Reads contract () := policy_reads
  cases action with
  | tabsViewDidLoad => exact makes_of_keeps reads.keeps_tabsViewDidLoad
  | tabsDidFinishPicking image => exact makes_of_keeps (reads.keeps_tabsDidFinishPicking image)
  | feedViewDidLoad self => exact makes_of_keeps (reads.keeps_feedFetchPosts self)
  | feedOnTapRefresh self => exact makes_of_keeps (reads.keeps_feedFetchPosts self)
  | feedNewCell self => exact makes_of_keeps (reads.keeps_newCell self)
  | feedCellForItemAt self row cell =>
    exact makes_of_keeps (reads.keeps_feedCellForItemAt self row cell)
  | feedCellShowUserProfile cell => exact makes_of_keeps (reads.keeps_feedCellShowUserProfile cell)
  | feedCellOnTapLike cell => exact makes_onTapLike
  | feedCellOnTapComment cell => exact makes_of_keeps (reads.keeps_feedCellOnTapComment cell)
  | profileViewDidLoad self => exact makes_of_keeps (reads.keeps_profileViewDidLoad self)
  | profileViewForHeader self => exact makes_of_keeps (reads.keeps_viewForHeader self)
  | profileDidSelectItemAt self row =>
    exact makes_of_keeps (reads.keeps_profileDidSelectItemAt self row)
  | profileOnTapEditProfile self => exact makes_onTapEditProfile
  | editUpdateUserInfo self option text =>
    exact makes_of_keeps (reads.keeps_updateUserInfo self option text)
  | editHandleDone self editing => exact makes_handleDone
  | editDidFinishPicking self image =>
    exact makes_of_keeps (reads.keeps_editDidFinishPicking self image)
  | commentViewDidLoad self => exact makes_of_keeps (reads.keeps_commentViewDidLoad self)
  | commentEditText self text => exact makes_of_keeps (reads.keeps_editText self text)
  | commentOnTapPost self => exact makes_onTapPost
  | commentDidSelectItemAt self row =>
    exact makes_of_keeps (reads.keeps_commentDidSelectItemAt self row)
  | notificationViewDidLoad self => exact makes_of_keeps (reads.keeps_notificationViewDidLoad self)
  | notificationOnRefresh self => exact makes_of_keeps (reads.keeps_onRefresh self)
  | notificationNewCell self => exact makes_of_keeps (reads.keeps_notificationNewCell self)
  | notificationCellForRowAt self row cell =>
    exact makes_of_keeps (reads.keeps_cellForRowAt self row cell)
  | notificationDidSelectRowAt self row =>
    exact makes_of_keeps (reads.keeps_notificationDidSelectRowAt self row)
  | notificationCellTouchFollow cell => exact makes_touchFollowButton
  | notificationCellTouchPost cell => exact makes_touchPostImage
  | searchViewDidLoad self => exact makes_of_keeps (reads.keeps_searchViewDidLoad self)
  | searchUpdateResults self isActive text =>
    exact makes_of_keeps (reads.keeps_updateSearchResults self isActive text)
  | searchDidSelectRowAt self row => exact makes_of_keeps (reads.keeps_searchDidSelectRowAt self row)
  | uploadEditCaption self caption => exact makes_of_keeps (reads.keeps_editCaption self caption)
  | uploadOnTapShare self => exact makes_onTapShare

private theorem makes_perform (action : AppAction) : Makes action.makes action.perform := by
  cases action with
  | auth action => exact makes_authAction action
  | user action => exact makes_userAction action

end Actions

section Run

variable {kind : DocumentKind} {store : Firestore} {fresh : String}

/-- How many documents of the kind are stored. -/
def number (kind : DocumentKind) (store : Firestore) : ℕ :=
  (store.keys.filter fun reference => reference.kind? = some kind).card

private theorem keys_insert (reference : DocumentReference) (data : Dictionary) :
    (store.insert reference data).keys = insert reference store.keys := by
  ext other
  rw [Finmap.mem_keys, Finmap.mem_insert, Finset.mem_insert, Finmap.mem_keys]

/-- One more document of some kind at most. -/
private theorem number_insert (reference : DocumentReference) (data : Dictionary) :
    number kind (store.insert reference data) ≤
      number kind store + reference.kind?.toList.count kind := by
  rw [number, number, keys_insert, Finset.filter_insert]
  split_ifs with here
  · rw [here]
    simpa using Finset.card_insert_le reference _
  · exact Nat.le_add_right ..

private theorem number_erase (reference : DocumentReference) :
    number kind (store.erase reference) ≤ number kind store := by
  rw [number, number, Finmap.keys_erase]
  exact Finset.card_le_card (Finset.filter_subset_filter _ (Finset.erase_subset ..))

private theorem number_apply (request : Request) :
    number kind (request.apply fresh store) ≤ number kind store + cost kind request := by
  cases request with
  | setData reference data => exact number_insert reference data
  | updateData reference fields =>
    simp only [Request.apply]
    split
    · exact Nat.le_add_right ..
    · next stored found =>
      have present := Finmap.mem_keys.mpr (Finmap.mem_of_lookup_eq_some found)
      rw [number, number, keys_insert, Finset.insert_eq_of_mem present]
      exact Nat.le_add_right ..
  | delete reference => exact Nat.le_add_right_of_le (number_erase reference)
  | addDocument collection data =>
    have made : number kind (store.insert (collection.document fresh) (data fresh)) ≤
        number kind store + (collection.document fresh).kind?.toList.count kind :=
      number_insert ..
    cases collection <;> exact made
  | _ => exact Nat.le_add_right ..

/-- Serving a request makes its documents at most. -/
private theorem number_serve {choice : Choice} {request : Request} {before after : Cloud}
    {answer : request.Response} (served : cloud.serve choice before request = some (after, answer)) :
    number kind after.firestore ≤ number kind before.firestore + cost kind request := by
  rcases serve_cases served with ⟨rfl, -⟩ | ⟨order, fresh, transfer, resolved⟩
  · exact Nat.le_add_right ..
  · rw [(Request.resolve_firestore resolved).1]
    exact number_apply request

variable {ι : Type} [DecidableEq ι] {net final : Network cloud App ι ι}
  {events : List (Event cloud ι AppAction)}

/-- How many documents of the kind the actions of a run may make. -/
def taps (kind : DocumentKind) (events : List (Event cloud ι AppAction)) : ℕ :=
  (events.map (Network.allowed fun action => action.makes.count kind)).sum

/-- In a run of any number of devices, whatever fails, there come no more documents of a kind than
the actions taken may make. -/
theorem documents_made (idle : net.flight = []) (quiet : net.listeners = [])
    (run : Run (fun net event next => net.event? AppAction.perform event = some next) net events
      final) (kind : DocumentKind) :
    number kind final.store.firestore ≤ number kind net.store.firestore + taps kind events :=
  Network.size_run idle quiet (fun action => makes_perform action kind) number_serve run

def imageURL (name : String) : String := "gs://" ++ storageBucket ++ "/" ++ name

/-- A page that shares a post. -/
def sharing : Network cloud App Unit Unit where
  store := {}
  clients _ := some
    { currentUser := some "u"
      objects := [⟨.uploadPost
        ⟨some ⟨some [0]⟩, some ⟨"", "", "", "", "u", ⟨0, 0, 0⟩, false⟩, "c"⟩, false⟩] }

/-- Share is tapped twice, and all requests succeed. -/
def sharedTwice : List (Event cloud Unit AppAction) :=
  [.act () (.user (.uploadOnTapShare 0)), .act () (.user (.uploadOnTapShare 0))] ++
    drain [Choice.drawing (imageURL "a"), Choice.drawing (imageURL "b")] ++
    drain [Choice.drawing "", Choice.drawing ""] ++ drain [Choice.drawing "p", Choice.drawing "q"]

/-- Two quick taps on Share make two posts, and no more. -/
theorem documents_made_shared :
    ∃ final, Run (fun net event next => net.event? AppAction.perform event = some next) sharing
        sharedTwice final ∧
      number .post final.store.firestore = 2 ∧
      number .post final.store.firestore ≤
        number .post sharing.store.firestore + taps .post sharedTwice := by
  have completes : (replay? (Network.event? AppAction.perform) sharing sharedTwice).any (fun final =>
      decide (number .post final.store.firestore = 2)) = true := by
    decide +kernel
  obtain ⟨final, run, two⟩ := exists_run_of_replay? completes
  exact ⟨final, run, two, documents_made rfl rfl run .post⟩

end Run

end MadeDocuments

end InstagramClone
