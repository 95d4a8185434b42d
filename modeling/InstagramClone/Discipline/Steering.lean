import InstagramClone.Async.Movement
import InstagramClone.Discipline.Devices

/-! # How the app's code moves a device on

One rule for each way the code is put together and for each service: what a completion handler must
do from wherever the device has moved to by the time it runs.
-/

namespace InstagramClone

open Async

variable {course : Course firebase App} {start : App}

namespace Code

variable {α : Type} [Instance α]

private theorem steers_call {request : Request} {completion : request.Response → Code App}
    (each : ∀ answer later, course.moves start later → (completion answer).Steers course later) :
    (call request completion).Steers course start :=
  ⟨each, trivial⟩

private theorem steers_post (request : Request) :
    (Program.post request : Code App).Steers course start :=
  ⟨fun _ _ _ => trivial, trivial⟩

theorem steers_withCurrentUser {body : Uid → Code App}
    (each : ∀ uid, start.currentUser = some uid → (body uid).Steers course start) :
    (withCurrentUser body).Steers course start := by
  cases signedIn : start.currentUser with
  | none =>
    have signedOut : Device.currentUser start = none := signedIn
    simp only [withCurrentUser, Program.Steers, signedOut]
  | some uid =>
    have current : Device.currentUser start = some uid := signedIn
    simp only [withCurrentUser, Program.Steers, current]
    exact each uid signedIn

theorem steers_withObject {ref : Ref} {body : α → Code App}
    (each : ∀ value, start.find? α ref = some value → (body value).Steers course start) :
    (withObject ref body).Steers course start := by
  cases found : start.find? α ref with
  | none => simp only [withObject, Program.Steers, found]
  | some value =>
    simp only [withObject, Program.Steers, found]
    exact each value found

theorem steers_modify {ref : Ref} {change : α → α}
    (moved : course.own.moves start (start.modify ref change)) :
    (modify ref change).Steers course start :=
  ⟨moved, trivial⟩

theorem steers_alloc {value : α} {inTab : Bool} {body : Ref → Code App}
    (moved : course.own.moves start (start.add (Instance.inject value) inTab))
    (rest : (body start.objects.length).Steers course (start.add (Instance.inject value) inTab)) :
    (alloc value inTab body).Steers course start :=
  ⟨moved, rest⟩

theorem steers_push {opener : Ref} {controller : α}
    (moved : ∀ inTab, course.own.moves start (start.add (Instance.inject controller) inTab)) :
    (push opener controller).Steers course start :=
  ⟨moved _, trivial⟩

theorem steers_withTabUser {ref : Ref} {body : User → Code App}
    (each : ∀ user, start.user = some user → (body user).Steers course start) :
    (withTabUser ref body).Steers course start := by
  simp only [withTabUser, Program.Steers]
  split
  · next user _ shown => exact each user shown
  · trivial

end Code

open Code

namespace UserService

theorem steers_fetchUser {uid : Uid} {completion : User → Code App}
    (each : ∀ user later, course.moves start later → (completion user).Steers course later) :
    (fetchUser uid completion).Steers course start := by
  refine steers_call fun answer later moved => ?_
  rcases answer with _ | _ | data
  · trivial
  · trivial
  · exact each _ later moved

theorem steers_fetchUsers {completion : List User → Code App}
    (each : ∀ users later, course.moves start later → (completion users).Steers course later) :
    (fetchUsers completion).Steers course start := by
  refine steers_call fun answer later moved => ?_
  cases answer with
  | error => trivial
  | ok documents => exact each _ later moved

theorem steers_isUserFollowed {uid : Uid} {completion : Bool → Code App}
    (each : ∀ isFollowed later, course.moves start later →
      (completion isFollowed).Steers course later) :
    (isUserFollowed uid completion).Steers course start := by
  apply steers_withCurrentUser
  intro current _
  refine steers_call fun answer later moved => ?_
  cases answer with
  | error => trivial
  | ok snapshot => exact each _ later moved

theorem steers_fetchUserStats {uid : Uid} {completion : UserStats → Code App}
    (each : ∀ stats later, course.moves start later → (completion stats).Steers course later) :
    (fetchUserStats uid completion).Steers course start := by
  refine steers_call fun _ second toSecond => ?_
  refine steers_call fun _ third toThird => ?_
  refine steers_call fun _ last toLast => ?_
  exact each _ last (course.trans (course.trans toSecond toThird) toLast)

private theorem steers_edge {first second : Request}
    {completion : second.Response → Code App}
    (each : ∀ answer later, course.moves start later → (completion answer).Steers course later) :
    (call first fun _ => call second completion).Steers course start := by
  refine steers_call fun _ middle toMiddle => ?_
  refine steers_call fun answer later toLater => ?_
  exact each answer later (course.trans toMiddle toLater)

theorem steers_follow {uid : Uid} {completion : Option BackendError → Code App}
    (each : ∀ error later, course.moves start later → (completion error).Steers course later) :
    (follow uid completion).Steers course start :=
  steers_withCurrentUser fun _ _ => steers_edge each

theorem steers_unFollow {uid : Uid} {completion : Option BackendError → Code App}
    (each : ∀ error later, course.moves start later → (completion error).Steers course later) :
    (unFollow uid completion).Steers course start :=
  steers_withCurrentUser fun _ _ => steers_edge each

theorem steers_saveUserData {user : User} {completion : Option BackendError → Code App}
    (each : ∀ error later, course.moves start later → (completion error).Steers course later) :
    (saveUserData user completion).Steers course start :=
  steers_withCurrentUser fun _ _ => steers_call each

end UserService

private theorem ImageUploaderService.steers_uploadImage {image : UIImage}
    {completion : String → Code App}
    (each : ∀ url later, course.moves start later → (completion url).Steers course later) :
    (uploadImage image completion).Steers course start := by
  have step {request : Request} {callback : request.Response → Code App}
      (each : ∀ answer later, course.moves start later → (callback answer).Steers course later) :
      ∀ later, course.moves start later → (call request callback).Steers course later :=
    fun later toLater => steers_call fun answer last toLast =>
      each answer last (course.trans toLater toLast)
  have steered : ∀ later, course.moves start later →
      (uploadImage image completion).Steers course later :=
    uploadImage_induction (fun code => ∀ later, course.moves start later → code.Steers course later)
      (fun _ _ => trivial) (fun _ _ => trivial) (fun _ _ _ each => step each) (fun _ _ each => step each)
      each
  exact steered start (course.refl start)

theorem UserService.steers_updateProfileImage {user : User} {image : UIImage}
    {completion : Option String → Option BackendError → Code App}
    (each : ∀ url error later, course.moves start later →
      (completion url error).Steers course later) :
    (updateProfileImage user image completion).Steers course start := by
  apply steers_withCurrentUser
  intro uid _
  apply Program.Steers.seq
  · split_ifs
    · exact steers_post _
    · trivial
  · intro second toSecond
    apply ImageUploaderService.steers_uploadImage
    intro url third toThird
    refine steers_call fun error fourth toFourth => ?_
    have sofar := course.trans (course.trans toSecond toThird) toFourth
    cases error with
    | some error => exact each none (some error) fourth sofar
    | none =>
      apply Program.Steers.seq
      · refine steers_call fun answer _ _ => ?_
        cases answer with
        | error => trivial
        | ok documents => exact Program.steers_forEach fun _ _ _ _ => steers_post _
      · exact fun last toLast => each (some url) none last (course.trans sofar toLast)

namespace NotificationService

theorem steers_addNotification {receiver : Uid} {fromUser : User} {type : NotificationType}
    {post : Option Post} : (addNotification receiver fromUser type post : Code App).Steers course
      start := by
  apply steers_withCurrentUser
  intro uid _
  split_ifs
  · trivial
  · exact steers_post _

theorem steers_fetchNotifications {completion : List Notification → Code App}
    (each : ∀ notifications later, course.moves start later →
      (completion notifications).Steers course later) :
    (fetchNotifications completion).Steers course start := by
  apply steers_withCurrentUser
  intro uid _
  refine steers_call fun answer later moved => ?_
  cases answer with
  | error => trivial
  | ok documents => exact each _ later moved

end NotificationService

namespace CommentService

theorem steers_uploadComment {text : String} {post : Post} {user : User}
    {completion : Option BackendError → Code App}
    (each : ∀ error later, course.moves start later → (completion error).Steers course later) :
    (uploadComment text post user completion).Steers course start :=
  ⟨each, trivial⟩

/-- The captured list may be allocated and appended to, and is delivered whole. -/
theorem steers_fetchComments {id : PostId} {completion : List Comment → Code App}
    (listens : course.listens { collection := .comments id, orderBy := some "timestamp" })
    (allocates : course.own.moves start (start.add (.capturedComments []) false))
    (appends : ∀ later ref (change : List Comment → List Comment), course.moves start later →
      course.own.moves later (later.modify ref change))
    (each : ∀ comments later, course.moves start later → (completion comments).Steers course later) :
    (fetchComments id completion).Steers course start := by
  refine steers_alloc allocates ⟨⟨listens, fun snapshot later beyond => ?_⟩, trivial⟩
  have moved := course.trans (course.follows allocates) beyond
  apply Program.Steers.seq
  · cases snapshot with
    | error => trivial
    | ok changes => exact steers_modify (appends later _ _ moved)
  · intro last toLast
    exact steers_withObject fun comments _ => each comments last (course.trans moved toLast)

end CommentService

namespace PostService

theorem steers_postAnImage {caption : String} {image : UIImage} {user : User}
    {completion : Option BackendError → Code App}
    (each : ∀ error later, course.moves start later → (completion error).Steers course later) :
    (postAnImage caption image user completion).Steers course start := by
  apply steers_withCurrentUser
  intro uid _
  apply ImageUploaderService.steers_uploadImage
  intro url middle toMiddle
  refine steers_call fun error later toLater => ?_
  exact each error later (course.trans toMiddle toLater)

theorem steers_fetchPostsForUser {uid : Uid} {completion : List Post → Code App}
    (each : ∀ posts later, course.moves start later → (completion posts).Steers course later) :
    (fetchPostsForUser uid completion).Steers course start := by
  refine steers_call fun answer later moved => ?_
  cases answer with
  | error => trivial
  | ok documents => exact each _ later moved

theorem steers_fetchPost {id : PostId} {completion : Post → Code App}
    (each : ∀ post later, course.moves start later → (completion post).Steers course later) :
    (fetchPost id completion).Steers course start := by
  refine steers_call fun answer later moved => ?_
  rcases answer with _ | _ | data
  · trivial
  · trivial
  · exact each _ later moved

theorem steers_likePost {post : Post} {completion : Option BackendError → Code App}
    (each : ∀ error later, course.moves start later → (completion error).Steers course later) :
    (likePost post completion).Steers course start := by
  apply steers_withCurrentUser
  intro uid _
  exact ⟨fun _ _ _ => trivial, UserService.steers_edge each⟩

theorem steers_unlikePost {post : Post} {completion : Option BackendError → Code App}
    (each : ∀ error later, course.moves start later → (completion error).Steers course later) :
    (unlikePost post completion).Steers course start := by
  apply steers_withCurrentUser
  intro uid _
  split_ifs
  · exact ⟨fun _ _ _ => trivial, UserService.steers_edge each⟩
  · trivial

theorem steers_isUserLikedPost {post : Post} {completion : Bool → Code App}
    (each : ∀ didLike later, course.moves start later → (completion didLike).Steers course later) :
    (isUserLikedPost post completion).Steers course start := by
  apply steers_withCurrentUser
  intro uid _
  refine steers_call fun answer later moved => ?_
  cases answer with
  | error => trivial
  | ok snapshot => exact each _ later moved

theorem steers_updateUserFeed {user : User} : (updateUserFeed user : Code App).Steers course start := by
  apply steers_withCurrentUser
  intro uid _
  refine steers_call fun answer _ _ => ?_
  cases answer with
  | error => trivial
  | ok documents => exact Program.steers_forEach fun _ _ _ _ => steers_post _

theorem steers_removeUserFeed {user : User} : (removeUserFeed user : Code App).Steers course start := by
  apply steers_withCurrentUser
  intro uid _
  refine steers_call fun answer _ _ => ?_
  cases answer with
  | error => trivial
  | ok documents => exact Program.steers_forEach fun _ _ _ _ => steers_post _

/-- The captured list may be allocated and appended to, and is delivered whole. -/
theorem steers_fetchFeedPosts {completion : List Post → Code App}
    (allocates : course.own.moves start (start.add (.capturedPosts []) false))
    (appends : ∀ later ref (change : List Post → List Post), course.moves start later →
      course.own.moves later (later.modify ref change))
    (each : ∀ posts later, course.moves start later → (completion posts).Steers course later) :
    (fetchFeedPosts completion).Steers course start := by
  have deliver (ref : Ref) {later : App} (moved : course.moves start later) :
      (withObject ref completion).Steers course later :=
    steers_withObject fun posts _ => each posts later moved
  apply steers_withCurrentUser
  intro uid _
  apply steers_alloc allocates
  refine steers_call fun answer second toSecond => ?_
  have sofar := course.trans (course.follows allocates) toSecond
  cases answer with
  | error => exact deliver _ sofar
  | ok documents =>
    apply Program.Steers.seq
    · split_ifs
      · exact deliver _ sofar
      · trivial
    · intro third toThird
      apply Program.steers_forEach
      intro document _ fourth toFourth
      apply steers_fetchPost
      intro post fifth toFifth
      have arrived := course.trans (course.trans (course.trans sofar toThird) toFourth) toFifth
      apply Program.Steers.seq
      · exact steers_modify (appends fifth _ _ arrived)
      · exact fun last toLast => deliver _ (course.trans arrived toLast)

end PostService

namespace AuthService

/-- Whoever is signed in by an answer, the completion handler runs with it. -/
private theorem steers_signedIn {completion : Except BackendError Uid → Code App}
    (signs : ∀ uid, course.own.moves start { start with currentUser := some uid })
    (each : ∀ answer later, course.moves start later → (completion answer).Steers course later)
    (answer : Except BackendError Uid) : (signedIn completion answer).Steers course start := by
  cases answer with
  | error error => exact each (.error error) start (course.refl start)
  | ok uid => exact ⟨signs uid, each (.ok uid) _ (course.follows (signs uid))⟩

variable (signs : ∀ later uid, course.moves start later →
    course.own.moves later { later with currentUser := uid })
include signs

theorem steers_loginUser {email password : String}
    {completion : Except BackendError Uid → Code App}
    (each : ∀ answer later, course.moves start later → (completion answer).Steers course later) :
    (loginUser email password completion).Steers course start := by
  refine steers_call fun answer later moved => ?_
  apply steers_signedIn fun uid => signs later (some uid) moved
  exact fun answer last beyond => each answer last (course.trans moved beyond)

theorem steers_registerUser {credential : AuthCredentials}
    {completion : Option BackendError → Code App}
    (each : ∀ error later, course.moves start later → (completion error).Steers course later) :
    (registerUser credential completion).Steers course start := by
  unfold registerUser
  split
  · apply ImageUploaderService.steers_uploadImage
    intro url second toSecond
    refine steers_call fun answer third toThird => ?_
    have created := course.trans toSecond toThird
    apply steers_signedIn fun uid => signs third (some uid) created
    intro answer fourth toFourth
    cases answer with
    | error => trivial
    | ok uid =>
      refine steers_call fun error last toLast => ?_
      exact each error last (course.trans (course.trans created toFourth) toLast)
  · trivial

theorem steers_registerGoogleUser {credential : AuthCredential}
    {completion : Option BackendError → Code App}
    (each : ∀ error later, course.moves start later → (completion error).Steers course later) :
    (registerGoogleUser credential completion).Steers course start := by
  have out := signs start none (course.refl start)
  refine ⟨out, steers_call fun answer second toSecond => ?_⟩
  have answered := course.trans (course.follows out) toSecond
  apply steers_signedIn fun uid => signs second (some uid) answered
  intro answer third toThird
  cases answer with
  | error => trivial
  | ok uid =>
    simp only [Program.Steers]
    cases Device.googleProfile third with
    | none => trivial
    | some profile =>
      refine steers_call fun error last toLast => ?_
      exact each error last (course.trans (course.trans answered toThird) toLast)

end AuthService

end InstagramClone
