import InstagramClone.Async.Settlement
import InstagramClone.Controller.MainTabController
import InstagramClone.Controller.ProfileController

/-! # What the app's code leaves alone

One rule for each way the code is put together, then the services and controllers: a property of
the client that their few changes keep is kept by all of their code, whatever is answered.
-/

namespace InstagramClone

open Async

namespace Code

section Device

variable {σ : Type} [Device σ] {asks : Request → Prop} {goal : σ → Prop}

omit [Device σ] in
theorem preserves_call {request : Request} {completion : request.Response → Code σ}
    (asked : asks request) (each : ∀ answer, (completion answer).Preserves asks goal) :
    (call request completion).Preserves asks goal :=
  ⟨⟨asked, each⟩, trivial⟩

omit [Device σ] in
theorem preserves_post {request : Request} (asked : asks request) :
    (Program.post request : Code σ).Preserves asks goal :=
  ⟨⟨asked, fun _ => trivial⟩, trivial⟩

theorem preserves_withCurrentUser {body : Uid → Code σ}
    (each : ∀ uid, (body uid).Preserves asks goal) :
    (withCurrentUser body).Preserves asks goal := by
  intro state
  cases signedIn : Device.currentUser state with
  | none => simp only [signedIn, Program.Preserves]
  | some uid =>
    simp only [signedIn]
    exact each uid

theorem preserves_withTimestamp {body : Timestamp → Code σ}
    (each : ∀ timestamp, (body timestamp).Preserves asks goal) :
    (withTimestamp body).Preserves asks goal :=
  fun state => each (Device.now state)

end Device

section App

variable {α : Type} [Instance α] {asks : Request → Prop} {goal : App → Prop}

theorem preserves_withObject {ref : Ref} {body : α → Code App}
    (each : ∀ value, (body value).Preserves asks goal) :
    (withObject ref body).Preserves asks goal := by
  intro app
  cases found : app.find? α ref with
  | none => simp only [found, Program.Preserves]
  | some value =>
    simp only [found]
    exact each value

theorem preserves_modify {ref : Ref} {change : α → α}
    (kept : ∀ app, goal app → goal (app.modify ref change)) :
    (modify ref change).Preserves asks goal :=
  ⟨kept, trivial⟩

theorem preserves_alloc {value : α} {inTab : Bool} {body : Ref → Code App}
    (kept : ∀ app, goal app → goal (app.add (Instance.inject value) inTab))
    (each : ∀ ref, (body ref).Preserves asks goal) : (alloc value inTab body).Preserves asks goal :=
  fun app => ⟨kept, each app.objects.length⟩

theorem preserves_withTabUser {ref : Ref} {body : User → Code App}
    (each : ∀ user, (body user).Preserves asks goal) :
    (withTabUser ref body).Preserves asks goal := by
  intro app
  dsimp only
  split
  · exact each _
  · trivial

end App

end Code

open Code

section Services

variable {σ : Type} [Device σ] {asks : Request → Prop} {goal : σ → Prop}

theorem UserService.preserves_follow {uid : Uid} {completion : Option BackendError → Code σ}
    (edges : ∀ uid other present, asks (.put (.following uid other) present) ∧
      asks (.put (.follower uid other) present))
    (each : ∀ error, (completion error).Preserves asks goal) :
    (follow uid completion).Preserves asks goal :=
  preserves_withCurrentUser fun current => preserves_call (edges current uid true).1 fun _ =>
    preserves_call (edges uid current true).2 each

theorem UserService.preserves_unFollow {uid : Uid} {completion : Option BackendError → Code σ}
    (edges : ∀ uid other present, asks (.put (.following uid other) present) ∧
      asks (.put (.follower uid other) present))
    (each : ∀ error, (completion error).Preserves asks goal) :
    (unFollow uid completion).Preserves asks goal :=
  preserves_withCurrentUser fun current => preserves_call (edges current uid false).1 fun _ =>
    preserves_call (edges uid current false).2 each

theorem NotificationService.preserves_addNotification {receiver : Uid} {fromUser : User}
    {type : NotificationType} {post : Option Post}
    (asked : ∀ data, asks (.addDocument (.userNotifications receiver) data)) :
    (addNotification receiver fromUser type post : Code σ).Preserves asks goal := by
  refine preserves_withCurrentUser fun uid => ?_
  split_ifs
  · trivial
  · exact preserves_withTimestamp fun _ => preserves_post (asked _)

theorem PostService.preserves_likePost {post : Post} {completion : Option BackendError → Code σ}
    (counter : ∀ likes, asks (.updateData (.post post.postId) (.ofList [("likes", .int likes)])))
    (likes : ∀ uid present, asks (.put (.postLike post.postId uid) present) ∧
      asks (.put (.userLike uid post.postId) present))
    (each : ∀ error, (completion error).Preserves asks goal) :
    (likePost post completion).Preserves asks goal :=
  preserves_withCurrentUser fun uid => (preserves_post (counter _)).seq <|
    preserves_call (likes uid true).1 fun _ => preserves_call (likes uid true).2 each

theorem PostService.preserves_unlikePost {post : Post} {completion : Option BackendError → Code σ}
    (counter : ∀ likes, asks (.updateData (.post post.postId) (.ofList [("likes", .int likes)])))
    (likes : ∀ uid present, asks (.put (.postLike post.postId uid) present) ∧
      asks (.put (.userLike uid post.postId) present))
    (each : ∀ error, (completion error).Preserves asks goal) :
    (unlikePost post completion).Preserves asks goal := by
  refine preserves_withCurrentUser fun uid => ?_
  split_ifs
  · exact (preserves_post (counter _)).seq <| preserves_call (likes uid false).1 fun _ =>
      preserves_call (likes uid false).2 each
  · trivial

theorem PostService.preserves_updateUserFeed {user : User}
    (reads : ∀ query, asks (.getDocuments query))
    (entries : ∀ uid post present, asks (.put (.userFeed uid post) present)) :
    (updateUserFeed user : Code σ).Preserves asks goal := by
  refine preserves_withCurrentUser fun uid => preserves_call (reads _) fun answer => ?_
  cases answer with
  | error => trivial
  | ok documents =>
    exact Program.preserves_forEach fun post _ => preserves_post (entries uid post true)

theorem PostService.preserves_removeUserFeed {user : User}
    (reads : ∀ query, asks (.getDocuments query))
    (entries : ∀ uid post present, asks (.put (.userFeed uid post) present)) :
    (removeUserFeed user : Code σ).Preserves asks goal := by
  refine preserves_withCurrentUser fun uid => preserves_call (reads _) fun answer => ?_
  cases answer with
  | error => trivial
  | ok documents =>
    exact Program.preserves_forEach fun document _ =>
      preserves_post (entries uid document.documentID false)

theorem ImageUploaderService.preserves_uploadImage {σ : Type} {goal : σ → Prop} {image : UIImage}
    {completion : String → Code σ} (stores : ∀ data, asks (.putData data))
    (locates : ∀ object, asks (.downloadURL object))
    (each : ∀ url, (completion url).Preserves asks goal) :
    (uploadImage image completion).Preserves asks goal :=
  uploadImage_induction (Program.Preserves asks goal) trivial trivial
    (fun data _ _ uploaded => preserves_call (stores data) uploaded)
    (fun ref _ located => preserves_call (locates ref) located) each

end Services

section Controllers

variable {asks : Request → Prop} {goal : App → Prop}

private theorem PostService.preserves_isUserLikedPost {post : Post} {completion : Bool → Code App}
    (reads : ∀ request : Request, request.writes = false → asks request)
    (each : ∀ liked, (completion liked).Preserves asks goal) :
    (isUserLikedPost post completion).Preserves asks goal := by
  refine preserves_withCurrentUser fun uid => preserves_call (reads _ rfl) fun answer => ?_
  cases answer with
  | error => trivial
  | ok snapshot => exact each _

private theorem FeedController.preserves_isUserLikedPost {self : Ref}
    (reads : ∀ request : Request, request.writes = false → asks request)
    (feeds : ∀ app ref (change : FeedController → FeedController), goal app →
      goal (app.modify ref change)) : (isUserLikedPost self).Preserves asks goal := by
  refine preserves_withObject fun feed => ?_
  cases feed.post with
  | some post =>
    exact PostService.preserves_isUserLikedPost reads fun _ => preserves_modify fun _ => feeds _ _ _
  | none =>
    exact Program.preserves_forEach fun post _ =>
      PostService.preserves_isUserLikedPost reads fun _ => preserves_modify fun _ => feeds _ _ _

theorem FeedController.preserves_fetchPosts {self : Ref}
    (reads : ∀ request : Request, request.writes = false → asks request)
    (feeds : ∀ app ref (change : FeedController → FeedController), goal app →
      goal (app.modify ref change))
    (lists : ∀ app ref (change : List Post → List Post), goal app → goal (app.modify ref change))
    (adds : ∀ app object inTab, (∀ cell, object ≠ .feedCell cell) → goal app →
      goal (app.add object inTab)) :
    (fetchPosts self).Preserves asks goal := by
  have deliver (list : Ref) : (withObject list fun posts : List Post =>
      .seq (modify self fun feed : FeedController => { feed with posts }) <|
      isUserLikedPost self).Preserves asks goal := by
    refine preserves_withObject fun posts => Program.Preserves.seq ?_ ?_
    · exact preserves_modify fun app => feeds app _ _
    · exact preserves_isUserLikedPost reads feeds
  refine preserves_withObject fun feed => ?_
  split_ifs
  · refine preserves_withCurrentUser fun uid => preserves_alloc (fun _ => adds _ _ _ nofun) fun list => ?_
    refine preserves_call (reads _ rfl) fun answer => ?_
    cases answer with
    | error => exact deliver list
    | ok documents =>
      refine Program.Preserves.seq ?_ (Program.preserves_forEach fun document _ => ?_)
      · split_ifs
        · exact deliver list
        · trivial
      · refine preserves_call (reads _ rfl) fun answer => ?_
        rcases answer with _ | _ | data
        · trivial
        · trivial
        · refine preserves_withTimestamp fun now => Program.Preserves.seq ?_ (deliver list)
          exact preserves_modify fun app => lists app _ _
  · trivial

theorem MainTabController.preserves_didFinishUploadPost
    (reads : ∀ request : Request, request.writes = false → asks request)
    (feeds : ∀ app ref (change : FeedController → FeedController), goal app →
      goal (app.modify ref change))
    (lists : ∀ app ref (change : List Post → List Post), goal app → goal (app.modify ref change))
    (adds : ∀ app object inTab, (∀ cell, object ≠ .feedCell cell) → goal app →
      goal (app.add object inTab)) :
    didFinishUploadPost.Preserves asks goal := by
  intro app
  dsimp only
  cases app.viewControllers with
  | nil => trivial
  | cons feed rest => exact FeedController.preserves_fetchPosts reads feeds lists adds

theorem UploadPostController.preserves_onTapShare {self : Ref}
    (reads : ∀ request : Request, request.writes = false → asks request)
    (stores : ∀ data, asks (.addDocument .posts data))
    (feeds : ∀ app ref (change : FeedController → FeedController), goal app →
      goal (app.modify ref change))
    (lists : ∀ app ref (change : List Post → List Post), goal app → goal (app.modify ref change))
    (adds : ∀ app object inTab, (∀ cell, object ≠ .feedCell cell) → goal app →
      goal (app.add object inTab)) :
    (onTapShare self).Preserves asks goal := by
  refine preserves_withObject fun upload => ?_
  split
  · refine preserves_withCurrentUser fun uid => ImageUploaderService.preserves_uploadImage
      (fun _ => reads _ rfl) (fun _ => reads _ rfl) fun url => preserves_withTimestamp fun now => ?_
    refine preserves_call (stores _) fun error => ?_
    cases error with
    | some error => trivial
    | none => exact MainTabController.preserves_didFinishUploadPost reads feeds lists adds
  · trivial

theorem MainTabController.preserves_viewDidLoad
    (reads : ∀ request : Request, request.writes = false → asks request)
    (tabs : ∀ app user, goal app → goal (setUser user app))
    (adds : ∀ app object inTab, (∀ cell, object ≠ .feedCell cell) → goal app →
      goal (app.add object inTab)) :
    viewDidLoad.Preserves asks goal := by
  refine Program.Preserves.seq (fun app => ?_) ?_
  · dsimp only
    split_ifs
    · exact preserves_alloc (fun _ => adds _ _ _ nofun) fun _ => trivial
    · trivial
  · refine preserves_withCurrentUser fun uid => preserves_call (reads _ rfl) fun answer => ?_
    rcases answer with _ | _ | data
    · trivial
    · trivial
    · exact ⟨fun app => tabs app _, trivial⟩

theorem ProfileController.preserves_onTapEditProfile {self : Ref}
    (reads : ∀ request : Request, request.writes = false → asks request)
    (edges : ∀ uid other present, asks (.put (.following uid other) present) ∧
      asks (.put (.follower uid other) present))
    (entries : ∀ uid post present, asks (.put (.userFeed uid post) present))
    (notifies : ∀ receiver data, asks (.addDocument (.userNotifications receiver) data))
    (profiles : ∀ app ref (change : ProfileController → ProfileController), goal app →
      goal (app.modify ref change))
    (adds : ∀ app object inTab, (∀ cell, object ≠ .feedCell cell) → goal app →
      goal (app.add object inTab)) :
    (onTapEditProfile self).Preserves asks goal := by
  have shows (isFollowed : Bool) : (setIsFollowed self isFollowed).Preserves asks goal :=
    preserves_modify fun app => profiles app _ _
  refine preserves_withObject fun profile => ?_
  cases profile.header with
  | none => trivial
  | some user =>
    refine preserves_withTabUser fun currentUser app => ?_
    dsimp only
    split_ifs
    · exact preserves_withObject fun profile =>
        preserves_alloc (fun _ => adds _ _ _ nofun) fun _ => trivial
    · exact UserService.preserves_unFollow edges fun _ => (shows false).seq
        (PostService.preserves_removeUserFeed (fun _ => reads _ rfl) entries)
    · exact UserService.preserves_follow edges fun _ => (shows true).seq
        ((NotificationService.preserves_addNotification (notifies _)).seq
          (PostService.preserves_updateUserFeed (fun _ => reads _ rfl) entries))

end Controllers

end InstagramClone
