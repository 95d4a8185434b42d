import InstagramClone.Controller.UserAction
import InstagramClone.Discipline.Preservation

/-! # What the screen shows after an action failed

Five kinds of actions change what the user sees: following on a profile page or in a notification
row, liking, commenting and saving a profile. All but the change of a profile image update the
screen no matter whether their requests fail, so it is left as it was only by accident.
-/

namespace InstagramClone

open Async

/-- An action whose failure the user should be able to see. -/
inductive ScreenAction where
  | follow (self : Ref)
  | like (cell : Ref)
  | followRow (cell : Ref)
  | comment (self : Ref)
  | save (self : Ref) (editing : Option (EditProfileOptions × String))

namespace ScreenAction

def perform : ScreenAction → Code App
  | follow self => ProfileController.onTapEditProfile self
  | like cell => FeedCell.onTapLike cell
  | followRow cell => NotificationCell.touchFollowButton cell
  | comment self => CommentController.onTapPost self
  | save self editing => EditProfileController.handleDone self editing

/-- The requests of the action without which it has failed. -/
def asks : ScreenAction → Request → Bool
  | follow _, .setData (.following ..) _ | follow _, .setData (.follower ..) _
  | follow _, .delete (.following ..) | follow _, .delete (.follower ..)
  | followRow _, .setData (.following ..) _ | followRow _, .setData (.follower ..) _
  | followRow _, .delete (.following ..) | followRow _, .delete (.follower ..)
  | like _, .updateData (.post _) _ | like _, .setData (.postLike ..) _
  | like _, .setData (.userLike ..) _ | like _, .delete (.postLike ..)
  | like _, .delete (.userLike ..)
  | comment _, .addDocument (.comments _) _
  | save .., .setData (.user _) _ | save .., .updateData (.user _) _ | save .., .putData _
  | save .., .downloadURL _ => true
  | _, _ => false

/-- What the user sees of the action is the same on both devices. -/
def Unchanged (before after : App) : ScreenAction → Prop
  | follow self => (after.find? ProfileController self).map (·.user.isFollowed) =
      (before.find? ProfileController self).map (·.user.isFollowed)
  | like cell =>
    ((after.find? FeedCell cell).bind (·.viewModel)).map (fun post => (post.didLike, post.likes)) =
      ((before.find? FeedCell cell).bind (·.viewModel)).map fun post => (post.didLike, post.likes)
  | followRow cell =>
    ((after.find? NotificationCell cell).bind (·.viewModel)).map (·.userIsFollowed) =
      ((before.find? NotificationCell cell).bind (·.viewModel)).map (·.userIsFollowed)
  | comment self => (after.find? CommentController self).map (·.commentText) =
      (before.find? CommentController self).map (·.commentText)
  | save self _ => ∀ edit, before.find? EditProfileController self = some edit →
      (after.find? ProfileController edit.delegate).map (·.user) =
        (before.find? ProfileController edit.delegate).map (·.user)

end ScreenAction

/-- The editor once the field being edited has reported its text. -/
def EditProfileController.edited (edit : EditProfileController) :
    Option (EditProfileOptions × String) → EditProfileController
  | none => edit
  | some (.fullname, text) =>
    { edit with userInfoChanged := true, user := { edit.user with fullname := text } }
  | some (.username, text) =>
    { edit with userInfoChanged := true, user := { edit.user with username := text } }

/-- The record of an account has been given the URL of an uploaded image. -/
def ImageStored (served : List (Served firebase)) (url : String) : Prop :=
  ∃ uid, ⟨.updateData (.user uid) (.ofList [("profileImage", .string url)]), true⟩ ∈ served

/-- The screen already showed what the action sets, whatever fails: a profile page of the new
follow state, an empty comment text, a profile page of the edited user. -/
def ScreenAction.AlreadyShown (before : App) (served : List (Served firebase)) : ScreenAction → Prop
  | follow self => ∀ profile header, before.find? ProfileController self = some profile →
      profile.header = some header → profile.user.isFollowed = !header.isFollowed
  | like _ | followRow _ => False
  | comment self => ∀ page, before.find? CommentController self = some page → page.commentText = ""
  | save self editing => ∀ edit profile, before.find? EditProfileController self = some edit →
      before.find? ProfileController edit.delegate = some profile →
      if edit.imageChanged then
        ∀ url, ImageStored served url →
          profile.user = { (edit.edited editing).user with profileImage := url }
      else profile.user = (edit.edited editing).user

namespace FailedActions

variable {before after : App} {served : List (Served firebase)} {final : Option App}
  {loses : Served firebase → Prop}

/-- An action that asks for nothing has not failed. -/
private theorem not_failed (settled : Settles Request.succeeded [] (some before) served final)
    (failed : ∃ entry ∈ served, loses entry) : False := by
  obtain rfl := settled.of_nil.1
  simp at failed

/-- A follow or unfollow that was not idle runs its completion handler, with any outcome. -/
private theorem edge_settles {isFollowed : Bool} {uid : Uid}
    {unfollowed followed : Option BackendError → Code App}
    (settled : Settles Request.succeeded
      ((if isFollowed = true then UserService.unFollow uid unfollowed
        else UserService.follow uid followed).run before).calls
      ((if isFollowed = true then UserService.unFollow uid unfollowed
        else UserService.follow uid followed).run before).state served final)
    (failed : ∃ entry ∈ served, loses entry) :
    ∃ error later, Settles Request.succeeded
      (((if isFollowed = true then unfollowed else followed) error).run before).calls
      (((if isFollowed = true then unfollowed else followed) error).run before).state later final := by
  cases signedIn : before.currentUser with
  | none =>
    cases isFollowed <;>
      simp only [if_true, if_false, Bool.false_eq_true, UserService.unFollow, UserService.follow,
        Code.run_withCurrentUser_none (show Device.currentUser before = none from signedIn)] at settled
    all_goals exact (not_failed settled failed).elim
  | some current =>
    have signedIn : Device.currentUser before = some current := signedIn
    cases isFollowed with
    | true =>
      simp only [if_true, UserService.run_unFollow signedIn] at settled
      obtain ⟨_, later, rest, -⟩ := settled.of_single
      obtain ⟨error, last, rest, -⟩ := rest.of_single
      exact ⟨error, last, rest⟩
    | false =>
      simp only [if_false, Bool.false_eq_true, UserService.run_follow signedIn] at settled
      obtain ⟨_, later, rest, -⟩ := settled.of_single
      obtain ⟨error, last, rest, -⟩ := rest.of_single
      exact ⟨error, last, rest⟩

/-- The profile page shows the new follow state. -/
private theorem follow_shows {self : Ref}
    (settled : Settles Request.succeeded ((ProfileController.onTapEditProfile self).run before).calls
      ((ProfileController.onTapEditProfile self).run before).state served (some after))
    (failed : ∃ entry ∈ served, loses entry) :
    ∃ profile header, before.find? ProfileController self = some profile ∧
      profile.header = some header ∧
      (after.find? ProfileController self).map (·.user.isFollowed) = some !header.isFollowed := by
  simp only [ProfileController.onTapEditProfile, Code.withObject, Program.run_inspect] at settled
  cases found : before.find? ProfileController self with
  | none =>
    simp only [found] at settled
    exact (not_failed settled failed).elim
  | some profile =>
    cases shown : profile.header with
    | none =>
      simp only [found, shown] at settled
      exact (not_failed settled failed).elim
    | some header =>
      refine ⟨profile, header, rfl, shown, ?_⟩
      simp only [found, shown, ProfileController.onTapButtonFor, Code.withTabUser,
        Program.run_inspect] at settled
      split at settled
      · next user inside tabUser =>
        simp only [Program.run_inspect] at settled
        by_cases own : ProfileController.isCurrentUser before header = true
        · simp only [own, if_true, ProfileController.showEditProfileController, Code.withObject,
            Code.alloc, Program.run_inspect, found] at settled
          exact (not_failed settled failed).elim
        · simp only [own] at settled
          obtain ⟨error, later, rest⟩ := edge_settles settled failed
          let goal (isFollowed : Bool) (app : App) : Prop :=
            (app.find? ProfileController self).map (·.user.isFollowed) = some isFollowed
          have set (isFollowed : Bool) : goal isFollowed (before.modify self
              fun profile : ProfileController =>
                { profile with user := { profile.user with isFollowed } }) := by
            simp [goal, App.find?_modify, found]
          cases followed : header.isFollowed with
          | true =>
            simp only [followed, if_true, ProfileController.setIsFollowed, Code.modify,
              Program.update_seq, Program.done_seq, Program.run_update] at rest
            have kept : (PostService.removeUserFeed header : Code App).Preserves (fun _ => True)
                (goal false) :=
              PostService.preserves_removeUserFeed (fun _ => trivial) fun _ _ _ => trivial
            exact (rest.preserves_run kept (set false)).1 after rfl
          | false =>
            simp only [followed, if_false, Bool.false_eq_true, ProfileController.setIsFollowed,
              Code.modify, Program.update_seq, Program.done_seq, Program.run_update] at rest
            have notified : (NotificationService.addNotification header.uid user .follow none :
                Code App).Preserves (fun _ => True) (goal true) :=
              NotificationService.preserves_addNotification fun _ => trivial
            have fed : (PostService.updateUserFeed header : Code App).Preserves (fun _ => True)
                (goal true) :=
              PostService.preserves_updateUserFeed (fun _ => trivial) fun _ _ _ => trivial
            exact (rest.preserves_run (notified.seq fed) (set true)).1 after rfl
      · exact (not_failed settled failed).elim

/-- The liked or unliked cell shows the opposite state. -/
private theorem like_shows {cell : Ref}
    (settled : Settles Request.succeeded ((FeedCell.onTapLike cell).run before).calls
      ((FeedCell.onTapLike cell).run before).state served (some after))
    (failed : ∃ entry ∈ served, loses entry) :
    ∃ post, (before.find? FeedCell cell).bind (·.viewModel) = some post ∧
      ((after.find? FeedCell cell).bind (·.viewModel)).map (·.didLike) = some !post.didLike := by
  simp only [FeedCell.onTapLike, FeedCell.withViewModel, Code.withObject, Program.run_inspect]
    at settled
  cases found : before.find? FeedCell cell with
  | none =>
    simp only [found] at settled
    exact (not_failed settled failed).elim
  | some shown =>
    obtain ⟨_ | post, delegate⟩ := shown
    · simp only [found] at settled
      exact (not_failed settled failed).elim
    · refine ⟨post, rfl, ?_⟩
      simp only [found, FeedController.didLike, Code.withTabUser, Program.run_inspect] at settled
      split at settled
      · next user inside tabUser =>
        simp only [FeedController.toggleDidLike, Code.modify, Program.update_seq,
          Program.done_seq, Program.run_update] at settled
        let goal (app : App) : Prop := ((app.find? FeedCell cell).bind (·.viewModel)).map
          (·.didLike) = some !post.didLike
        have toggled : goal (before.modify cell fun shown : FeedCell => { shown with
            viewModel := shown.viewModel.map fun post => { post with didLike := !post.didLike } }) := by
          simp [goal, App.find?_modify, found]
        have counts (likes : ℤ) : (FeedController.setLikes cell likes).Preserves (fun _ => True)
            goal := by
          refine ⟨fun app valid => ?_, trivial⟩
          simp only [goal, App.find?_modify] at valid ⊢
          cases present : app.find? FeedCell cell with
          | none => simp [present] at valid
          | some now =>
            cases model : now.viewModel <;> simp_all
        refine (settled.preserves_run (?_ : Program.Preserves (fun _ => True) goal _) toggled).1
          after rfl
        split_ifs
        · exact PostService.preserves_unlikePost (fun _ => trivial)
            (fun _ _ => ⟨trivial, trivial⟩) fun _ => counts _
        · exact PostService.preserves_likePost (fun _ => trivial)
            (fun _ _ => ⟨trivial, trivial⟩) fun _ => (counts _).seq <|
              NotificationService.preserves_addNotification fun _ => trivial
      · exact (not_failed settled failed).elim

/-- The notification row shows the opposite follow state. -/
private theorem followRow_shows {cell : Ref}
    (settled : Settles Request.succeeded ((NotificationCell.touchFollowButton cell).run before).calls
      ((NotificationCell.touchFollowButton cell).run before).state served (some after))
    (failed : ∃ entry ∈ served, loses entry) :
    ∃ notification, (before.find? NotificationCell cell).bind (·.viewModel) = some notification ∧
      ((after.find? NotificationCell cell).bind (·.viewModel)).map (·.userIsFollowed) =
        some !notification.userIsFollowed := by
  simp only [NotificationCell.touchFollowButton, NotificationCell.withViewModel, Code.withObject,
    Program.run_inspect] at settled
  cases found : before.find? NotificationCell cell with
  | none =>
    simp only [found] at settled
    exact (not_failed settled failed).elim
  | some shown =>
    obtain ⟨_ | notification, delegate⟩ := shown
    · simp only [found] at settled
      exact (not_failed settled failed).elim
    · refine ⟨notification, rfl, ?_⟩
      simp only [found] at settled
      split_ifs at settled with visible
      · simp only [NotificationCell.onTapFollow, NotificationCell.withViewModel, Code.withObject,
          Program.run_inspect, found, NotificationController.wantsToFollow,
          NotificationController.wantsToUnfollow] at settled
        obtain ⟨error, later, rest⟩ := edge_settles settled failed
        simp only [ite_self, NotificationController.toggleUserIsFollowed, Code.modify,
          Program.run_update, Program.run_done] at rest
        obtain rfl := Option.some.inj rest.of_nil.2
        simp [App.find?_modify, found]
      · exact (not_failed settled failed).elim

/-- The comment page shows an empty text. -/
private theorem comment_shows {self : Ref}
    (settled : Settles Request.succeeded ((CommentController.onTapPost self).run before).calls
      ((CommentController.onTapPost self).run before).state served (some after))
    (failed : ∃ entry ∈ served, loses entry) :
    ∃ page, before.find? CommentController self = some page ∧
      (after.find? CommentController self).map (·.commentText) = some "" := by
  simp only [CommentController.onTapPost, Code.withObject, Program.run_inspect] at settled
  cases found : before.find? CommentController self with
  | none =>
    simp only [found] at settled
    exact (not_failed settled failed).elim
  | some page =>
    refine ⟨page, rfl, ?_⟩
    simp only [found, CommentController.uploadText, Code.withTabUser, Program.run_inspect]
      at settled
    split at settled
    · next user inside tabUser =>
      simp only [Code.withObject, Program.run_inspect, found,
        CommentService.uploadComment, Code.run_withTimestamp, Code.run_call] at settled
      obtain ⟨error, later, rest, -⟩ := settled.of_single
      simp only [CommentController.clearInputText, CommentController.editText, Code.modify,
        Program.update_seq, Program.done_seq, Program.run_update] at rest
      let goal (app : App) : Prop := (app.find? CommentController self).map (·.commentText) = some ""
      have cleared : goal (before.modify self fun page : CommentController =>
          { page with commentText := "" }) := by
        simp [goal, App.find?_modify, found]
      have kept : (NotificationService.addNotification page.post.ownerUid user .comment
          (some page.post) : Code App).Preserves (fun _ => True) goal :=
        NotificationService.preserves_addNotification fun _ => trivial
      exact (rest.preserves_run kept cleared).1 after rfl
    · exact (not_failed settled failed).elim

private theorem not_stored_of_nil {url : String} : ¬ ImageStored [] url := by
  rintro ⟨uid, member⟩
  simp at member

/-- Only an update of the account's record stores an image. -/
private theorem stored_cons {entry : Served firebase} {url : String}
    (other : ∀ uid, entry ≠ ⟨.updateData (.user uid) (.ofList [("profileImage", .string url)]), true⟩) :
    ImageStored (entry :: served) url ↔ ImageStored served url := by
  constructor
  · rintro ⟨uid, member⟩
    rcases List.mem_cons.mp member with same | member
    · exact (other uid same.symm).elim
    · exact ⟨uid, member⟩
  · rintro ⟨uid, member⟩
    exact ⟨uid, List.mem_cons_of_mem _ member⟩

/-- The outcome of a change of the image: no image is stored and the profile page stays, or one
image is stored and the profile page shows the edited user with it. -/
structure ImageOutcome (edit : EditProfileController) (before after : App)
    (served : List (Served firebase)) : Prop where
  stays : (∀ url, ¬ ImageStored served url) →
    (after.find? ProfileController edit.delegate).map (·.user) =
      (before.find? ProfileController edit.delegate).map (·.user)
  shows : ∀ url, ImageStored served url →
    (after.find? ProfileController edit.delegate).map (·.user) =
      (before.find? ProfileController edit.delegate).map fun _ =>
        { edit.user with profileImage := url }

private theorem ImageOutcome.of_unstored {edit : EditProfileController}
    (none : ∀ url, ¬ ImageStored served url) :
    ImageOutcome edit before before served :=
  ⟨fun _ => rfl, fun url stored => (none url stored).elim⟩

private theorem ImageOutcome.congr {edit : EditProfileController} {others : List (Served firebase)}
    (outcome : ImageOutcome edit before after served)
    (same : ∀ url, ImageStored others url ↔ ImageStored served url) :
    ImageOutcome edit before after others :=
  ⟨fun none => outcome.stays fun url stored => none url ((same url).mpr stored),
    fun url stored => outcome.shows url ((same url).mp stored)⟩

/-- The request updates no account's record. -/
def SparesUsers (request : Request) : Prop := ∀ uid fields, request ≠ .updateData (.user uid) fields

/-- The document update of a change of the image, and the update of the posts. -/
private theorem image_updated {self : Ref} {edit : EditProfileController} {uid : Uid} {url : String}
    (found : before.find? EditProfileController self = some edit)
    {fanOut : Except BackendError (List Document) → Code App} {query : Query}
    {callback : Option BackendError → Code App} (fails : ∀ error, callback (some error) = .done)
    (succeeds : callback none = .seq (Code.call (.getDocuments query) fanOut)
      (.seq (Code.modify self fun edit : EditProfileController =>
          { edit with user := { edit.user with profileImage := url } }) <|
        Code.withObject self fun edit : EditProfileController =>
          ProfileController.wantsToUpdate edit.delegate edit.user))
    (confined : ∀ goal answer, (fanOut answer).Preserves SparesUsers goal)
    (settled : Settles Request.succeeded [⟨Request.updateData (.user uid)
        (.ofList [("profileImage", .string url)]), callback⟩] (some before) served (some after)) :
    ImageOutcome edit before after served := by
  obtain ⟨answer, later, rest, rfl⟩ := settled.of_single
  cases answer with
  | some error =>
    simp only [fails, Program.run_done] at rest
    obtain ⟨rfl, same⟩ := rest.of_nil
    obtain rfl := Option.some.inj same
    refine .of_unstored fun other => (stored_cons ?_).not.mpr not_stored_of_nil
    intro _ same
    have impossible := congrArg Served.succeeded same
    cases impossible
  | none =>
    have edited : (before.modify self fun edit : EditProfileController =>
        { edit with user := { edit.user with profileImage := url } }).find? EditProfileController self =
          some { edit with user := { edit.user with profileImage := url } } := by
      simp [App.find?_modify, found]
    simp only [succeeds, Code.call_seq, Program.run_send, Code.modify, Program.update_seq,
      Program.done_seq, Program.run_update, Code.withObject, Program.run_inspect, edited,
      ProfileController.wantsToUpdate, Program.run_done] at rest
    let goal (app : App) : Prop := (app.find? ProfileController edit.delegate).map (·.user) =
      (before.find? ProfileController edit.delegate).map fun _ => { edit.user with profileImage := url }
    have others (change : EditProfileController → EditProfileController) (ref : Ref) :
        (before.modify self change).find? ProfileController ref =
          before.find? ProfileController ref := App.find?_modify_other (fun _ => rfl) ..
    have kept : (∀ state ∈ some after, goal state) ∧ ∀ entry ∈ later, SparesUsers entry.request := by
      refine rest.preserves (fun call member => ?_) ?_
      · obtain rfl := List.mem_singleton.mp member
        exact ⟨fun _ _ => nofun, confined goal⟩
      · rintro _ ⟨⟩
        simp [goal, App.find?_modify, others, Function.comp_def]
    have only (other : String) (stored : ImageStored (⟨Request.updateData (.user uid)
        (.ofList [("profileImage", .string url)]), true⟩ :: later) other) : other = url := by
      obtain ⟨uid, member⟩ := stored
      rcases List.mem_cons.mp member with same | member
      · have fields := (Request.updateData.inj (congrArg Served.request same)).2
        simpa [Dictionary.ofList] using congrFun fields "profileImage"
      · exact (kept.2 _ member uid _ rfl).elim
    refine ⟨fun none => (none url ⟨uid, List.mem_cons_self ..⟩).elim, fun other stored => ?_⟩
    rw [only other stored]
    exact kept.1 after rfl

/-- An upload that hands its URL to such code. -/
private theorem ImageOutcome.of_upload {edit : EditProfileController} {image : UIImage}
    {completion : String → Code App} (uploaded : ∀ url later,
      Settles Request.succeeded ((completion url).run before).calls ((completion url).run before).state
        later (some after) → ImageOutcome edit before after later)
    (settled : Settles Request.succeeded
      ((ImageUploaderService.uploadImage image completion).run before).calls
      ((ImageUploaderService.uploadImage image completion).run before).state served (some after)) :
    ImageOutcome edit before after served := by
  obtain ⟨stopped, stays⟩ | ⟨data, ref, url, later, -, rfl, rest⟩ :=
    ImageUploaderService.settles_uploadImage settled
  · obtain rfl := stays after rfl
    refine .of_unstored fun url => ?_
    rintro ⟨uid, member⟩
    cases stopped <;> simp at member
  · refine (uploaded url later rest).congr fun other => ?_
    rw [stored_cons (fun _ same => by cases congrArg Served.request same),
      stored_cons (fun _ same => by cases congrArg Served.request same)]

/-- The change of the image as a whole. -/
private theorem image_settles {self : Ref} {edit : EditProfileController} {image : UIImage}
    (found : before.find? EditProfileController self = some edit)
    (selected : edit.selectedImage = some image)
    (settled : Settles Request.succeeded
      ((EditProfileController.updateProfileImage self).run before).calls
      ((EditProfileController.updateProfileImage self).run before).state served (some after)) :
    ImageOutcome edit before after served := by
  simp only [EditProfileController.updateProfileImage, Code.withObject, Program.run_inspect, found,
    selected, UserService.updateProfileImage] at settled
  cases signedIn : before.currentUser with
  | none =>
    simp only [Code.run_withCurrentUser_none (show Device.currentUser before = none from signedIn)]
      at settled
    obtain ⟨rfl, same⟩ := settled.of_nil
    obtain rfl := Option.some.inj same
    exact .of_unstored fun _ => not_stored_of_nil
  | some uid =>
    simp only [Code.run_withCurrentUser (show Device.currentUser before = some uid from signedIn)]
      at settled
    split_ifs at settled with reference
    · simp only [Program.post_seq, Program.run_send] at settled
      obtain ⟨rest, settled, inside, split⟩ := settled.drop_post (.refl _)
      have same (url : String) : ImageStored served url ↔ ImageStored rest url := by
        constructor
        · rintro ⟨uid, member⟩
          rcases split _ member with other | member
          · cases other
          · exact ⟨uid, member⟩
        · rintro ⟨uid, member⟩
          exact ⟨uid, inside member⟩
      refine ImageOutcome.congr ?_ same
      refine ImageOutcome.of_upload ?_ settled
      intro url later rest
      rw [Code.run_call] at rest
      refine image_updated found (fun _ => rfl) rfl (fun goal answer => ?_) rest
      cases answer with
      | error => trivial
      | ok documents =>
        exact Program.preserves_forEach fun _ _ => Code.preserves_post fun _ _ => nofun
    · cases settled.of_none.2

/-- The save of a picked image shows a change unless the image was shown already. -/
private theorem image_shows {self : Ref} {edit : EditProfileController}
    (found : before.find? EditProfileController self = some edit) (picked : edit.imageChanged = true)
    (settled : Settles Request.succeeded
      ((EditProfileController.updateProfileImage self).run before).calls
      ((EditProfileController.updateProfileImage self).run before).state served (some after)) :
    (after.find? ProfileController edit.delegate).map (·.user) =
        (before.find? ProfileController edit.delegate).map (·.user) ↔
      ∀ profile, before.find? ProfileController edit.delegate = some profile →
        ∀ url, ImageStored served url → profile.user = { edit.user with profileImage := url } := by
  obtain ⟨image, selected⟩ := Option.isSome_iff_exists.mp picked
  have outcome := image_settles found selected settled
  constructor
  · intro same profile shown url stored
    rw [outcome.shows url stored, shown] at same
    exact (Option.some.inj same).symm
  · intro already
    by_cases none : ∀ url, ¬ ImageStored served url
    · exact outcome.stays none
    · push Not at none
      obtain ⟨url, stored⟩ := none
      rw [outcome.shows url stored]
      cases shown : before.find? ProfileController edit.delegate with
      | none => rfl
      | some profile => rw [Option.map_some, Option.map_some, already profile shown url stored]

/-- The save of a profile, once the field being edited has reported its text. -/
private theorem update_shows {self : Ref} {edit : EditProfileController}
    (found : before.find? EditProfileController self = some edit)
    (settled : Settles Request.succeeded
      ((EditProfileController.updateUserData self).run before).calls
      ((EditProfileController.updateUserData self).run before).state served (some after))
    (failed : ∃ entry ∈ served, loses entry) :
    (after.find? ProfileController edit.delegate).map (·.user) =
        (before.find? ProfileController edit.delegate).map (·.user) ↔
      ∀ profile, before.find? ProfileController edit.delegate = some profile →
        if edit.imageChanged then
          ∀ url, ImageStored served url → profile.user = { edit.user with profileImage := url }
        else profile.user = edit.user := by
  simp only [EditProfileController.updateUserData, Code.withObject, Program.run_inspect, found]
    at settled
  cases info : edit.userInfoChanged with
  | false =>
    cases picked : edit.imageChanged with
    | false =>
      simp only [info, picked, Bool.false_and, Bool.and_false, Bool.false_eq_true, if_false,
        Program.done_seq, Program.run_done] at settled
      exact (not_failed settled failed).elim
    | true =>
      simp only [info, picked, Bool.false_and, Bool.not_false, Bool.and_true, Bool.false_eq_true,
        if_false, if_true, Program.seq_done] at settled
      simp only [if_true]
      exact image_shows found picked settled
  | true =>
    cases signedIn : before.currentUser with
    | none =>
      have signedOut : Device.currentUser before = none := signedIn
      cases picked : edit.imageChanged <;>
        simp only [info, picked, Bool.not_true, Bool.not_false, Bool.and_false, Bool.and_self,
           Bool.false_eq_true, if_false, if_true, Program.done_seq, Program.seq_done,
          UserService.saveUserData, Code.run_withCurrentUser_none signedOut] at settled
      all_goals exact (not_failed settled failed).elim
    | some uid =>
      have signedIn : Device.currentUser before = some uid := signedIn
      cases picked : edit.imageChanged with
      | false =>
        simp only [info, picked, Bool.not_false, Bool.not_true, Bool.and_false, Bool.and_true,
          Bool.false_eq_true, if_false, if_true, Program.done_seq, Program.seq_done,
          UserService.saveUserData, Code.run_withCurrentUser signedIn, Code.run_call]
          at settled ⊢
        obtain ⟨error, later, rest, -⟩ := settled.of_single
        simp only [Program.run_inspect, found, ProfileController.wantsToUpdate, Code.modify,
           Program.run_update, Program.run_done] at rest
        obtain rfl := Option.some.inj rest.of_nil.2
        rw [App.find?_modify]
        cases before.find? ProfileController edit.delegate with
        | none => simp
        | some profile => simp [eq_comm]
      | true =>
        simp only [info, picked, Bool.not_true, Bool.and_false, Bool.and_self, Bool.false_eq_true,
          if_false, if_true, Program.done_seq, UserService.saveUserData,
          Code.run_withCurrentUser signedIn, Code.run_call] at settled ⊢
        obtain ⟨error, later, rest, rfl⟩ := settled.of_single
        rw [image_shows found picked rest]
        refine forall₂_congr fun profile shown => forall_congr' fun url => imp_congr_left
          (stored_cons fun _ same => by cases congrArg Served.request same).symm

/-- The editor after the field being edited has reported its text. -/
private theorem handleDone_edits {self : Ref} (editing : Option (EditProfileOptions × String))
    {edit : EditProfileController} (found : before.find? EditProfileController self = some edit) :
    ∃ middle : App, middle.find? EditProfileController self = some (edit.edited editing) ∧
      (∀ ref, middle.find? ProfileController ref = before.find? ProfileController ref) ∧
      (EditProfileController.handleDone self editing).run before =
        (if (edit.edited editing).imageChanged || (edit.edited editing).userInfoChanged then
          EditProfileController.updateUserData self else .done : Code App).run middle := by
  rcases editing with _ | ⟨option, text⟩
  · refine ⟨before, found, fun _ => rfl, ?_⟩
    simp only [EditProfileController.handleDone, Program.done_seq, Code.withObject,
      Program.run_inspect, found, EditProfileController.edited]
    rfl
  · let change (edit : EditProfileController) := edit.edited (some (option, text))
    have reported : (before.modify self change).find? EditProfileController self =
        some (change edit) := by
      rw [App.find?_modify, found]
      rfl
    refine ⟨before.modify self change, reported, fun ref => App.find?_modify_other (fun _ => rfl) .., ?_⟩
    have report : EditProfileController.updateUserInfo self option text = Code.modify self change := by
      cases option <;> rfl
    simp only [EditProfileController.handleDone, report, Code.modify, Program.update_seq,
      Program.done_seq, Program.run_update, Code.withObject, Program.run_inspect, reported]
    rfl

end FailedActions

open FailedActions in
/-- When a request of an action failed and all its requests have been answered, the screen shows
what it showed before the action just when it already showed what the action sets. -/
theorem screen_unchanged_iff {action : ScreenAction} {before after : App}
    {served : List (Served firebase)}
    (settled : Settles Request.succeeded (action.perform.run before).calls
      (action.perform.run before).state served (some after))
    (failed : ∃ entry ∈ served, action.asks entry.request = true ∧ entry.succeeded = false) :
    action.Unchanged before after ↔ action.AlreadyShown before served := by
  cases action with
  | follow self =>
    obtain ⟨profile, header, found, shown, set⟩ := follow_shows settled failed
    simp only [ScreenAction.Unchanged, ScreenAction.AlreadyShown, set, found, Option.map_some,
      Option.some.injEq]
    constructor
    · rintro same _ other rfl also
      obtain rfl := Option.some.inj (shown.symm.trans also)
      exact same.symm
    · exact fun already => (already profile header rfl shown).symm
  | like cell =>
    obtain ⟨post, found, set⟩ := like_shows settled failed
    refine iff_of_false (fun same => ?_) id
    simp only [ScreenAction.Unchanged, found] at same
    cases now : (after.find? FeedCell cell).bind (·.viewModel) with
    | none => simp [now] at same
    | some shown =>
      simp only [now, Option.map_some, Option.some.injEq, Prod.mk.injEq] at same set
      simp [same.1] at set
  | followRow cell =>
    obtain ⟨notification, found, set⟩ := followRow_shows settled failed
    refine iff_of_false (fun same => ?_) id
    simp only [ScreenAction.Unchanged, found, set] at same
    simp at same
  | comment self =>
    obtain ⟨page, found, set⟩ := comment_shows settled failed
    simp only [ScreenAction.Unchanged, ScreenAction.AlreadyShown, set, found, Option.map_some,
      Option.some.injEq, forall_eq']
    exact eq_comm
  | save self editing =>
    cases found : before.find? EditProfileController self with
    | none => simp [ScreenAction.Unchanged, ScreenAction.AlreadyShown, found]
    | some edit =>
      obtain ⟨middle, edited, same, run⟩ := handleDone_edits editing found
      obtain ⟨delegate, picked⟩ : (edit.edited editing).delegate = edit.delegate ∧
          (edit.edited editing).imageChanged = edit.imageChanged := by
        rcases editing with _ | ⟨_ | _, text⟩ <;> exact ⟨rfl, rfl⟩
      simp only [ScreenAction.perform, run] at settled
      simp only [ScreenAction.Unchanged, ScreenAction.AlreadyShown, found, Option.some.injEq,
        forall_eq']
      split_ifs at settled
      · have outcome := update_shows edited settled failed
        rw [delegate, picked, same] at outcome
        rw [outcome]
        exact ⟨fun all edit' profile same => same ▸ all profile, fun all profile => all edit profile rfl⟩
      · exact (not_failed settled failed).elim

namespace FailedActions

section Examples

/-- A notification row of a follow, shown in a cell. -/
def showingRow : App :=
  let row : Notification := ⟨"n", "v", none, "", none, none, .follow, ⟨0, 0⟩, false⟩
  { currentUser := some "u"
    objects := [⟨.notification ⟨[row]⟩, true⟩, ⟨.notificationCell ⟨some row, 0⟩, true⟩] }

/-- A comment page without a text. -/
def commenting : App where
  currentUser := some "u"
  user := some ⟨"", "", "", "", "u", ⟨0, 0, 0⟩, false⟩
  objects := [⟨.comment { post := ⟨"p", "", "", 0, "u", "", "", ⟨0, 0⟩, false⟩ }, true⟩]

end Examples

end FailedActions

open FailedActions in
/-- A follow from a notification row that fails is shown as done. -/
theorem not_screen_unchanged : ¬ ∀ action before after served,
    Settles Request.succeeded ((ScreenAction.perform action).run before).calls
      ((ScreenAction.perform action).run before).state served (some after) →
    (∃ entry ∈ served, action.asks entry.request = true ∧ entry.succeeded = false) →
    action.Unchanged before after := by
  intro unchanged
  have same := unchanged (.followRow 1) showingRow _ _
    (.one (some .permissionDenied) (.one (some .permissionDenied) (.idle _)))
    ⟨_, List.mem_cons_self .., rfl, rfl⟩
  have shown : some true = some false := same
  cases shown

open FailedActions in
/-- A comment without a text fails, and the screen stays as it was. -/
theorem screen_unchanged_iff_comment : ∃ after served,
    Settles Request.succeeded ((ScreenAction.comment 0).perform.run commenting).calls
      ((ScreenAction.comment 0).perform.run commenting).state served (some after) ∧
    ((ScreenAction.comment 0).Unchanged commenting after ↔
      (ScreenAction.comment 0).AlreadyShown commenting served) ∧
    (ScreenAction.comment 0).AlreadyShown commenting served := by
  obtain ⟨after, served, settled, failed⟩ : ∃ after served,
      Settles Request.succeeded ((ScreenAction.comment 0).perform.run commenting).calls
        ((ScreenAction.comment 0).perform.run commenting).state served (some after) ∧
      ∃ entry ∈ served, (ScreenAction.comment 0).asks entry.request = true ∧
        entry.succeeded = false :=
    ⟨_, _, .one (some BackendError.permissionDenied) (.idle _), _, List.mem_cons_self .., rfl, rfl⟩
  refine ⟨after, served, settled, screen_unchanged_iff settled failed, ?_⟩
  rintro page ⟨⟩
  rfl

end InstagramClone
