import InstagramClone.Async.Pursuit
import InstagramClone.Discipline.Preservation
import InstagramClone.Soundness.WriteOwnership

/-! # Posts name the image of their owner

The image is copied into every post. A change of the image updates the account's record and then
all posts that a query finds; an upload copies the image that the tab controller has cached. A copy
may be stale when it is stored, so the copies agree in the end only if no stale one is stored
unless a change of the image is still to replace it.
-/

namespace InstagramClone

open Async

open PostService (OwnedBy)

open ImageUploaderService (handleLocated handleStored)

/-- The image that the account's record names. -/
def Firestore.profileImage? (store : Firestore) (uid : Uid) : Option Value :=
  (store.lookup (.user uid)).bind fun data => data "profileImage"

/-- The image that the post names as its owner's. -/
def Firestore.ownerProfileImage? (store : Firestore) (post : PostId) : Option Value :=
  (store.lookup (.post post)).bind fun data => data "ownerProfileImage"

/-- All posts of the account name the image that its record names. -/
def ImagesAgree (store : Firestore) (uid : Uid) : Prop :=
  ∀ post, OwnedBy store uid post → store.ownerProfileImage? post = store.profileImage? uid

namespace PostImages

/-- What an image change writes to the account's record, and to each of its posts. -/
def recordFields (url : String) : Dictionary := .ofList [("profileImage", .string url)]

def postFields (url : String) : Dictionary := .ofList [("ownerProfileImage", .string url)]

/-- The request writes this image into the post, as its owner's. -/
def Writes (uid : Uid) (post : PostId) (image : Option Value) : Request → Prop
  | .updateData (.post id) fields => id = post ∧ image ≠ none ∧ fields "ownerProfileImage" = image
  | .addDocument .posts data => (data post) "ownerUid" = some (.string uid) ∧
      (data post) "ownerProfileImage" = image
  | _ => False

/-- The answer is none of a failure, unless a deleted object was gone already. -/
def fine : (request : Request) → request.Response → Bool
  | .deleteObject _, _ => true
  | request, answer => request.succeeded answer

/-- The answer is fine, and lists the post when it should. -/
def Lists (uid : Uid) (post : PostId) : (request : Request) → request.Response → Prop
  | .getDocuments query, answer => ∃ documents, answer = .ok documents ∧
      (query = PostService.ownedBy uid → post ∈ documents.map Document.documentID)
  | request, answer => fine request answer = true

/-- The request names a new image in the account's record. -/
def Renames (uid : Uid) (request : Request) : Prop :=
  ∃ url, request = .updateData (.user uid) (recordFields url)

/-- The request copies this image into the post. -/
def Repaints (post : PostId) (image : Option Value) (request : Request) : Prop :=
  ∃ url, image = some (.string url) ∧ request = .updateData (.post post) (postFields url)

/-- An edit page of the account with a picked image that can be encoded. -/
def Editing (uid : Uid) (app : App) (self : Ref) : Prop :=
  ∃ edit image, app.find? EditProfileController self = some edit ∧ edit.user.uid = uid ∧
    edit.selectedImage = some image ∧ image.jpegData.isSome = true

/-- The session stays signed in, and its edit pages keep having an image. -/
def motion (uid : Uid) : Motion App where
  moves before after := after.currentUser = before.currentUser ∧
    ∀ self, Editing uid before self → Editing uid after self
  refl _ := ⟨rfl, fun _ editing => editing⟩
  trans left right := ⟨right.1.trans left.1, fun self editing => right.2 self (left.2 self editing)⟩

/-- An image change under way is still to update the account's record, or to copy the image that
the record names into this post. -/
def Covered (uid : Uid) (net : Network cloud App Unit Unit) (post : PostId) : Prop :=
  net.Heads (motion uid) (fun request answer => fine request answer = true) (Renames uid) id ∨
    net.Heads (motion uid) (Lists uid post)
      (Repaints post (net.store.firestore.profileImage? uid)) id

/-- What a session does to change its image and to upload posts, with images that can be encoded. -/
def concerns (app : App) : UserAction → Bool
  | .tabsViewDidLoad | .profileViewForHeader _ | .profileOnTapEditProfile _
  | .editUpdateUserInfo .. | .uploadEditCaption .. | .uploadOnTapShare _ => true
  | .tabsDidFinishPicking image | .editDidFinishPicking _ image => image.jpegData.isSome
  | .editHandleDone self _ => (app.find? EditProfileController self).any fun edit =>
      edit.selectedImage.any fun image => image.jpegData.isSome
  | _ => false

/-- The event is one of the session's, or the answer of a request that does not fail. -/
def flawless (net : Network cloud App Unit Unit) : Event cloud Unit UserAction → Bool
  | .act _ action => (net.clients ()).any fun app => concerns app action
  | .signal (.serve index choice) => net.flight[index]?.all fun pending =>
      (cloud.serve choice net.store pending.call.request).all fun result =>
        fine pending.call.request result.2
  | .signal (.deliver _) => true
  | .signal (.notify ..) => false

/-- One event without a failure, which leaves the app running. -/
def step? (net : Network cloud App Unit Unit) (event : Event cloud Unit UserAction) :
    Option (Network cloud App Unit Unit) :=
  if flawless net event then
    (net.event? UserAction.perform event).filter fun next => (next.clients ()).isSome
  else none

/-- A request that writes an image into a post writes the one that the account's record names, or
an image change under way is still to replace it. -/
def Timely (uid : Uid) (net : Network cloud App Unit Unit) : Event cloud Unit UserAction → Prop
  | .signal (.serve index _) => ∀ pending ∈ net.flight[index]?, ∀ post image,
      Writes uid post image pending.call.request →
      image = net.store.firestore.profileImage? uid ∨ Covered uid net post
  | _ => True

section Motion

variable {uid : Uid} {app : App} {self : Ref}

private theorem Editing.modify {α : Type} [Instance α]
    (apart : ∀ value : α,
      (Instance.project (Instance.inject value) : Option EditProfileController) = none)
    (ref : Ref) (change : α → α) (editing : Editing uid app self) :
    Editing uid (app.modify ref change) self := by
  obtain ⟨edit, image, found, rest⟩ := editing
  exact ⟨edit, image, (App.find?_modify_other apart ..).trans found, rest⟩

private theorem Editing.edit {ref : Ref} {change : EditProfileController → EditProfileController}
    (editing : Editing uid app self) (same : ∀ edit, (change edit).user.uid = edit.user.uid)
    (picked : ∀ edit image, edit.selectedImage = some image → image.jpegData.isSome = true →
      ∃ image, (change edit).selectedImage = some image ∧ image.jpegData.isSome = true) :
    Editing uid (app.modify ref change) self := by
  obtain ⟨edit, image, found, mine, selected, encoded⟩ := editing
  by_cases here : ref = self
  · subst here
    obtain ⟨image, selected, encoded⟩ := picked edit image selected encoded
    exact ⟨change edit, image, by rw [App.find?_modify, found]; rfl, (same edit).trans mine, selected,
      encoded⟩
  · refine ⟨edit, image, ?_, mine, selected, encoded⟩
    rw [← found]
    simp [App.find?, App.modify, here]

private theorem Editing.add (editing : Editing uid app self) (object : Object) (inTab : Bool) :
    Editing uid (app.add object inTab) self := by
  obtain ⟨edit, image, found, rest⟩ := editing
  exact ⟨edit, image, App.find?_add found object inTab, rest⟩

private theorem Editing.setUser (editing : Editing uid app self) (user : User) :
    Editing uid (MainTabController.setUser user app) self := by
  obtain ⟨edit, image, found, rest⟩ := editing
  obtain ⟨entry, present, projected⟩ := Option.bind_eq_some_iff.mp found
  have bound := (List.getElem?_eq_some_iff.mp present).1
  refine ⟨edit, image, ?_, rest⟩
  simp only [App.find?, MainTabController.setUser, MainTabController.configureViewControllers]
  rw [List.getElem?_append_left (by simpa using bound)]
  simp [present, projected]

end Motion

section Rule

/-- Requests that neither write an account's record nor change more of a post than its copy of the
image. -/
def Harmless : Request → Prop
  | .updateData (.post _) fields => ∃ url, fields = postFields url
  | .setData reference _ | .delete reference => reference.parent ≠ .users ∧ reference.parent ≠ .posts
  | .addDocument collection _ => collection ≠ .users
  | .updateData .. => False
  | _ => True

/-- A request that writes the account's record has an image change behind it: one that is still to
name a new image there, or to copy the one it names into all posts. -/
def Rule (uid : Uid) (start : App) (call : Call firebase App) : Prop :=
  Harmless call.request ∨
    (∃ data, call.request = .setData (.user uid) data ∧ ∀ answer,
      (⟨(), call, some answer⟩ : Pending firebase App Unit).LeadsTo (motion uid)
        (fun request answer => fine request answer = true) (Renames uid) start) ∨
    ∃ url, call.request = .updateData (.user uid) (recordFields url) ∧ ∀ answer,
      fine call.request answer = true → ∀ post,
        (⟨(), call, some answer⟩ : Pending firebase App Unit).LeadsTo (motion uid) (Lists uid post)
          (Repaints post (some (.string url))) start

variable {uid : Uid} {start later app : App} {self : Ref}

private theorem Rule.mono {call : Call firebase App} (moved : (motion uid).moves start later)
    (rule : Rule uid start call) : Rule uid later call := by
  rcases rule with harmless | ⟨data, same, leads⟩ | ⟨url, same, leads⟩
  · exact .inl harmless
  · exact .inr (.inl ⟨data, same, fun answer => (leads answer).mono moved⟩)
  · exact .inr (.inr ⟨url, same, fun answer well post => (leads answer well post).mono moved⟩)

private theorem harmless_reads (request : Request) (reads : request.writes = false) :
    Harmless request := by
  cases request with
  | setData | updateData | delete | addDocument => cases reads
  | _ => trivial

private theorem moves_add (base : App) (app : App) (object : Object) (inTab : Bool)
    (moved : (motion uid).moves base app) : (motion uid).moves base (app.add object inTab) :=
  ⟨moved.1, fun self editing => (moved.2 self editing).add object inTab⟩

private theorem moves_modify {α : Type} [Instance α]
    (apart : ∀ value : α,
      (Instance.project (Instance.inject value) : Option EditProfileController) = none)
    (base : App) (app : App) (ref : Ref) (change : α → α)
    (moved : (motion uid).moves base app) : (motion uid).moves base (app.modify ref change) :=
  ⟨moved.1, fun self editing => (moved.2 self editing).modify apart ref change⟩

private theorem moves_edit (base : App) (app : App) (ref : Ref)
    {change : EditProfileController → EditProfileController}
    (same : ∀ edit, (change edit).user.uid = edit.user.uid)
    (picked : ∀ edit image, edit.selectedImage = some image → image.jpegData.isSome = true →
      ∃ image, (change edit).selectedImage = some image ∧ image.jpegData.isSome = true)
    (moved : (motion uid).moves base app) : (motion uid).moves base (app.modify ref change) :=
  ⟨moved.1, fun self editing => (moved.2 self editing).edit same picked⟩

/-- Code that only asks for harmless requests, and moves the session on, abides by the rule. -/
private theorem abides_of_preserves {code : Code App}
    (preserves : ∀ base, code.Preserves Harmless ((motion uid).moves base)) :
    (∀ next ∈ (code.run app).state, (motion uid).moves app next) ∧
      ∀ call ∈ (code.run app).calls, call.Abides (motion uid) (Rule uid) start :=
  ⟨fun _ ran => (preserves app).moves ran,
    Program.Preserves.abides (fun _ harmless => .inl harmless) preserves app⟩

end Rule

section Change

variable {uid : Uid} {start app : App} {self : Ref} {user : User} {url : String}

/-- The handler of the look-up of an account's posts. -/
def repaint (url : String) : Except BackendError (List Document) → Code App
  | .ok documents => .forEach documents fun document =>
      .post (.updateData (.post document.documentID) (postFields url))
  | .error _ => .done

/-- The new image is shown on the edit page and on the profile page behind it. -/
def showImage (self : Ref) (url : String) : Code App :=
  .seq (Code.modify self fun edit : EditProfileController =>
    { edit with user := { edit.user with profileImage := url } }) <|
  Code.withObject self fun edit : EditProfileController =>
    ProfileController.wantsToUpdate edit.delegate edit.user

/-- The handler of the update of the account's record. -/
def renamed (self : Ref) (user : User) (url : String) : Option BackendError → Code App
  | some _ => .done
  | none => .seq (Code.call (.getDocuments (PostService.ownedBy user.uid)) (repaint url))
      (showImage self url)

/-- An image change deletes the old image, which traps on a URL outside the bucket, and uploads the
new one. -/
private theorem run_updateProfileImage (signedIn : app.currentUser = some uid)
    {edit : EditProfileController} {image : UIImage} {data : Bytes}
    (found : app.find? EditProfileController self = some edit)
    (selected : edit.selectedImage = some image) (encoded : image.jpegData = some data) :
    (EditProfileController.updateProfileImage self).run app =
      if isStorageURL edit.user.profileImage then
        ⟨some app, [⟨.deleteObject edit.user.profileImage, fun _ => .done⟩,
          ⟨.putData data, handleStored fun url =>
            Code.call (.updateData (.user uid) (recordFields url)) (renamed self edit.user url)⟩], []⟩
      else ⟨none, [], []⟩ := by
  simp only [EditProfileController.updateProfileImage, Code.withObject, Program.run_inspect, found,
    selected, UserService.updateProfileImage, ImageUploaderService.uploadImage_of_encoded encoded,
    Code.run_withCurrentUser (show Device.currentUser app = some uid from signedIn)]
  split_ifs
  · simp only [Program.post_seq, Program.run_send, Code.run_call]
    refine congrArg (fun completion => (⟨some app, [⟨.deleteObject edit.user.profileImage,
      fun _ => .done⟩, ⟨.putData data, handleStored completion⟩], []⟩ : Effect firebase App))
      (funext fun url => ?_)
    refine congrArg (Code.call _) (funext fun error => ?_)
    cases error with
    | some error => rfl
    | none =>
      refine congrArg (Program.seq · _) (congrArg (Code.call _) (funext fun answer => ?_))
      cases answer <;> rfl
  · rfl

/-- The look-up leads to the rewriting of every post that it lists. -/
private theorem repaint_leads (post : PostId) :
    (⟨.getDocuments (PostService.ownedBy uid), repaint url⟩ : Call firebase App).LeadsTo (motion uid)
      (Lists uid post) (Repaints post (some (.string url))) start := by
  refine .after fun answer app well _ _ => ?_
  obtain ⟨documents, rfl, listed⟩ := well
  obtain ⟨document, member, rfl⟩ := List.mem_map.mp (listed rfl)
  dsimp only [repaint]
  rw [Program.run_forEach_post]
  exact ⟨_, List.mem_map_of_mem member, .aimed ⟨url, rfl, rfl⟩⟩

private theorem preserves_renamed (base : App) (error : Option BackendError) :
    (renamed self user url error).Preserves Harmless ((motion uid).moves base) := by
  cases error with
  | some error => trivial
  | none =>
    refine Program.Preserves.seq (Code.preserves_call trivial fun answer => ?_) ?_
    · cases answer with
      | error => trivial
      | ok documents =>
        exact Program.preserves_forEach fun _ _ => Code.preserves_post ⟨url, rfl⟩
    · refine Program.Preserves.seq (Code.preserves_modify fun app => ?_) ?_
      · exact moves_edit base app self (fun _ => rfl) fun _ image selected encoded =>
          ⟨image, selected, encoded⟩
      · exact Code.preserves_withObject fun edit =>
          Code.preserves_modify fun app => moves_modify (fun _ => rfl) base app edit.delegate _

/-- The update of the record has the look-up behind it. -/
private theorem update_abides (mine : user.uid = uid) :
    (⟨.updateData (.user uid) (recordFields url), renamed self user url⟩ : Call firebase App).Abides
      (motion uid) (Rule uid) start := by
  have follows (answer : Option BackendError) (app : App) :
      (∀ next ∈ ((renamed self user url answer).run app).state, (motion uid).moves app next) ∧
        ∀ call ∈ ((renamed self user url answer).run app).calls,
          call.Abides (motion uid) (Rule uid) start :=
    abides_of_preserves fun base => preserves_renamed base answer
  refine .intro (.inr (.inr ⟨url, rfl, fun answer well post => ?_⟩)) ?_ ?_
  · obtain rfl : answer = none := Option.isNone_iff_eq_none.mp well
    intro app _ _
    subst mine
    exact ⟨_, List.mem_cons_self .., repaint_leads post⟩
  · exact fun answer app _ => (follows answer app).1
  · exact fun answer app _ => (follows answer app).2

private theorem locate_abides (mine : user.uid = uid) (object : String) :
    (⟨.downloadURL object, handleLocated fun url =>
      Code.call (.updateData (.user uid) (recordFields url)) (renamed self user url)⟩ :
        Call firebase App).Abides (motion uid) (Rule uid) start ∧
    (⟨.downloadURL object, handleLocated fun url =>
      Code.call (.updateData (.user uid) (recordFields url)) (renamed self user url)⟩ :
        Call firebase App).LeadsTo (motion uid) (fun request answer => fine request answer = true)
          (Renames uid) start := by
  constructor
  · refine .intro (.inl trivial) ?_ ?_
    · rintro (_ | url) app _ next ⟨⟩
      · exact (motion uid).refl _
      · exact (motion uid).refl _
    · rintro (_ | url) app _ new issued
      · cases issued
      · obtain rfl := List.mem_singleton.mp issued
        exact update_abides mine
  · refine .after fun answer app well _ _ => ?_
    cases answer with
    | error => cases well
    | ok url => exact ⟨_, List.mem_cons_self .., .aimed ⟨url, rfl⟩⟩

private theorem store_abides (mine : user.uid = uid) (data : Bytes) :
    (⟨.putData data, handleStored fun url =>
      Code.call (.updateData (.user uid) (recordFields url)) (renamed self user url)⟩ :
        Call firebase App).Abides (motion uid) (Rule uid) start ∧
    (⟨.putData data, handleStored fun url =>
      Code.call (.updateData (.user uid) (recordFields url)) (renamed self user url)⟩ :
        Call firebase App).LeadsTo (motion uid) (fun request answer => fine request answer = true)
          (Renames uid) start := by
  constructor
  · refine .intro (.inl trivial) (fun upload app _ next ran => ?_) fun upload app _ new issued => ?_
    · dsimp only at ran
      rcases ImageUploaderService.handleStored_cases _ upload with
        ⟨-, same⟩ | ⟨-, ⟨-, same⟩ | ⟨ref, -, same⟩⟩
      · rw [same] at ran
        cases ran
      · rw [same] at ran
        exact Option.some.inj ran ▸ (motion uid).refl _
      · rw [same] at ran
        exact Option.some.inj ran ▸ (motion uid).refl _
    · dsimp only at issued
      rcases ImageUploaderService.handleStored_cases _ upload with
        ⟨-, same⟩ | ⟨-, ⟨-, same⟩ | ⟨ref, -, same⟩⟩
      · rw [same] at issued
        cases issued
      · rw [same] at issued
        cases issued
      · rw [same] at issued
        obtain rfl := List.mem_singleton.mp issued
        exact (locate_abides mine ref).1
  · refine .after fun upload app well _ _ => ?_
    obtain ⟨steady, ok⟩ := Bool.and_eq_true_iff.mp well
    cases stored : upload.result with
    | error => simp [stored, Except.isOk, Except.toBool] at ok
    | ok ref =>
      dsimp only
      rw [ImageUploaderService.handleStored_ok steady stored]
      exact ⟨_, List.mem_cons_self .., (locate_abides mine ref).2⟩

/-- What code does that is part of an image change: it moves the session on, what it issues abides
by the rule, and unless it traps it leads to a new image in the record. -/
structure Changes (uid : Uid) (start app : App) (code : Code App) : Prop where
  moves : ∀ next ∈ (code.run app).state, (motion uid).moves app next
  abides : ∀ call ∈ (code.run app).calls, call.Abides (motion uid) (Rule uid) start
  leads : (code.run app).state.isSome = true → ∃ call ∈ (code.run app).calls,
    call.LeadsTo (motion uid) (fun request answer => fine request answer = true) (Renames uid) start

private theorem changes_updateProfileImage (signedIn : app.currentUser = some uid)
    (editing : Editing uid app self) :
    Changes uid start app (EditProfileController.updateProfileImage self) := by
  obtain ⟨edit, image, found, mine, selected, encodes⟩ := editing
  obtain ⟨data, encoded⟩ := Option.isSome_iff_exists.mp encodes
  have ran := run_updateProfileImage signedIn found selected encoded
  have deleting : (⟨.deleteObject edit.user.profileImage, fun _ => .done⟩ : Call firebase App).Abides
      (motion uid) (Rule uid) start :=
    .intro (.inl trivial) (fun _ _ _ _ same => Option.some.inj same ▸ (motion uid).refl _) (by simp)
  split_ifs at ran
  · constructor
    · rw [ran]
      rintro next ⟨⟩
      exact (motion uid).refl app
    · rw [ran]
      simpa using ⟨deleting, (store_abides mine data).1⟩
    · rw [ran]
      exact fun _ => ⟨_, List.mem_cons_of_mem _ (List.mem_cons_self ..), (store_abides mine data).2⟩
  · constructor <;> simp [ran]

/-- A change of the record's text with a change of the image behind it. -/
private theorem changes_saveUserData (user : User) (signedIn : app.currentUser = some uid)
    (began : (motion uid).moves start app) (editing : Editing uid start self) :
    Changes uid start app
      (UserService.saveUserData user fun _ => EditProfileController.updateProfileImage self) := by
  have follows {later : App} (moved : (motion uid).moves start later) :
      Changes uid start later (EditProfileController.updateProfileImage self) :=
    changes_updateProfileImage (moved.1.trans (began.1.symm.trans signedIn)) (moved.2 self editing)
  have ran : (UserService.saveUserData user fun _ =>
      EditProfileController.updateProfileImage self).run app = ⟨some app, [⟨.setData (.user uid)
        (UserService.data user.email user.fullname user.profileImage uid user.username), fun _ =>
          EditProfileController.updateProfileImage self⟩], []⟩ := by
    rw [UserService.saveUserData,
      Code.run_withCurrentUser (show Device.currentUser app = some uid from signedIn)]
    rfl
  constructor
  · rw [ran]
    rintro next ⟨⟩
    exact (motion uid).refl app
  · rw [ran]
    rintro call issued
    obtain rfl := List.mem_singleton.mp issued
    refine .intro (.inr (.inl ⟨_, rfl, fun answer later moved running => ?_⟩)) ?_ ?_
    · exact (follows moved).leads running
    · exact fun answer later moved => (follows moved).moves
    · exact fun answer later moved => (follows moved).abides
  · rw [ran]
    refine fun _ => ⟨_, List.mem_cons_self .., .after fun answer later _ moved running => ?_⟩
    exact (follows moved).leads running

end Change

section Actions

variable {uid : Uid} {app : App} {self : Ref}

/-- Reporting the field being edited. -/
def report (self : Ref) : Option (EditProfileOptions × String) → Code App
  | none => .done
  | some (option, text) => EditProfileController.updateUserInfo self option text

private theorem preserves_report (editing : Option (EditProfileOptions × String)) (base : App) :
    (report self editing).Preserves Harmless ((motion uid).moves base) := by
  rcases editing with _ | ⟨option, text⟩
  · trivial
  · refine Code.preserves_modify fun app => moves_edit base app self (fun edit => ?_) ?_
    · cases option <;> rfl
    · exact fun _ image selected encoded => ⟨image, selected, encoded⟩

/-- Done on a page with a picked image starts an image change. -/
private theorem handleDone_run (picked : Editing uid app self)
    (editing : Option (EditProfileOptions × String)) :
    ∃ edited, (motion uid).moves app edited ∧
      ((EditProfileController.handleDone self editing).run app =
          (EditProfileController.updateProfileImage self).run edited ∨
        ∃ user, (EditProfileController.handleDone self editing).run app =
          (UserService.saveUserData user fun _ =>
            EditProfileController.updateProfileImage self).run edited) := by
  obtain ⟨edited, moved, ran⟩ : ∃ edited, (motion uid).moves app edited ∧
      (EditProfileController.handleDone self editing).run app =
        (Code.withObject self fun edit : EditProfileController =>
          if edit.imageChanged || edit.userInfoChanged then
            EditProfileController.updateUserData self else .done).run edited := by
    rcases editing with _ | ⟨option, text⟩
    · exact ⟨app, (motion uid).refl app, rfl⟩
    · have keeps : (report self (some (option, text))).Preserves Harmless ((motion uid).moves app) :=
        preserves_report (some (option, text)) app
      have moved := keeps.run ((motion uid).refl app)
      exact ⟨_, moved.1 _ rfl, rfl⟩
  obtain ⟨edit, image, found, -, selected, -⟩ := moved.2 self picked
  have changed : edit.imageChanged = true := by simp [EditProfileController.imageChanged, selected]
  refine ⟨edited, moved, ?_⟩
  rw [ran]
  simp only [Code.withObject, Program.run_inspect, found, changed, Bool.true_or, if_true,
    EditProfileController.updateUserData]
  cases edit.userInfoChanged with
  | false => exact .inl (by simp)
  | true => exact .inr ⟨edit.user, by simp⟩

/-- What the session does moves it on, and issues only calls that abide by the rule. -/
private theorem perform_abides (signedIn : app.currentUser = some uid)
    (mine : ∀ self edit, app.find? EditProfileController self = some edit → edit.user.uid = uid)
    {action : UserAction} (concerned : concerns app action = true) :
    (∀ next ∈ (action.perform.run app).state, (motion uid).moves app next) ∧
      ∀ call ∈ (action.perform.run app).calls, call.Abides (motion uid) (Rule uid) app := by
  have profiles (base app : App) (ref : Ref) (change : ProfileController → ProfileController)
      (moved : (motion uid).moves base app) : (motion uid).moves base (app.modify ref change) :=
    moves_modify (fun _ => rfl) base app ref change moved
  have feeds (base app : App) (ref : Ref) (change : FeedController → FeedController)
      (moved : (motion uid).moves base app) : (motion uid).moves base (app.modify ref change) :=
    moves_modify (fun _ => rfl) base app ref change moved
  have lists (base app : App) (ref : Ref) (change : List Post → List Post)
      (moved : (motion uid).moves base app) : (motion uid).moves base (app.modify ref change) :=
    moves_modify (fun _ => rfl) base app ref change moved
  cases action with
  | tabsViewDidLoad =>
    exact abides_of_preserves fun base => MainTabController.preserves_viewDidLoad harmless_reads
      (fun app user moved => ⟨moved.1, fun self editing => (moved.2 self editing).setUser user⟩)
      (fun app object inTab _ => moves_add base app object inTab)
  | tabsDidFinishPicking image =>
    exact abides_of_preserves fun base state =>
      Code.preserves_alloc (fun app => moves_add base app _ _) fun _ => trivial
  | profileViewForHeader self =>
    exact abides_of_preserves fun base => Code.preserves_modify fun app => profiles base app self _
  | profileOnTapEditProfile self =>
    exact abides_of_preserves fun base => ProfileController.preserves_onTapEditProfile harmless_reads
      (fun _ _ present => by cases present <;> exact ⟨⟨nofun, nofun⟩, nofun, nofun⟩)
      (fun _ _ present => by cases present <;> exact ⟨nofun, nofun⟩) (fun _ _ => nofun)
      (profiles base) (fun app object inTab _ => moves_add base app object inTab)
  | editUpdateUserInfo self option text =>
    exact abides_of_preserves fun base => preserves_report (some (option, text)) base
  | uploadEditCaption self caption =>
    exact abides_of_preserves fun base => Code.preserves_modify fun app =>
      moves_modify (fun _ => rfl) base app self _
  | uploadOnTapShare self =>
    exact abides_of_preserves fun base => UploadPostController.preserves_onTapShare harmless_reads
      (fun _ => nofun) (feeds base) (lists base) (fun app object inTab _ =>
        moves_add base app object inTab)
  | editDidFinishPicking self image =>
    exact abides_of_preserves fun base => Code.preserves_modify fun app =>
      moves_edit base app self (fun _ => rfl) fun _ _ _ _ => ⟨image, rfl, concerned⟩
  | editHandleDone self editing =>
    have picked : Editing uid app self := by
      simp only [concerns, Option.any_eq_true] at concerned
      obtain ⟨edit, found, image, selected, encodes⟩ := concerned
      exact ⟨edit, image, found, mine self edit found, selected, encodes⟩
    obtain ⟨edited, moved, ran⟩ := handleDone_run picked editing
    have signedIn : edited.currentUser = some uid := moved.1.trans signedIn
    have started {code : Code App} (changes : Changes uid app edited code)
        (same : (UserAction.editHandleDone self editing).perform.run app = code.run edited) :
        (∀ next ∈ ((UserAction.editHandleDone self editing).perform.run app).state,
          (motion uid).moves app next) ∧
        ∀ call ∈ ((UserAction.editHandleDone self editing).perform.run app).calls,
          call.Abides (motion uid) (Rule uid) app := by
      rw [same]
      exact ⟨fun next ended => (motion uid).trans moved (changes.moves next ended), changes.abides⟩
    rcases ran with ran | ⟨user, ran⟩
    · exact started (changes_updateProfileImage signedIn (moved.2 self picked)) ran
    · exact started (changes_saveUserData user signedIn moved picked) ran
  | _ => cases concerned

end Actions

section Serve

variable {uid : Uid} {store next : Cloud} {request : Request} {answer : request.Response}
  {fresh : String} {post : PostId}

/-- A request that is answered without a failure was applied, and lists what it should. -/
private theorem served_fine (uid : Uid) {choice : Choice}
    (served : cloud.serve choice store request = some (next, answer))
    (well : fine request answer = true) :
    (∃ fresh, next.firestore = request.apply fresh store.firestore ∧
      request.Draws fresh store.firestore) ∧
    ∀ post, OwnedBy next.firestore uid post → Lists uid post request answer := by
  rcases serve_cases served with ⟨rfl, error, transfer, rfl⟩ | ⟨order, fresh, transfer, resolved⟩
  · cases request with
    | deleteObject object => exact ⟨⟨"", rfl, trivial⟩, fun _ _ => well⟩
    | putData data => simp [fine, Request.failed, Request.succeeded, Except.isOk, Except.toBool] at well
    | _ => cases well
  · refine ⟨⟨fresh, Request.resolve_firestore resolved⟩, fun post owned => ?_⟩
    cases request with
    | getDocuments query =>
      obtain ⟨documents, rfl, members⟩ := Request.resolve_answers resolved
      refine ⟨documents, rfl, ?_⟩
      rintro rfl
      exact (PostService.mem_answer_ownedBy (Request.resolve_answers resolved) post).mpr owned
    | _ => exact well

private theorem Harmless.not_touches_user (harmless : Harmless request) (uid : Uid) :
    ¬ request.Touches (.user uid) := by
  cases request with
  | setData reference data =>
    rintro rfl
    exact harmless.1 rfl
  | delete reference =>
    rintro rfl
    exact harmless.1 rfl
  | updateData reference fields =>
    rintro rfl
    exact harmless
  | addDocument collection data =>
    rintro rfl
    exact harmless rfl
  | _ => exact id

/-- A harmless request leaves the image that the record names. -/
private theorem Harmless.profileImage? (harmless : Harmless request) :
    (request.apply fresh store.firestore).profileImage? uid = store.firestore.profileImage? uid := by
  rw [Firestore.profileImage?, Request.lookup_apply (harmless.not_touches_user uid)]
  rfl

/-- A harmless request leaves a post of the account as it is, or writes an image into it. -/
private theorem Harmless.post_cases (harmless : Harmless request)
    (owned : OwnedBy (request.apply fresh store.firestore) uid post) :
    (OwnedBy store.firestore uid post ∧ (request.apply fresh store.firestore).ownerProfileImage? post =
      store.firestore.ownerProfileImage? post) ∨
    Writes uid post ((request.apply fresh store.firestore).ownerProfileImage? post) request := by
  by_cases same : (request.apply fresh store.firestore).lookup (.post post) =
      store.firestore.lookup (.post post)
  · left
    exact ⟨by rwa [OwnedBy, same] at owned, by rw [Firestore.ownerProfileImage?, same]; rfl⟩
  right
  have touched : request.Touches (.post post) := by
    by_contra apart
    exact same (Request.lookup_apply apart)
  cases request with
  | setData reference data =>
    obtain rfl : reference = .post post := touched
    exact (harmless.2 rfl).elim
  | delete reference =>
    obtain rfl : reference = .post post := touched
    exact (harmless.2 rfl).elim
  | updateData reference fields =>
    obtain rfl : reference = .post post := touched
    obtain ⟨url, rfl⟩ := harmless
    cases found : store.firestore.lookup (.post post) with
    | none => simp [OwnedBy, Request.apply, found] at owned
    | some data =>
      have named : ((Request.updateData (.post post) (postFields url)).apply fresh
          store.firestore).ownerProfileImage? post = some (.string url) := by
        simp [Firestore.ownerProfileImage?, Request.apply, found, postFields,
          Dictionary.updating_self]
      rw [named]
      exact ⟨rfl, by rintro ⟨⟩, by simp [postFields, Dictionary.ofList]⟩
  | addDocument collection data =>
    obtain rfl : collection = .posts := touched
    by_cases new : post = fresh
    · subst new
      simp only [OwnedBy, Request.apply, CollectionReference.document, Firestore.lookup_set, if_true,
        Option.bind_some] at owned
      refine ⟨owned, ?_⟩
      simp [Firestore.ownerProfileImage?, Request.apply, CollectionReference.document]
    · exact (same (by simp [Request.apply, CollectionReference.document, new])).elim
  | _ => exact touched.elim

/-- A post into which the current image is written names it. -/
private theorem agrees_of_repaints
    (aimed : Repaints post (store.firestore.profileImage? uid) request)
    (owned : OwnedBy (request.apply fresh store.firestore) uid post) :
    (request.apply fresh store.firestore).ownerProfileImage? post =
      store.firestore.profileImage? uid := by
  obtain ⟨url, named, rfl⟩ := aimed
  rw [named]
  cases found : store.firestore.lookup (.post post) with
  | none => simp [OwnedBy, Request.apply, found] at owned
  | some data =>
    simp [Firestore.ownerProfileImage?, Request.apply, found, postFields, Dictionary.updating_self]

end Serve

section Steps

variable {uid : Uid} {net next : Network cloud App Unit Unit}

/-- The session runs as it may, and every post of the account names the image of the record or has
an image change under way for it. -/
structure Steady (uid : Uid) (net : Network cloud App Unit Unit) : Prop where
  sound : net.Sound (WriteOwnership.contract fun _ : Unit => uid) id
  running : ∃ app, net.clients () = some app ∧ app.currentUser = some uid
  registered : .user uid ∈ net.store.firestore
  abiding : net.Abiding (motion uid) (Rule uid) id
  covered : ∀ post, OwnedBy net.store.firestore uid post →
    net.store.firestore.ownerProfileImage? post = net.store.firestore.profileImage? uid ∨
      Covered uid net post

/-- Once nothing is in flight, all posts name the image of the record. -/
private theorem Steady.agree (steady : Steady uid net) (idle : net.flight = []) :
    ImagesAgree net.store.firestore uid := by
  intro post owned
  rcases steady.covered post owned with agree | ⟨pending, member, -⟩ | ⟨pending, member, -⟩
  · exact agree
  · simp [idle] at member
  · simp [idle] at member

private theorem running_of_moves (steady : Steady uid net) (alive : (next.clients ()).isSome = true)
    (moved : ∀ client after, next.clients client = some after →
      ∃ before, net.clients client = some before ∧ (motion uid).moves before after) :
    ∃ app, next.clients () = some app ∧ app.currentUser = some uid := by
  obtain ⟨after, now⟩ := Option.isSome_iff_exists.mp alive
  obtain ⟨before, known, moves⟩ := moved () after now
  obtain ⟨app, running, signedIn⟩ := steady.running
  obtain rfl := Option.some.inj (running.symm.trans known)
  exact ⟨after, now, moves.1.trans signedIn⟩

private theorem Steady.act (steady : Steady uid net) {action : UserAction}
    (concerned : (net.clients ()).any (fun app => concerns app action) = true)
    (taken : net.event? UserAction.perform (.act () action) = some next)
    (alive : (next.clients ()).isSome = true) : Steady uid next := by
  have sound := (WriteOwnership.sound_event steady.sound taken).1
  obtain rfl := Option.some.inj taken
  obtain ⟨app, running, signedIn⟩ := steady.running
  rw [running, Option.any_some] at concerned
  have governed : (WriteOwnership.policy uid).Governs net.store app :=
    steady.sound.clients () app running
  have mine (self : Ref) (edit : EditProfileController)
      (found : app.find? EditProfileController self = some edit) : edit.user.uid = uid := by
    obtain ⟨entry, present, projected⟩ := Option.bind_eq_some_iff.mp found
    have known := governed.objects entry (List.mem_of_getElem? present)
    rw [← Instance.inject_project projected] at known
    exact known.2
  obtain ⟨moves, abides⟩ := perform_abides signedIn mine concerned
  have moving : ∀ state ∈ net.clients (id ()), ∀ after ∈ (action.perform.run state).state,
      (motion uid).moves state after := by
    rintro state known after ran
    obtain rfl := Option.some.inj (running.symm.trans known)
    exact moves after ran
  refine ⟨sound, running_of_moves steady alive fun client after now =>
    Network.launch_moves net moving now, by simpa using steady.registered, ?_, ?_⟩
  · refine steady.abiding.launch Rule.mono moving fun state known call issued => ?_
    obtain rfl := Option.some.inj (running.symm.trans known)
    exact abides call issued
  · intro post owned
    simp only [Network.launch_store, Covered] at owned ⊢
    refine (steady.covered post owned).imp_right fun covers => ?_
    exact covers.imp (·.launch moving) (·.launch moving)

private theorem Steady.deliver (steady : Steady uid net) {index : ℕ}
    (delivered : net.deliver? id index = some next)
    (alive : (next.clients ()).isSome = true) : Steady uid next := by
  have taken : net.event? UserAction.perform (.signal (.deliver index)) = some next := delivered
  have sound := (WriteOwnership.sound_event steady.sound taken).1
  obtain ⟨abiding, moved⟩ := steady.abiding.deliver Rule.mono delivered
  have store : next.store = net.store := by
    obtain ⟨_, _, _, _, _, -, -, rfl⟩ := Network.deliver?_cases delivered
    exact Network.launch_store ..
  refine ⟨sound, running_of_moves steady alive moved, store ▸ steady.registered, abiding, ?_⟩
  intro post owned
  rw [store] at owned
  rw [Covered, store]
  refine (steady.covered post owned).imp_right fun covers => ?_
  exact covers.imp (·.deliver steady.abiding (fun _ => alive) delivered)
    (·.deliver steady.abiding (fun _ => alive) delivered)

/-- A change under way survives the serving of a harmless request that it does not aim at. -/
private theorem Covered.serve {before after : List (Pending firebase App Unit)}
    {call : Call firebase App} {store : Cloud} {answer : call.request.Response} {post : PostId}
    (covers : Covered uid net post) (split : net.flight = before ++ ⟨(), call, none⟩ :: after)
    (harmless : Harmless call.request)
    (other : ¬ Repaints post (net.store.firestore.profileImage? uid) call.request)
    (same : store.firestore.profileImage? uid = net.store.firestore.profileImage? uid)
    (well : fine call.request answer = true) (lists : Lists uid post call.request answer) :
    Covered uid { net with
      store := store
      flight := before ++ ⟨(), call, some answer⟩ :: after } post := by
  have spares : ¬ Renames uid call.request := by
    rintro ⟨url, renames⟩
    rw [renames] at harmless
    exact harmless
  rw [Covered, same]
  exact covers.imp (·.serve split spares well) (·.serve split other lists)

private theorem Steady.serve (steady : Steady uid net) {index : ℕ} {choice : Choice}
    (clean : flawless net (.signal (.serve index choice)) = true)
    (timely : Timely uid net (.signal (.serve index choice)))
    (served : net.serve? index choice = some next) : Steady uid next := by
  have taken : net.event? UserAction.perform (.signal (.serve index choice)) = some next := served
  have sound := (WriteOwnership.sound_event steady.sound taken).1
  have abiding := steady.abiding.serve served
  obtain ⟨before, after, ⟨⟩, call, store, answer, split, rfl, resolved, rfl⟩ :=
    Network.serve?_cases served
  have here : net.flight[before.length]? = some ⟨(), call, none⟩ := by simp [split]
  have well : fine call.request answer = true := by
    change net.flight[before.length]?.all _ = true at clean
    rw [here, Option.all_some, resolved] at clean
    exact clean
  have timely (post : PostId) (image : Option Value) (writes : Writes uid post image call.request) :
      image = net.store.firestore.profileImage? uid ∨ Covered uid net post :=
    timely ⟨(), call, none⟩ here post image writes
  obtain ⟨⟨fresh, applied, -⟩, lists⟩ := served_fine uid resolved well
  obtain ⟨app, running, signedIn⟩ := steady.running
  have rule := (steady.abiding ⟨(), call, none⟩ (by simp [split]) app running).fits
  have present {pending : Pending firebase App Unit} (same : pending = ⟨(), call, some answer⟩) :
      pending ∈ before ++ ⟨(), call, some answer⟩ :: after := by simp [same]
  rcases rule with harmless | ⟨data, same, leads⟩ | ⟨url, same, leads⟩
  · have image : store.firestore.profileImage? uid = net.store.firestore.profileImage? uid := by
      rw [applied]
      exact harmless.profileImage?
    refine ⟨sound, ⟨app, running, signedIn⟩, ?_, abiding, fun post owned => ?_⟩
    · dsimp only
      rw [applied, Request.mem_apply_of_not_touches (harmless.not_touches_user uid)]
      exact steady.registered
    · by_cases aimed : Repaints post (net.store.firestore.profileImage? uid) call.request
      · left
        rw [image, applied]
        exact agrees_of_repaints aimed (applied ▸ owned)
      have covers (covered : Covered uid net post) : Covered uid { net with
          store := store
          flight := before ++ ⟨(), call, some answer⟩ :: after } post :=
        covered.serve split harmless aimed image well (lists post owned)
      have kept := harmless.post_cases (applied ▸ owned)
      rw [← applied] at kept
      rcases kept with ⟨owned, still⟩ | writes
      · exact (steady.covered post owned).imp (fun agree => (still.trans agree).trans image.symm) covers
      · exact (timely post _ writes).imp (fun current => current.trans image.symm) covers
  · refine ⟨sound, ⟨app, running, signedIn⟩, ?_, abiding, fun post owned => .inr (.inl ?_)⟩
    · dsimp only
      rw [applied, same]
      simp [Request.apply]
    · refine ⟨_, present rfl, fun state known => leads answer |>.mono ?_⟩
      obtain rfl := Option.some.inj (running.symm.trans known)
      exact (motion uid).refl app
  · obtain ⟨record, found⟩ := Finmap.mem_iff.mp steady.registered
    refine ⟨sound, ⟨app, running, signedIn⟩, ?_, abiding, fun post owned => .inr (.inr ?_)⟩
    · dsimp only
      rw [applied, same]
      simp [Request.apply, found]
    · have named : store.firestore.profileImage? uid = some (.string url) := by
        rw [applied, same]
        simp [Firestore.profileImage?, Request.apply, found, recordFields, Dictionary.updating_self]
      rw [named]
      refine ⟨_, present rfl, fun state known => leads answer well post |>.mono ?_⟩
      obtain rfl := Option.some.inj (running.symm.trans known)
      exact (motion uid).refl app

/-- Every event without a failure that is timely keeps the session steady. -/
private theorem Steady.step (steady : Steady uid net) {event : Event cloud Unit UserAction}
    (timely : Timely uid net event) (taken : step? net event = some next) : Steady uid next := by
  unfold step? at taken
  split_ifs at taken with clean
  obtain ⟨taken, alive⟩ := Option.filter_eq_some_iff.mp taken
  cases event with
  | act client action => exact steady.act clean taken alive
  | signal signal =>
    cases signal with
    | serve index choice => exact steady.serve clean timely taken
    | deliver index => exact steady.deliver taken alive
    | notify index choice => cases clean

end Steps

variable {uid : Uid}

/-- When every image written into a post is the current one, or still to be replaced, all posts
name the current image whenever nothing is in flight. -/
theorem images_agree {start final : Network cloud App Unit Unit} {app : App}
    {events : List (Event cloud Unit UserAction)}
    (records : WriteOwnership.Records (fun _ : Unit => uid) start.store.firestore)
    (registered : .user uid ∈ start.store.firestore)
    (agree : ImagesAgree start.store.firestore uid)
    (opened : start.clients () = some app) (fresh : WriteOwnership.Opened uid app)
    (idle : start.flight = []) (quiet : start.listeners = [])
    (run : Run (fun net event next => Timely uid net event ∧ step? net event = some next) start
      events final) (settled : final.flight = []) : ImagesAgree final.store.firestore uid := by
  have sound : start.Sound (WriteOwnership.contract fun _ : Unit => uid) id := by
    refine WriteOwnership.sound_start records ?_ idle quiet
    rintro ⟨⟩ other running
    obtain rfl := Option.some.inj (opened.symm.trans running)
    exact fresh
  have steady : Steady uid start :=
    ⟨sound, ⟨app, opened, fresh.currentUser⟩, registered, by simp [Network.Abiding, idle],
      fun post owned => .inl (agree post owned)⟩
  have reached := run.invariant steady fun {net event next} taken steady =>
    steady.step taken.1 taken.2
  exact reached.agree settled

/-- Images stored under these names, and an account with an image and a post. -/
def named (name : String) : String := "gs://" ++ storageBucket ++ "/" ++ name

def author : User := ⟨"u@mail", "u", named "old", "u", "u", ⟨0, 0, 0⟩, false⟩

def opened : Network cloud App Unit Unit where
  store :=
    { firestore := ((∅ : Firestore).insert (.user "u")
        (UserService.data "u@mail" "u" (named "old") "u" "u")).insert (.post "p")
        (PostService.data "" ⟨0, 0⟩ "" "u" author)
      objects := [named "old"] }
  clients _ := some { currentUser := some "u" }

def photo : UIImage := ⟨some [0]⟩

/-- The oldest requests are answered, drawing these names. -/
def answering (names : List String) : List (Event cloud Unit UserAction) :=
  drain (names.map fun fresh => Choice.answer [] fresh)

/-- The tabs are loaded and the image is changed from the profile page. -/
def changing : List (Event cloud Unit UserAction) :=
  [.act () .tabsViewDidLoad] ++ answering [""] ++
    [.act () (.profileViewForHeader 3), .act () (.profileOnTapEditProfile 3),
      .act () (.editDidFinishPicking 4 photo), .act () (.editHandleDone 4 none)] ++
    answering ["", named "new"] ++ answering [""] ++ answering [""] ++
    drain [Choice.answer [.post "p"] ""] ++ answering [""]

/-- A photo is uploaded, and the feed is refreshed. -/
def uploading : List (Event cloud Unit UserAction) :=
  [.act () (.tabsDidFinishPicking photo), .act () (.uploadOnTapShare 5)] ++
    answering [named "photo"] ++ answering [""] ++ answering ["q"] ++ answering [""]

/-- The request copies no image into a post but the one that the account's record names. -/
def current (uid : Uid) (store : Firestore) : Request → Bool
  | .updateData (.post _) fields => fields "ownerProfileImage" = store.profileImage? uid
  | .addDocument .posts _ => false
  | _ => true

def copiesCurrent (uid : Uid) (net : Network cloud App Unit Unit) : Event cloud Unit UserAction → Bool
  | .signal (.serve index _) => net.flight[index]?.all fun pending =>
      current uid net.store.firestore pending.call.request
  | _ => true

private theorem timely_of_copiesCurrent {net : Network cloud App Unit Unit}
    {event : Event cloud Unit UserAction} (copies : copiesCurrent uid net event = true) :
    Timely uid net event := by
  unfold Timely
  split
  · intro pending here post image writes
    change Option.all _ _ = true at copies
    rw [here, Option.all_some] at copies
    left
    unfold Writes at writes
    split at writes
    · next same =>
      rw [same] at copies
      rw [← writes.2.2]
      exact of_decide_eq_true copies
    · next same =>
      rw [same] at copies
      cases copies
    · exact writes.elim
  · trivial

private theorem opened_agree : ImagesAgree opened.store.firestore "u" := by
  intro post owned
  by_cases same : post = "p"
  · subst same
    decide
  · simp [OwnedBy, opened, same] at owned

private theorem opened_records :
    WriteOwnership.Records (fun _ : Unit => "u") opened.store.firestore := by
  intro client data found
  obtain rfl : UserService.data "u@mail" "u" (named "old") "u" "u" = data := by
    simpa [opened] using found
  rfl

/-- A change of the image of an account with one post. -/
theorem images_agree_changed : ∃ final : Network cloud App Unit Unit,
    Run (fun net event next => Timely "u" net event ∧ step? net event = some next) opened changing
      final ∧
    final.store.firestore.profileImage? "u" = some (.string (named "new")) ∧
    ImagesAgree final.store.firestore "u" := by
  have completes : (replay? (fun net event =>
      if copiesCurrent "u" net event then step? net event else none) opened changing).any
      (fun final => decide (final.flight.isEmpty = true ∧
        final.store.firestore.profileImage? "u" = some (.string (named "new")))) = true := by
    decide +kernel
  obtain ⟨final, run, idle, renamed⟩ := exists_run_of_replay? completes
  have timely : Run (fun net event next => Timely "u" net event ∧ step? net event = some next)
      opened changing final := run.mono fun taken => by
    split_ifs at taken with copies
    exact ⟨timely_of_copiesCurrent copies, taken⟩
  exact ⟨final, timely, renamed, images_agree opened_records (by decide) opened_agree rfl
    ⟨rfl, nofun, rfl⟩ rfl rfl timely (List.isEmpty_iff.mp idle)⟩

/-- After a change of the image an upload still copies the image that the tabs were loaded with. -/
theorem images_not_agree :
    ¬ ∀ (uid : Uid) (start final : Network cloud App Unit Unit) (app : App)
      (events : List (Event cloud Unit UserAction)),
      WriteOwnership.Records (fun _ : Unit => uid) start.store.firestore →
      .user uid ∈ start.store.firestore → ImagesAgree start.store.firestore uid →
      start.clients () = some app → WriteOwnership.Opened uid app → start.flight = [] →
      start.listeners = [] →
      Run (fun net event next => step? net event = some next) start events final →
      final.flight = [] → ImagesAgree final.store.firestore uid := by
  intro claim
  have completes : (replay? step? opened (changing ++ uploading)).any
      (fun final => decide (final.flight.isEmpty = true ∧ OwnedBy final.store.firestore "u" "q" ∧
        final.store.firestore.ownerProfileImage? "q" ≠
          final.store.firestore.profileImage? "u")) = true := by
    decide +kernel
  obtain ⟨final, run, idle, owned, stale⟩ := exists_run_of_replay? completes
  exact stale (claim "u" opened final _ _ opened_records (by decide) opened_agree rfl
    ⟨rfl, nofun, rfl⟩ rfl rfl run (List.isEmpty_iff.mp idle) "q" owned)

end PostImages

end InstagramClone
