import InstagramClone.Async.Errand
import InstagramClone.Soundness.PostImages
import InstagramClone.Soundness.StoredRecords

/-! # A profile edit commits what was entered

An editor collects texts and images in a copy of the user it was opened with. Done then saves the
whole copy, or uploads the last image and updates one field, or does one after the other; whichever
way it takes, the delegate is told once, of a user that the stored document agrees with. An image
that cannot be encoded is not uploaded, and then the delegate is told nothing.
-/

namespace InstagramClone

open Async

namespace EditProfileController

variable (report : Ref → User → Code App)

/-- `updateProfileImage()` for a delegate with this method. -/
def updateProfileImageWith (self : Ref) : Code App :=
  Code.withObject self fun edit : EditProfileController =>
    match edit.selectedImage with
    | none => .done
    | some image => UserService.updateProfileImage edit.user image fun
      | some profileImageUrl, none =>
        .seq (Code.modify self fun edit : EditProfileController =>
          { edit with user := { edit.user with profileImage := profileImageUrl } }) <|
        Code.withObject self fun edit : EditProfileController => report edit.delegate edit.user
      | _, _ => .done

/-- `updateUserData()` for a delegate with this method. -/
def updateUserDataWith (self : Ref) : Code App :=
  Code.withObject self fun edit : EditProfileController =>
    .seq (if edit.imageChanged && !edit.userInfoChanged then updateProfileImageWith report self
      else .done) <|
    .seq (if edit.userInfoChanged && !edit.imageChanged then
        UserService.saveUserData edit.user fun _ =>
          Code.withObject self fun edit : EditProfileController => report edit.delegate edit.user
      else .done) <|
    if edit.userInfoChanged && edit.imageChanged then
      UserService.saveUserData edit.user fun _ => updateProfileImageWith report self
    else .done

/-- `handleDone()` for a delegate with this method. -/
def handleDoneWith (self : Ref) (editing : Option (EditProfileOptions × String)) : Code App :=
  .seq (match editing with
    | none => .done
    | some (option, text) => updateUserInfo self option text) <|
  Code.withObject self fun edit : EditProfileController =>
    if edit.imageChanged || edit.userInfoChanged then updateUserDataWith report self else .done

/-- The app's delegate is a profile page. -/
theorem handleDone_eq (self : Ref) (editing : Option (EditProfileOptions × String)) :
    handleDone self editing = handleDoneWith ProfileController.wantsToUpdate self editing := rfl

end EditProfileController

/-- What the user does on the editor before Done: a field ends being edited, or an image is
picked. -/
inductive ProfileEdit where
  | field (option : EditProfileOptions) (text : String)
  | image (picked : UIImage)

namespace ProfileEdit

def code (self : Ref) : ProfileEdit → Code App
  | field option text => EditProfileController.updateUserInfo self option text
  | image picked => EditProfileController.didFinishPickingMedia self picked

/-- The text entered for the option. -/
def text? (option : EditProfileOptions) : ProfileEdit → Option String
  | field edited text => if edited = option then some text else none
  | image _ => none

def image? : ProfileEdit → Option UIImage
  | field .. => none
  | image picked => some picked

/-- The last text entered for the option. -/
def lastText? (option : EditProfileOptions) (edits : List ProfileEdit) : Option String :=
  (edits.filterMap (text? option)).getLast?

def lastImage? (edits : List ProfileEdit) : Option UIImage := (edits.filterMap image?).getLast?

/-- All edits, with the one that Done ends. -/
def ended (edits : List ProfileEdit) (editing : Option (EditProfileOptions × String)) :
    List ProfileEdit :=
  edits ++ (editing.map fun (option, text) => field option text).toList

/-- The editor after an edit. -/
def apply (edit : EditProfileController) : ProfileEdit → EditProfileController
  | field .fullname text =>
    { edit with userInfoChanged := true, user := { edit.user with fullname := text } }
  | field .username text =>
    { edit with userInfoChanged := true, user := { edit.user with username := text } }
  | image picked => { edit with selectedImage := some picked }

/-- The editor that was opened with the user, after the edits. -/
def editor (user : User) (delegate : Ref) (edits : List ProfileEdit) : EditProfileController where
  user :=
    { user with
      fullname := (lastText? .fullname edits).getD user.fullname
      username := (lastText? .username edits).getD user.username }
  delegate
  userInfoChanged := edits.any fun edit => edit.image?.isNone
  selectedImage := lastImage? edits

private theorem editor_nil (user : User) (delegate : Ref) :
    editor user delegate [] = ⟨user, delegate, false, none⟩ := rfl

private theorem editor_append (user : User) (delegate : Ref) (edits : List ProfileEdit)
    (edit : ProfileEdit) :
    editor user delegate (edits ++ [edit]) = apply (editor user delegate edits) edit := by
  cases edit with
  | image picked => simp [editor, apply, lastText?, lastImage?, text?, image?]
  | field option text =>
    cases option <;> simp [editor, apply, lastText?, lastImage?, text?, image?]

end ProfileEdit

/-- The upload that an answer is about, and what was answered. -/
def upload? : (Σ request : Request, request.Response) →
    Option (Bytes × Except BackendError String)
  | ⟨.putData data, upload⟩ => some (data, upload.result)
  | _ => none

/-- The uploads of a log with their answers: the URLs of the stored images. -/
def uploads (log : List (Σ request : Request, request.Response)) :
    List (Bytes × Except BackendError String) := log.filterMap upload?

/-- No request of the log failed, and no upload showed a progress that cannot be divided. -/
def Succeeded (log : List (Σ request : Request, request.Response)) : Prop :=
  ∀ entry ∈ log, entry.1.succeeded entry.2 = true

instance (log : List (Σ request : Request, request.Response)) : Decidable (Succeeded log) :=
  inferInstanceAs (Decidable (∀ entry ∈ log, entry.1.succeeded entry.2 = true))

namespace CommittedEdits

/-- The request uploads nothing and leaves the user's document alone. -/
def Beside (uid : Uid) (request : Request) : Prop :=
  ¬ request.Touches (.user uid) ∧ ∀ data, request ≠ .putData data

/-- How such requests move the store. -/
def Moved (uid : Uid) (before after : Logged firebase Cloud) : Prop :=
  before.log <+: after.log ∧ uploads after.log = uploads before.log ∧
    after.store.firestore.lookup (.user uid) = before.store.firestore.lookup (.user uid)

variable {uid : Uid}

private theorem moves (uid : Uid) : cloud.logged.Moves (Beside uid) (Moved uid) where
  refl _ := ⟨List.prefix_refl _, rfl, rfl⟩
  trans left right :=
    ⟨left.1.trans right.1, right.2.1.trans left.2.1, right.2.2.trans left.2.2⟩
  serve := by
    intro choice store later request answer beside served
    obtain ⟨reached, log⟩ := logged_serve served
    refine ⟨log ▸ List.prefix_append .., ?_, ?_⟩
    · have apart : upload? ⟨request, answer⟩ = none := by
        cases request with
        | putData data => exact absurd rfl (beside.2 data)
        | _ => rfl
      simp [log, uploads, apart]
    · rcases serve_cases reached with ⟨same, -⟩ | ⟨order, fresh, transfer, resolved⟩
      · rw [same]
      · rw [(Request.resolve_firestore resolved).1]
        exact Request.lookup_apply beside.1

/-- The log only grows. -/
private theorem signal_log {net next : Network cloud.logged App Unit Unit}
    {signal : Signal cloud.logged} (taken : net.signal? id signal = some next) :
    net.store.log <+: next.store.log := by
  cases signal with
  | serve index choice =>
    obtain ⟨_, _, _, _, store, _, -, -, served, rfl⟩ := Network.serve?_cases taken
    exact ⟨_, (logged_serve served).2.symm⟩
  | deliver index =>
    obtain ⟨_, _, _, _, _, -, -, rfl⟩ := Network.deliver?_cases taken
    rw [Network.launch_store]
  | notify index choice =>
    obtain ⟨_, _, _, _, _, _, _, -, -, rfl⟩ := Network.notify?_cases taken
    rw [Network.launch_store]

variable {legal : Signal cloud.logged → Prop} {net final : Network cloud.logged App Unit Unit}

private theorem completes_log (completes : net.Completes id legal final) :
    net.store.log <+: final.store.log := by
  obtain ⟨signals, run, -⟩ := completes
  refine run.history (fun _ later => net.store.log <+: later.store.log) (List.prefix_refl _) ?_
  exact fun taken past => past.trans (signal_log taken.2)

variable {app next : App} {call : Call firebase App} {errands : List (Call firebase App)}

/-- The request is served with success, errands run before it and after it, and then the client
goes on with its callback. -/
def GoesOn (uid : Uid) (legal : Signal cloud.logged → Prop)
    (net final : Network cloud.logged App Unit Unit) (app : App) (request : Request)
    (callback : request.Response → Code App) : Prop :=
  ∃ (before after : Logged firebase Cloud) (order : _) (fresh : String) (transfer : Transfer)
    (answer : request.Response) (between : Network cloud.logged App Unit Unit),
    Moved uid net.store before ∧
    request.resolve order fresh transfer before.store = some (after.store, answer) ∧
    after.log = before.log ++ [⟨request, answer⟩] ∧ request.succeeded answer = true ∧
    Moved uid after between.store ∧ between.Awaits (Beside uid) app [] ∧
    (between.launch id () (callback answer)).Completes id legal final

/-- Code that waits for one request, all of whose requests succeed. -/
private theorem awaited {program : Code App}
    (completes : (net.launch id () program).Completes id legal final)
    (waits : net.Awaits (Beside uid) app [])
    (ran : program.run app = ⟨some next, errands ++ [call], []⟩)
    (beside : ∀ errand ∈ errands, errand.Errand (Beside uid))
    (succeeded : Succeeded final.store.log) :
    GoesOn uid legal net final next call.request call.callback := by
  have launched : (net.launch id () program).Awaits (Beside uid) next [⟨(), call, none⟩] :=
    waits.launch ran List.perm_append_comm beside
  obtain ⟨before, after, choice, answer, between, moved, served, further, waits, goes⟩ :=
    completes.awaited launched (moves uid)
  rw [Network.launch_store] at moved
  obtain ⟨reached, log⟩ := logged_serve served
  have told : (⟨call.request, answer⟩ : Σ request : Request, request.Response) ∈ final.store.log := by
    have grown := further.1.trans ((Network.launch_store id between () _).symm ▸ completes_log goes)
    exact grown.mem (log ▸ List.mem_append_right _ (List.mem_singleton_self _))
  have fine := succeeded _ told
  rcases serve_cases reached with ⟨-, error, transfer, rfl⟩ | ⟨order, fresh, transfer, resolved⟩
  · cases (Request.succeeded_failed call.request error transfer).symm.trans fine
  · exact ⟨before, after, order, fresh, transfer, answer, between, moved, resolved, log, fine, further,
      waits, goes⟩

private theorem awaited_call {request : Request} {callback : request.Response → Code App}
    (completes : (net.launch id () (Code.call request callback)).Completes id legal final)
    (waits : net.Awaits (Beside uid) app []) (succeeded : Succeeded final.store.log) :
    GoesOn uid legal net final app request callback :=
  awaited completes waits (show (Code.call request callback).run app =
    ⟨some app, [] ++ [⟨request, callback⟩], []⟩ from rfl) (by simp) succeeded

open PostImages (repaint)

open ImageUploaderService (handleLocated handleStored)

/-- A delegate that does this to the device when it is told of a user. -/
def report (change : Ref → User → App → App) (delegate : Ref) (user : User) : Code App :=
  .update (change delegate user) .done

/-- `self.user = user` -/
def setUser (user : User) (edit : EditProfileController) : EditProfileController :=
  { edit with user }

/-- `self.user.profileImage = profileImageUrl` -/
def setImage (url : String) (edit : EditProfileController) : EditProfileController :=
  { edit with user := { edit.user with profileImage := url } }

variable {change : Ref → User → App → App} {self : Ref} {edit : EditProfileController}

/-- Telling the delegate of the editor's user. -/
private theorem run_report (change : Ref → User → App → App)
    (found : app.find? EditProfileController self = some edit) :
    (Code.withObject self fun edit : EditProfileController =>
      report change edit.delegate edit.user).run app =
        ⟨some (change edit.delegate edit.user app), [], []⟩ := by
  simp only [Code.withObject, Program.run_inspect, found]
  rfl

/-- The handler of the update of the user's document. -/
def updated (change : Ref → User → App → App) (self : Ref) (user : User) (url : String) :
    Option BackendError → Code App
  | some _ => .done
  | none => .seq (Code.call (.getDocuments (PostService.ownedBy user.uid)) (repaint url)) <|
      .seq (Code.modify self (setImage url)) <|
      Code.withObject self fun edit : EditProfileController => report change edit.delegate edit.user

/-- The old image is deleted and the new one uploaded, and then its URL is stored. -/
private theorem run_updateProfileImage {image : UIImage} {data : Bytes}
    (signedIn : app.currentUser = some uid)
    (found : app.find? EditProfileController self = some edit)
    (picked : edit.selectedImage = some image) (encoded : image.jpegData = some data)
    (located : isStorageURL edit.user.profileImage = true) :
    (EditProfileController.updateProfileImageWith (report change) self).run app =
      ⟨some app, [⟨.deleteObject edit.user.profileImage, fun _ => .done⟩] ++
        [⟨.putData data, handleStored fun url =>
          Code.call (.updateData (.user uid) (.ofList [("profileImage", .string url)]))
            (updated change self edit.user url)⟩], []⟩ := by
  simp only [EditProfileController.updateProfileImageWith, Code.withObject, Program.run_inspect,
    found, picked, UserService.updateProfileImage, ImageUploaderService.uploadImage_of_encoded encoded,
    Code.run_withCurrentUser (show Device.currentUser app = some uid from signedIn), located, if_true,
    Program.post_seq, Program.run_send, Code.run_call, List.singleton_append]
  refine congrArg (fun completion => (⟨some app, [⟨.deleteObject edit.user.profileImage,
    fun _ => .done⟩, ⟨.putData data, handleStored completion⟩], []⟩ : Effect firebase App))
    (funext fun url => ?_)
  refine congrArg (Code.call _) (funext fun error => ?_)
  cases error with
  | some error => rfl
  | none =>
    refine congrArg (Program.seq · _) (congrArg (Code.call _) (funext fun answer => ?_))
    cases answer <;> rfl

/-- Repainting the posts is no business of the editor's. -/
private theorem repaint_errand (owner : Uid) (url : String) :
    (⟨.getDocuments (PostService.ownedBy owner), repaint url⟩ : Call firebase App).Errand
      (Beside uid) := by
  refine .intro ⟨nofun, nofun⟩ (fun answer app => ?_) fun answer app new issued => ?_
  · cases answer with
    | error => exact ⟨rfl, rfl⟩
    | ok documents =>
      simp only [repaint]
      rw [Program.run_forEach_post]
      exact ⟨rfl, rfl⟩
  · cases answer with
    | error => cases issued
    | ok documents =>
      simp only [repaint] at issued
      rw [Program.run_forEach_post] at issued
      obtain ⟨document, -, rfl⟩ := List.mem_map.mp issued
      exact Call.errand_post ⟨nofun, nofun⟩

/-- What the image path does: the image is uploaded once, its URL stored, the delegate told. -/
private theorem image_committed {image : UIImage} {data : Bytes} {dictionary : Dictionary}
    (completes : (net.launch id () (EditProfileController.updateProfileImageWith (report change)
      self)).Completes id legal final)
    (waits : net.Awaits (Beside uid) app []) (signedIn : app.currentUser = some uid)
    (found : app.find? EditProfileController self = some edit)
    (picked : edit.selectedImage = some image) (encoded : image.jpegData = some data)
    (located : isStorageURL edit.user.profileImage = true)
    (stored : net.store.store.firestore.lookup (.user uid) = some dictionary)
    (succeeded : Succeeded final.store.log) :
    ∃ url, final.clients () = some (change edit.delegate { edit.user with profileImage := url }
        (app.modify self (setImage url))) ∧
      uploads final.store.log = uploads net.store.log ++ [(data, .ok url)] ∧
      final.store.store.firestore.lookup (.user uid) =
        some (dictionary.updating (.ofList [("profileImage", .string url)])) := by
  obtain ⟨first, second, order, fresh, transfer, upload, between, toUpload, uploading, log, fine,
    fromUpload, waitsUpload, goesUpload⟩ :=
    awaited completes waits (run_updateProfileImage signedIn found picked encoded located)
      (fun errand issued => by
        obtain rfl := List.mem_singleton.mp issued
        exact Call.errand_post ⟨nofun, nofun⟩) succeeded
  have kept : second.store.firestore = first.store.firestore :=
    (Request.resolve_firestore uploading).1
  obtain ⟨steady, ok⟩ := Bool.and_eq_true_iff.mp fine
  cases put : upload.result with
  | error error => simp [put, Except.isOk, Except.toBool] at ok
  | ok url =>
  dsimp only at goesUpload
  rw [ImageUploaderService.handleStored_ok steady put] at goesUpload
  have uploaded : uploads between.store.log = uploads net.store.log ++ [(data, .ok url)] := by
    rw [fromUpload.2.1, log, ← toUpload.2.1]
    simp [uploads, upload?, put]
  have still : between.store.store.firestore.lookup (.user uid) = some dictionary := by
    rw [fromUpload.2.2, kept, toUpload.2.2, stored]
  obtain ⟨third, fourth, order, fresh, transfer, answer, between', toLocate, locating, log, fine,
    fromLocate, waitsLocate, goesLocate⟩ := awaited_call goesUpload waitsUpload succeeded
  have kept : fourth.store.firestore = third.store.firestore :=
    (Request.resolve_firestore locating).1
  cases answer with
  | error error => cases fine
  | ok location =>
  obtain rfl : location = url := by
    obtain ⟨-, same⟩ := Prod.mk.inj (Option.some.inj locating)
    split_ifs at same
    exact (Except.ok.inj same).symm
  have uploaded : uploads between'.store.log = uploads net.store.log ++ [(data, .ok location)] := by
    rw [fromLocate.2.1, log, ← uploaded, ← toLocate.2.1]
    simp [uploads, upload?]
  have still : between'.store.store.firestore.lookup (.user uid) = some dictionary := by
    rw [fromLocate.2.2, kept, toLocate.2.2, still]
  obtain ⟨fifth, sixth, order, fresh, transfer, answer, between, toStore, storing, log, fine,
    fromStore, waitsStore, goesStore⟩ := awaited_call goesLocate waitsLocate succeeded
  cases answer with
  | some error => cases fine
  | none =>
  have written : sixth.store.firestore.lookup (.user uid) =
      some (dictionary.updating (.ofList [("profileImage", .string location)])) := by
    have found : fifth.store.firestore.lookup (.user uid) = some dictionary := by
      rw [toStore.2.2, still]
    rw [(Request.resolve_firestore storing).1]
    simp [Request.apply, found]
  have uploaded : uploads between.store.log = uploads net.store.log ++ [(data, .ok location)] := by
    rw [fromStore.2.1, log, ← uploaded, ← toStore.2.1]
    simp [uploads, upload?]
  have patched : (app.modify self (setImage location)).find? EditProfileController self =
      some (setImage location edit) := by
    rw [App.find?_modify, found]
    rfl
  have ran : (updated change self edit.user location none).run app =
      ⟨some (change edit.delegate { edit.user with profileImage := location }
        (app.modify self (setImage location))),
        [⟨.getDocuments (PostService.ownedBy edit.user.uid), repaint location⟩], []⟩ := by
    have told := run_report change patched
    simp only [updated, Code.modify, Program.update_seq, Program.done_seq, Code.call_seq,
      Program.run_send, Program.run_update, told]
    rfl
  have launched : (between.launch id () (updated change self edit.user location none)).Awaits
      (Beside uid) _ [] := waitsStore.launch ran (.refl ([] ++ _)) fun errand issued => by
    obtain rfl := List.mem_singleton.mp issued
    exact repaint_errand edit.user.uid location
  obtain ⟨last, moved⟩ := Network.Completes.errands goesStore launched (moves uid)
  rw [Network.launch_store] at moved
  refine ⟨location, last, ?_, ?_⟩
  · rw [moved.2.1, uploaded]
  · rw [moved.2.2, fromStore.2.2, written]

open EditProfileController (handleDoneWith updateUserDataWith updateProfileImageWith)

open ProfileEdit (editor editor_nil editor_append ended lastText? lastImage?)

/-- The device once its editor has been edited. -/
def edited (app : App) (self : Ref) (user : User) (delegate : Ref) (edits : List ProfileEdit) : App :=
  app.modify self fun _ => editor user delegate edits

variable {store : Logged firebase Cloud} {user : User} {delegate : Ref} {edits : List ProfileEdit}
  {editing : Option (EditProfileOptions × String)}

private theorem find?_edited
    (opened : app.find? EditProfileController self = some ⟨user, delegate, false, none⟩)
    (edits : List ProfileEdit) :
    (edited app self user delegate edits).find? EditProfileController self =
      some (editor user delegate edits) := by
  rw [edited, App.find?_modify, opened]
  rfl

private theorem modify_edited (edit : ProfileEdit) :
    (edited app self user delegate edits).modify self (fun shown => edit.apply shown) =
      edited app self user delegate (edits ++ [edit]) := by
  rw [edited, App.modify_modify, edited, editor_append]

/-- One edit changes the editor and nothing else. -/
private theorem run_edit (edit : ProfileEdit) :
    (edit.code self).run (edited app self user delegate edits) =
      ⟨some (edited app self user delegate (edits ++ [edit])), [], []⟩ := by
  rw [← modify_edited]
  cases edit with
  | image picked => rfl
  | field option text => cases option <;> rfl

private theorem launch_edits
    (opened : app.find? EditProfileController self = some ⟨user, delegate, false, none⟩)
    (edits : List ProfileEdit) :
    edits.foldl (fun net edit => net.launch id () (edit.code self))
      (Network.lone store app [] : Network cloud.logged App Unit Unit) =
        Network.lone store (edited app self user delegate edits) [] := by
  induction edits using List.reverseRecOn with
  | nil =>
    have same : edited app self user delegate [] = app := App.modify_eq_self opened (editor_nil ..)
    rw [same]
    rfl
  | append_singleton edits edit ih =>
    rw [List.foldl_append, ih]
    exact Network.lone_launch (run_edit edit)

/-- The editor knows whether there was an edit. -/
private theorem editor_changed (edits : List ProfileEdit) :
    ((editor user delegate edits).imageChanged || (editor user delegate edits).userInfoChanged) =
      !edits.isEmpty := by
  cases edits with
  | nil => rfl
  | cons edit rest =>
    cases edit with
    | field option text => simp [editor, ProfileEdit.image?]
    | image picked =>
      simp [editor, EditProfileController.imageChanged, ProfileEdit.lastImage?, ProfileEdit.image?]

/-- Done goes by the editor with the field that it ends. -/
private theorem launch_handleDone (report : Ref → User → Code App)
    (opened : app.find? EditProfileController self = some ⟨user, delegate, false, none⟩) :
    (Network.lone store (edited app self user delegate edits) [] :
        Network cloud.logged App Unit Unit).launch id () (handleDoneWith report self editing) =
      (Network.lone store (edited app self user delegate (ended edits editing)) []).launch id ()
        (if ended edits editing = [] then .done else updateUserDataWith report self) := by
  let rest : Code App := Code.withObject self fun edit : EditProfileController =>
    if edit.imageChanged || edit.userInfoChanged then updateUserDataWith report self else .done
  have decides (all : List ProfileEdit) : (Network.lone store (edited app self user delegate all) [] :
        Network cloud.logged App Unit Unit).launch id () rest =
      (Network.lone store (edited app self user delegate all) []).launch id ()
        (if all = [] then .done else updateUserDataWith report self) := by
    refine Network.lone_launch_congr ?_
    simp only [rest, Code.withObject, Program.run_inspect, find?_edited opened, editor_changed]
    cases all <;> rfl
  cases editing with
  | none =>
    have same : ended edits none = edits := List.append_nil _
    rw [same, ← decides]
    rfl
  | some last =>
    obtain ⟨option, text⟩ := last
    rw [← decides, ended, Option.map_some, Option.toList_some, ← modify_edited]
    have ends : handleDoneWith report self (some (option, text)) =
        .update (App.modify self fun shown => (ProfileEdit.field option text).apply shown) rest := by
      cases option <;> rfl
    rw [ends, Network.launch_update]

/-- What Done calls, for each of the two things that may have changed. -/
private theorem run_updateUserData (report : Ref → User → Code App)
    (found : app.find? EditProfileController self = some edit) :
    (updateUserDataWith report self).run app =
      (match edit.userInfoChanged, edit.imageChanged with
      | false, false => .done
      | false, true => updateProfileImageWith report self
      | true, false => UserService.saveUserData edit.user fun _ =>
          Code.withObject self fun edit : EditProfileController => report edit.delegate edit.user
      | true, true => UserService.saveUserData edit.user fun _ =>
          updateProfileImageWith report self : Code App).run app := by
  simp only [updateUserDataWith, Code.withObject, Program.run_inspect, found]
  cases edit.userInfoChanged <;> cases edit.imageChanged <;> simp

/-- Saving stores the editor's user under the signed-in account. -/
private theorem saved {completion : Option BackendError → Code App}
    (completes : (net.launch id () (UserService.saveUserData user completion)).Completes id legal
      final)
    (waits : net.Awaits (Beside uid) app []) (signedIn : app.currentUser = some uid)
    (succeeded : Succeeded final.store.log) :
    ∃ between : Network cloud.logged App Unit Unit, between.Awaits (Beside uid) app [] ∧
      between.store.store.firestore.lookup (.user uid) = some (UserService.data user.email
        user.fullname user.profileImage uid user.username) ∧
      uploads between.store.log = uploads net.store.log ∧
      (between.launch id () (completion none)).Completes id legal final := by
  have ran : (UserService.saveUserData user completion).run app =
      ⟨some app, [] ++ [⟨.setData (.user uid) (UserService.data user.email user.fullname
        user.profileImage uid user.username), completion⟩], []⟩ :=
    Code.run_withCurrentUser (show Device.currentUser app = some uid from signedIn) _
  obtain ⟨before, after, order, fresh, transfer, answer, between, toSave, saving, log, fine, fromSave, waits,
    goes⟩ := awaited completes waits ran (by simp) succeeded
  cases answer with
  | some error => cases fine
  | none =>
  refine ⟨between, waits, ?_, ?_, goes⟩
  · rw [fromSave.2.2, (Request.resolve_firestore saving).1]
    simp [Request.apply]
  · rw [fromSave.2.1, log, ← toSave.2.1]
    simp [uploads, upload?]

private theorem ofDictionary_updating (dictionary : Dictionary) (url : String) :
    User.ofDictionary (dictionary.updating (.ofList [("profileImage", .string url)])) =
      { User.ofDictionary dictionary with profileImage := url } := by
  simp [User.ofDictionary, Dictionary.string, Dictionary.updating, Dictionary.ofList, List.lookup_cons]

/-- Without an edited field the texts are those of the user. -/
private theorem editor_user (untouched : (editor user delegate edits).userInfoChanged = false) :
    (editor user delegate edits).user = user := by
  have none (option : EditProfileOptions) : lastText? option edits = none := by
    have blank : edits.filterMap (ProfileEdit.text? option) = [] := by
      refine List.filterMap_eq_nil_iff.mpr fun edit member => ?_
      cases edit with
      | image picked => rfl
      | field edited text =>
        have image := List.any_eq_false.mp untouched _ member
        simp [ProfileEdit.image?] at image
    rw [lastText?, blank]
    rfl
  simp [editor, none]

/-- Every sequence of edits that ends with an image that encodes, or with none. -/
theorem edits_committed {dictionary : Dictionary}
    (signedIn : app.currentUser = some user.uid)
    (opened : app.find? EditProfileController self = some ⟨user, delegate, false, none⟩)
    (stored : store.store.firestore.lookup (.user user.uid) = some dictionary)
    (loaded : User.ofDictionary dictionary = { user with stats := ⟨0, 0, 0⟩, isFollowed := false })
    (located : isStorageURL user.profileImage = true)
    (encodes : ∀ image, lastImage? (ended edits editing) = some image →
      image.jpegData.isSome = true)
    (completes : ((edits.foldl (fun net edit => net.launch id () (edit.code self))
      (Network.lone store app [] : Network cloud.logged App Unit Unit)).launch id ()
        (handleDoneWith (report change) self editing)).Completes id legal final)
    (succeeded : Succeeded final.store.log) :
    if ended edits editing = [] then
      final.clients () = some app
    else ∃ passed : User,
      final.clients () = some (change delegate passed
        ((edited app self user delegate (ended edits editing)).modify self (setUser passed))) ∧
      (final.store.store.firestore.lookup (.user user.uid)).map User.ofDictionary =
        some { passed with stats := ⟨0, 0, 0⟩, isFollowed := false } ∧
      passed = { user with
        fullname := (lastText? .fullname (ended edits editing)).getD user.fullname
        username := (lastText? .username (ended edits editing)).getD user.username
        profileImage := passed.profileImage } ∧
      match (lastImage? (ended edits editing)).bind UIImage.jpegData with
      | none => passed.profileImage = user.profileImage
      | some data =>
        uploads final.store.log = uploads store.log ++ [(data, .ok passed.profileImage)] := by
  rw [launch_edits opened, launch_handleDone _ opened] at completes
  split_ifs at completes ⊢ with nothing
  · obtain rfl := completes.launch_idle rfl
    rw [nothing]
    exact congrArg some (App.modify_eq_self opened (editor_nil ..))
  · have found := find?_edited opened (ended edits editing)
    have waits := @Network.lone_awaits _ cloud.logged _ (Beside user.uid) store
      (edited app self user delegate (ended edits editing))
    have signedIn : (edited app self user delegate (ended edits editing)).currentUser =
        some user.uid := signedIn
    have changed := @editor_changed user delegate (ended edits editing)
    rw [Network.lone_launch_congr (run_updateUserData _ found)] at completes
    have tells (url : String) : (edited app self user delegate (ended edits editing)).modify self
          (setImage url) = (edited app self user delegate (ended edits editing)).modify self
            (setUser { (editor user delegate (ended edits editing)).user with profileImage := url }) :=
      App.modify_congr found rfl
    cases fields : (editor user delegate (ended edits editing)).userInfoChanged with
    | false =>
      cases picked : (editor user delegate (ended edits editing)).selectedImage with
      | none =>
        rw [fields, EditProfileController.imageChanged, picked] at changed
        simp [nothing] at changed
      | some image =>
        obtain ⟨data, encoded⟩ := Option.isSome_iff_exists.mp (encodes image picked)
        simp only [fields, EditProfileController.imageChanged, picked, Option.isSome_some] at completes
        obtain ⟨url, told, uploaded, last⟩ := image_committed completes waits signedIn found picked
          encoded located stored succeeded
        refine ⟨_, (tells url) ▸ told, ?_, rfl, ?_⟩
        · rw [last, Option.map_some, ofDictionary_updating, loaded, editor_user fields]
        · have last : lastImage? (ended edits editing) = some image := picked
          rw [last, Option.bind_some, encoded]
          exact uploaded
    | true =>
      cases picked : (editor user delegate (ended edits editing)).selectedImage with
      | none =>
        have last : lastImage? (ended edits editing) = none := picked
        simp only [fields, EditProfileController.imageChanged, picked, Option.isSome_none] at completes
        obtain ⟨between, waits, stored, uploaded, goes⟩ := saved completes waits signedIn succeeded
        have told := waits.launch (run_report change found) (.refl ([] ++ [])) (by simp)
        obtain ⟨after, moved⟩ := goes.errands told (moves user.uid)
        rw [Network.launch_store] at moved
        refine ⟨(editor user delegate (ended edits editing)).user, ?_, ?_, rfl, ?_⟩
        · rw [after, App.modify_eq_self found rfl]
          rfl
        · rw [moved.2.2, stored, Option.map_some, UserService.ofDictionary_data]
          rfl
        · rw [last]
          rfl
      | some image =>
        have last : lastImage? (ended edits editing) = some image := picked
        obtain ⟨data, encoded⟩ := Option.isSome_iff_exists.mp (encodes image picked)
        simp only [fields, EditProfileController.imageChanged, picked, Option.isSome_some] at completes
        obtain ⟨between, waits, stored, kept, goes⟩ := saved completes waits signedIn succeeded
        obtain ⟨url, told, uploaded, last'⟩ := image_committed goes waits signedIn found picked
          encoded located stored succeeded
        refine ⟨_, (tells url) ▸ told, ?_, rfl, ?_⟩
        · rw [last', Option.map_some, ofDictionary_updating, UserService.ofDictionary_data]
          rfl
        · rw [kept] at uploaded
          rw [last, Option.bind_some, encoded]
          exact uploaded

section Examples

def oldImage : String := "gs://instagramclone-62b50.appspot.com/old"

def newImage : String := "gs://instagramclone-62b50.appspot.com/new"

/-- The account `u`, as it is loaded and edited. -/
def owner : User where
  email := "u@mail"
  fullname := "old"
  profileImage := oldImage
  username := "u"
  uid := "u"

/-- The stored account, with its image. -/
def account : Logged firebase Cloud where
  store :=
    { firestore := (∅ : Firestore).insert (.user "u")
        (UserService.data "u@mail" "old" oldImage "u" "u")
      objects := [oldImage] }

/-- The own profile page with an editor opened from it. -/
def device : App where
  currentUser := some "u"
  objects := [⟨.profile { user := owner }, true⟩, ⟨.editProfile ⟨owner, 0, false, none⟩, false⟩]

/-- The app's own delegate, a profile page, shows the user. -/
def shows (delegate : Ref) (user : User) : App → App :=
  App.modify delegate fun profile : ProfileController => { profile with user }

/-- What the user enters before the field that is being edited when Done is tapped. -/
def entered : List ProfileEdit := [.field .fullname "first", .image ⟨some [1]⟩, .field .username "me"]

/-- The editor, once Done was tapped. -/
def submitted : Network cloud.logged App Unit Unit :=
  (entered.foldl (fun net edit => net.launch id () (edit.code 1))
    (Network.lone account device [] : Network cloud.logged App Unit Unit)).launch id ()
      (EditProfileController.handleDone 1 (some (.fullname, "last")))

/-- An image and two names are entered, the last of them when Done is tapped. -/
theorem edits_committed_all :
    ∃ final, submitted.Completes id (fun _ => True) final ∧
      ∃ passed : User, final.clients () = some (shows 0 passed
          ((edited device 1 owner 0 (ended entered (some (.fullname, "last")))).modify 1
            (setUser passed))) ∧
        passed.fullname = "last" ∧ passed.username = "me" ∧
        uploads final.store.log = [([1], .ok passed.profileImage)] := by
  let signals : List (Signal cloud.logged) :=
    [.serve 0 (.answer [] ""), .deliver 0, .serve 0 (.answer [] ""), .serve 1 (.answer [] newImage),
      .deliver 1, .deliver 0, .serve 0 (.answer [] ""), .deliver 0, .serve 0 (.answer [] ""),
      .deliver 0, .serve 0 (.answer [] ""), .deliver 0]
  have done : (replay? (fun net signal => if True then net.signal? id signal else none)
      submitted signals).any
        (fun final => decide (final.flight.isEmpty = true ∧ Succeeded final.store.log)) = true := by
    decide +kernel
  obtain ⟨final, completes, succeeded⟩ := Network.exists_completes_of_replay? done
  have committed := @edits_committed _ final device shows 1 account owner 0 entered
    (some (.fullname, "last")) _ rfl rfl rfl (UserService.ofDictionary_data ..) (by decide)
    (by rintro image ⟨⟩; rfl) completes succeeded
  rw [if_neg (by simp [ended, entered])] at committed
  obtain ⟨passed, told, -, same, uploaded⟩ := committed
  refine ⟨final, completes, passed, told, ?_, ?_, uploaded⟩
  · rw [same]
    rfl
  · rw [same]
    rfl

/-- A picked image that cannot be encoded is not uploaded, and the delegate is told nothing. -/
theorem edits_not_committed :
    ¬ ∀ (change : Ref → User → App → App) (app : App) (self delegate : Ref) (user : User)
      (store : Logged firebase Cloud) (dictionary : Dictionary) (edits : List ProfileEdit)
      (editing : Option (EditProfileOptions × String)) (final : Network cloud.logged App Unit Unit),
      app.currentUser = some user.uid →
      app.find? EditProfileController self = some ⟨user, delegate, false, none⟩ →
      store.store.firestore.lookup (.user user.uid) = some dictionary →
      User.ofDictionary dictionary = { user with stats := ⟨0, 0, 0⟩, isFollowed := false } →
      isStorageURL user.profileImage = true →
      ((edits.foldl (fun net edit => net.launch id () (edit.code self))
        (Network.lone store app [] : Network cloud.logged App Unit Unit)).launch id ()
          (handleDoneWith (report change) self editing)).Completes id (fun _ => True) final →
      Succeeded final.store.log → ended edits editing ≠ [] →
      ∃ passed : User, final.clients () = some (change delegate passed
        ((edited app self user delegate (ended edits editing)).modify self (setUser passed))) := by
  intro claim
  -- a delegate that leaves a mark
  let mark : Ref → User → App → App := fun _ _ app => { app with now := ⟨1, 0⟩ }
  have done : (replay? (fun net signal => if True then net.signal? id signal else none)
      (([ProfileEdit.image ⟨none⟩].foldl (fun net edit => net.launch id () (edit.code 1))
        (Network.lone account device [] : Network cloud.logged App Unit Unit)).launch id ()
          (handleDoneWith (report mark) 1 none)) [.serve 0 (.answer [] ""), .deliver 0]).any
        (fun final => decide (final.flight.isEmpty = true ∧ Succeeded final.store.log ∧
          (final.clients ()).map App.now = some ⟨0, 0⟩)) = true := by
    decide +kernel
  obtain ⟨final, completes, succeeded, unmarked⟩ := Network.exists_completes_of_replay? done
  obtain ⟨passed, told⟩ := claim mark device 1 0 owner account _ _ none final rfl rfl rfl
    (UserService.ofDictionary_data ..) (by decide) completes succeeded (by simp [ended])
  rw [told] at unmarked
  simp [mark] at unmarked

end Examples

end CommittedEdits

end InstagramClone
