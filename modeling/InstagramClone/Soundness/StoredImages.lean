import InstagramClone.API.AuthService
import InstagramClone.API.NotificationService
import InstagramClone.API.PostService
import InstagramClone.Async.Hazard
import InstagramClone.Model.Contracts

/-! # Which profile images are stored, and which services trap on them

Devices register accounts, fetch users and save what they fetched, with changed names or with a
new image, in any order and with any outcome. Every profile image they store is the URL of an
uploaded object, or one that Google delivered at a sign-in. The service that replaces an image
traps on the latter, and when nothing has been sent of the new one as its upload shows its progress;
the one that clears a feed traps when its query fails; none of the others ever does.
-/

namespace InstagramClone

open Async

/-- A device that keeps the users it has fetched. -/
structure Editor where
  currentUser : Option Uid := none
  now : Timestamp := ⟨0, 0⟩
  googleProfile : Option GoogleProfile := none
  users : List User := []
deriving DecidableEq, Repr

instance : Device Editor where
  currentUser := Editor.currentUser
  setCurrentUser uid editor := { editor with currentUser := uid }
  now := Editor.now
  googleProfile := Editor.googleProfile

inductive EditorAction where
  | registerUser (credential : AuthCredentials)
  | registerGoogleUser (credential : AuthCredential) (profile : GoogleProfile)
  | loginUser (email password : String)
  | logoutUser
  | fetchUser (uid : Uid)
  | saveUserData (index : ℕ) (fullname username : String)
  | updateProfileImage (index : ℕ) (image : UIImage)

namespace EditorAction

/-- Go on with a user the device has fetched. -/
def withUser (index : ℕ) (body : User → Code Editor) : Code Editor :=
  .inspect fun editor =>
    match editor.users[index]? with
    | none => .done
    | some user => body user

def perform : EditorAction → Code Editor
  | registerUser credential => AuthService.registerUser credential fun _ => .done
  | registerGoogleUser credential profile =>
    .update (fun editor => { editor with googleProfile := some profile }) <|
    AuthService.registerGoogleUser credential fun _ => .done
  | loginUser email password => AuthService.loginUser email password fun _ => .done
  | logoutUser => AuthService.logoutUser
  | fetchUser uid => UserService.fetchUser uid fun user =>
      .update (fun editor => { editor with users := editor.users ++ [user] }) .done
  | saveUserData index fullname username => withUser index fun user =>
      UserService.saveUserData { user with fullname, username } fun _ => .done
  | updateProfileImage index image => withUser index fun user =>
      UserService.updateProfileImage user image fun
        | some profileImage, none =>
          .update (fun editor => { editor with
            users := editor.users.modify index fun user => { user with profileImage } }) .done
        | _, _ => .done

/-- The Google profile of a sign-in. -/
def profile? : EditorAction → Option GoogleProfile
  | registerGoogleUser _ profile => some profile
  | _ => none

end EditorAction

/-- The image that a Google sign-in stores. -/
def GoogleProfile.image (profile : GoogleProfile) : String := profile.imageURL.getD ""

/-- The images that Google delivered at the sign-ins among these events. -/
def googleImages {κ : Type} (events : List (Event cloud κ EditorAction)) : List String :=
  events.filterMap fun
    | .act _ action => action.profile?.map GoogleProfile.image
    | .signal _ => none

namespace StoredImages

/-- An image of an upload, or one that Google delivered. -/
def Known (google : String → Prop) (image : String) : Prop :=
  isStorageURL image = true ∨ google image

/-- A user's document has a known image. -/
def Pictured (google : String → Prop) : DocumentReference → Dictionary → Prop
  | .user _, data => Known google (data.string "profileImage")
  | _, _ => True

/-- The answer tells only of known images. -/
def Tells (google : String → Prop) : (request : Request) → request.Response → Prop
  | .getDocument (.user _), .ok (some data) => Known google (data.string "profileImage")
  | .downloadURL _, .ok url => isStorageURL url = true
  | _, _ => True

/-- Uploaded objects have URLs of the bucket, and users' documents known images. -/
structure Valid (google : String → Prop) (store : Cloud) : Prop where
  objects : ∀ object ∈ store.objects, isStorageURL object = true
  records : ∀ reference data, store.firestore.lookup reference = some data →
    Pictured google reference data

/-- Every image around is known. -/
def contract (google : String → Prop) (κ : Type) : Contract firebase Cloud Editor κ where
  invariant := Valid google
  evolves _ _ := True
  holds _ _ editor := (∀ user ∈ editor.users, Known google user.profileImage) ∧
    ∀ profile ∈ editor.googleProfile, google profile.image
  allows _ _ request := request.Puts (Pictured google)
  opens _ _ _ := True
  replies _ := Tells google
  reports _ _ _ := True
  mayTrap := True
  refl _ := trivial
  trans _ _ := trivial
  holds_mono _ valid := valid
  allows_mono _ allowed := allowed
  opens_mono _ _ := trivial

variable {google : String → Prop} {κ : Type}

/-- What a request that reaches the backend answers. -/
theorem tells_resolve {request : Request} {order : List DocumentReference} {fresh : String}
    {transfer : Transfer}
    {store next : Cloud} {answer : request.Response} (valid : Valid google store)
    (resolved : request.resolve order fresh transfer store = some (next, answer)) :
    Tells google request answer := by
  cases request with
  | getDocument reference =>
    obtain ⟨-, rfl⟩ := Prod.mk.inj (Option.some.inj resolved)
    cases reference with
    | user uid =>
      cases stored : store.firestore.lookup (.user uid) with
      | none => trivial
      | some data => exact valid.records _ _ stored
    | _ => trivial
  | downloadURL object =>
    simp only [Request.resolve] at resolved
    split_ifs at resolved with present
    · obtain ⟨-, rfl⟩ := Prod.mk.inj (Option.some.inj resolved)
      exact valid.objects object present
    · obtain ⟨-, rfl⟩ := Prod.mk.inj (Option.some.inj resolved)
      trivial
  | _ => trivial

private theorem lawful : Backend.Lawful cloud (contract google κ) fun _ => True where
  serve := by
    intro choice origin store request next answer _ valid allowed served
    rcases serve_cases served with ⟨rfl, error, transfer, rfl⟩ | ⟨order, fresh, transfer, resolved⟩
    · refine ⟨valid, trivial, ?_⟩
      cases request with
      | getDocument reference => cases reference <;> trivial
      | _ => trivial
    · refine ⟨⟨Request.resolve_isStorageURL resolved valid.objects, ?_⟩, trivial,
        tells_resolve valid resolved⟩
      rw [(Request.resolve_firestore resolved).1]
      exact allowed.apply valid.records fresh
  publish _ _ _ _ := trivial

variable {origin : κ} {store : Cloud}

private theorem keeps_uploadImage {image : UIImage} {completion : String → Code Editor}
    (keeps : ∀ later url, isStorageURL url = true →
      (completion url).Keeps (contract google κ) origin later) :
    (ImageUploaderService.uploadImage image completion).Keeps (contract google κ) origin store := by
  exact ImageUploaderService.keeps_uploadImage (fun _ => trivial) (fun _ _ _ _ _ => trivial)
    (fun _ _ _ _ _ _ _ => trivial) fun later _ url _ told => keeps later url told

/-- The data of a user with a known image. -/
theorem pictured_data {profileImage : String} (known : Known google profileImage)
    (email fullname : String) (uid owner : Uid) (username : String) :
    Pictured google (.user owner) (UserService.data email fullname profileImage uid username) := by
  simpa [Pictured, UserService.data, Dictionary.ofList, Dictionary.string, List.lookup_cons] using known

private theorem keeps_signedIn {completion : Except BackendError Uid → Code Editor}
    (keeps : ∀ later answer, (completion answer).Keeps (contract google κ) origin later)
    (later : Cloud) (answer : Except BackendError Uid) :
    (AuthService.signedIn completion answer).Keeps (contract google κ) origin later := by
  cases answer with
  | error error => exact keeps later _
  | ok uid => exact ⟨fun _ _ _ valid => valid, keeps later _⟩

private theorem keeps_registerUser (credential : AuthCredentials) :
    (EditorAction.registerUser credential).perform.Keeps (contract google κ) origin store := by
  change (AuthService.registerUser credential _).Keeps _ _ _
  unfold AuthService.registerUser
  split
  · refine keeps_uploadImage fun later url stored => ?_
    refine Code.keeps_call trivial fun second answer _ _ => keeps_signedIn ?_ second answer
    rintro third (error | uid)
    · trivial
    · exact Code.keeps_call (pictured_data (.inl stored) _ _ uid uid _) fun _ _ _ _ => trivial
  · trivial

private theorem keeps_registerGoogleUser {credential : AuthCredential} {profile : GoogleProfile}
    (delivered : google profile.image) :
    (EditorAction.registerGoogleUser credential profile).perform.Keeps (contract google κ) origin
      store := by
  refine ⟨fun _ editor _ valid => ⟨valid.1, fun _ same => Option.some.inj same ▸ delivered⟩,
    fun _ _ _ valid => valid, ?_⟩
  refine Code.keeps_call trivial fun second answer _ _ => keeps_signedIn ?_ second answer
  rintro third (error | uid)
  · trivial
  · intro fourth editor _ valid
    have shown : Device.googleProfile editor = editor.googleProfile := rfl
    cases held : editor.googleProfile with
    | none => simp only [shown, held, Program.keeps_done]
    | some profile =>
      simp only [shown, held]
      exact Code.keeps_call (pictured_data (.inr (valid.2 profile held)) _ _ uid uid _)
        fun _ _ _ _ => trivial

private theorem keeps_withUser {index : ℕ} {body : User → Code Editor}
    (keeps : ∀ later user, Known google user.profileImage →
      (body user).Keeps (contract google κ) origin later) :
    (EditorAction.withUser index body).Keeps (contract google κ) origin store := by
  intro later editor _ valid
  cases found : editor.users[index]? with
  | none => simp only [found, Program.keeps_done]
  | some user =>
    simp only [found]
    exact keeps later user (valid.1 user (List.mem_of_getElem? found))

private theorem keeps_updateProfileImage {index : ℕ} {image : UIImage} :
    (EditorAction.updateProfileImage index image).perform.Keeps (contract google κ) origin
      store := by
  refine keeps_withUser fun first user known => ?_
  refine Code.keeps_withCurrentUser fun second editor uid _ _ _ => ?_
  refine Program.Keeps.seq ?_ (keeps_uploadImage fun third url stored => ?_)
  · split_ifs
    · exact Program.keeps_post.mpr trivial
    · trivial
  have writes : Request.Puts (Pictured google)
      (.updateData (.user uid) (.ofList [("profileImage", .string url)])) := by
    intro before _
    rw [Pictured, Dictionary.string, Dictionary.updating_self]
    exact .inl stored
  refine Code.keeps_call writes fun fourth error _ _ => ?_
  cases error with
  | some error => trivial
  | none =>
    refine Program.Keeps.seq (Code.keeps_call trivial fun fifth answer _ _ => ?_) ?_
    · cases answer with
      | error => trivial
      | ok documents => exact Program.keeps_forEach fun _ _ => Program.keeps_post.mpr fun _ _ => trivial
    · refine ⟨fun later editor _ valid => ⟨fun user member => ?_, valid.2⟩, trivial⟩
      obtain ⟨place, at'⟩ := List.mem_iff_getElem?.mp member
      simp only [List.getElem?_modify] at at'
      obtain ⟨before, there, rfl⟩ := Option.map_eq_some_iff.mp at'
      split_ifs
      · exact .inl stored
      · exact valid.1 before (List.mem_of_getElem? there)

/-- Whatever the outcomes, an action stores only known images. -/
private theorem keeps_perform {action : EditorAction}
    (delivered : ∀ profile ∈ action.profile?, google profile.image) :
    action.perform.Keeps (contract google κ) origin store := by
  cases action with
  | registerUser credential => exact keeps_registerUser credential
  | registerGoogleUser credential profile => exact keeps_registerGoogleUser (delivered profile rfl)
  | loginUser email password =>
    refine Code.keeps_call trivial fun later answer _ _ => ?_
    cases answer with
    | error => trivial
    | ok uid => exact ⟨fun _ _ _ valid => valid, trivial⟩
  | logoutUser => exact ⟨fun _ _ _ valid => valid, trivial⟩
  | fetchUser uid =>
    refine Code.keeps_call trivial fun later answer _ told => ?_
    match answer, told with
    | .ok (some data), told =>
      refine ⟨fun last editor _ valid => ⟨fun user member => ?_, valid.2⟩, trivial⟩
      rcases List.mem_append.mp member with member | member
      · exact valid.1 user member
      · obtain rfl := List.mem_singleton.mp member
        exact told
    | .ok none, _ => trivial
    | .error _, _ => trivial
  | saveUserData index fullname username =>
    refine keeps_withUser fun first user known => ?_
    refine Code.keeps_withCurrentUser fun second editor uid _ _ _ => ?_
    exact Code.keeps_call (pictured_data known _ _ uid uid _) fun _ _ _ _ => trivial
  | updateProfileImage index image => exact keeps_updateProfileImage

/-- Nothing is stored, and the devices hold nothing. -/
structure Blank (start : Network cloud Editor κ κ) : Prop where
  records : ∀ uid, .user uid ∉ start.store.firestore
  objects : start.store.objects = []
  clients : ∀ client, ∀ editor ∈ start.clients client, editor.users = [] ∧
    editor.googleProfile = none
  flight : start.flight = []
  listeners : start.listeners = []

variable {start net : Network cloud Editor κ κ} {events : List (Event cloud κ EditorAction)}

private theorem Blank.sound (blank : Blank start) : start.Sound (contract google κ) id where
  store := by
    refine ⟨fun object member => ?_, fun reference data stored => ?_⟩
    · rw [blank.objects] at member
      cases member
    · cases reference with
      | user uid => exact (blank.records uid (Finmap.mem_of_lookup_eq_some stored)).elim
      | _ => trivial
  running _ _ := trivial
  clients client editor running := by
    obtain ⟨users, profile⟩ := blank.clients client editor running
    exact ⟨by simp [users], by simp [profile]⟩
  flight := by simp [blank.flight]
  listeners := by simp [blank.listeners]

/-- In every run, a stored profile image is one of an upload or one that Google delivered. -/
private theorem stored_image [DecidableEq κ] (blank : Blank start)
    (run : Run (fun net event next => net.event? EditorAction.perform event = some next) start
      events net) {uid : Uid} {data : Dictionary}
    (stored : net.store.firestore.lookup (.user uid) = some data) :
    Known (· ∈ googleImages events) (data.string "profileImage") := by
  have delivered : ∀ event ∈ events, ∀ client action, event = .act client action →
      ∀ profile ∈ action.profile?, profile.image ∈ googleImages events := by
    rintro _ member client action rfl profile signed
    exact List.mem_filterMap.mpr ⟨_, member, Option.map_eq_some_iff.mpr ⟨profile, signed, rfl⟩⟩
  have sound : net.Sound (contract (· ∈ googleImages events) κ) id :=
    (run.restrict delivered).invariant blank.sound fun taken sound =>
      (sound.event lawful (fun signal _ => by cases signal <;> trivial)
        (fun client action same state running =>
          (keeps_perform (taken.1 client action same)).run (sound.clients client state running))
        taken.2).1
  exact sound.store.records _ _ stored

end StoredImages

/-- The services that follow and edit profiles, for a user decoded from a document. -/
inductive ServiceCall where
  | follow
  | unFollow
  | updateUserFeed
  | removeUserFeed
  | saveUserData
  | updateProfileImage (image : UIImage)

/-- The request uploads an image. -/
def Request.uploads : Request → Bool
  | putData _ => true
  | _ => false

/-- The code can go on from the answer: the progress of an upload can be divided, and anything else
did not fail. -/
def Request.harmless : (request : Request) → request.Response → Bool
  | putData _, upload => upload.steady
  | request, answer => request.succeeded answer

/-- An upload that showed a progress which cannot be divided. -/
def Rough (entry : Served firebase) : Prop := entry.request.uploads = true ∧ entry.succeeded = false

namespace ServiceCall

def perform (user : User) : ServiceCall → Code Session
  | follow => UserService.follow user.uid fun _ => .done
  | unFollow => UserService.unFollow user.uid fun _ => .done
  | updateUserFeed => PostService.updateUserFeed user
  | removeUserFeed => PostService.removeUserFeed user
  | saveUserData => UserService.saveUserData user fun _ => .done
  | updateProfileImage image => UserService.updateProfileImage user image fun _ _ => .done

/-- A new image replaces one of the given kind, or its upload shows a progress that cannot be divided;
or the query for the posts to take out of the feed, the first request of that call, fails. -/
def Traps (foreign : String → Prop) (signedIn : Bool) (user : User)
    (served : List (Served firebase)) : ServiceCall → Prop
  | removeUserFeed => ∃ entry ∈ served.head?, entry.succeeded = false
  | updateProfileImage _ =>
    signedIn = true ∧ (foreign user.profileImage ∨ ∃ entry ∈ served, Rough entry)
  | _ => False

/-- A call of the backend that records what it serves, and whether the answer was harmless. -/
abbrev Calling := Network (cloud.recorded Request.harmless) Session Unit Unit

variable {store : Recorded firebase Cloud} {session : Session} {user : User} {call : ServiceCall}
  {final : Calling} {fatal : Served firebase → Prop}

private theorem trapsAt_withCurrentUser {body : Uid → Code Session}
    (traps : ∀ uid, (body uid).TrapsAt Request.harmless fatal) :
    (Code.withCurrentUser body).TrapsAt Request.harmless fatal := by
  intro session
  cases signedIn : Device.currentUser session with
  | none => simp only [signedIn, Program.TrapsAt]
  | some uid =>
    simp only [signedIn]
    exact traps uid

/-- A request with no fatal answer. -/
private theorem trapsAt_call {request : Request} {completion : request.Response → Code Session}
    (harmless : ∀ outcome, ¬ fatal ⟨request, outcome⟩)
    (traps : ∀ answer, (completion answer).TrapsAt Request.harmless fatal) :
    (Code.call request completion).TrapsAt Request.harmless fatal :=
  ⟨fun answer => ⟨fun deadly => absurd deadly (harmless _), fun _ => traps answer⟩, trivial⟩

/-- The two writes of a call. -/
private theorem trapsAt_pair {first second : Request} (harmless : ∀ entry, ¬ fatal entry) :
    (Code.call first fun _ => Code.call second fun _ => .done : Code Session).TrapsAt
      Request.harmless fatal :=
  trapsAt_call (fun _ => harmless _) fun _ => trapsAt_call (fun _ => harmless _) fun _ => trivial

/-- The replacement of an image of an upload traps at an upload whose progress cannot be divided. -/
private theorem trapsAt_updateProfileImage {image : UIImage}
    (url : isStorageURL user.profileImage = true) :
    ((updateProfileImage image).perform user).TrapsAt Request.harmless Rough := by
  refine trapsAt_withCurrentUser fun uid => Program.TrapsAt.seq ?_ ?_
  · rw [if_pos url]
    exact trapsAt_call (by simp [Rough, Request.uploads]) fun _ => trivial
  unfold ImageUploaderService.uploadImage
  cases image.jpegData with
  | none => trivial
  | some data =>
    refine ⟨fun upload => ?_, trivial⟩
    rcases ImageUploaderService.handleStored_cases _ upload with
      ⟨wild, same⟩ | ⟨steady, rest⟩
    · exact ⟨fun _ => same, fun harmless => absurd ⟨rfl, wild⟩ harmless⟩
    refine ⟨fun deadly => absurd (steady.symm.trans deadly.2) (by simp), fun _ => ?_⟩
    rcases rest with ⟨-, same⟩ | ⟨ref, -, same⟩
    · rw [same]
      trivial
    rw [same]
    refine trapsAt_call (by simp [Rough, Request.uploads]) fun located => ?_
    cases located with
    | error => trivial
    | ok url =>
      refine trapsAt_call (by simp [Rough, Request.uploads]) fun error => ?_
      cases error with
      | some error => trivial
      | none =>
        refine Program.TrapsAt.seq (trapsAt_call (by simp [Rough, Request.uploads]) fun answer => ?_) trivial
        cases answer with
        | error => trivial
        | ok documents => exact Program.trapsAt_posts (by simp [Rough, Request.uploads])

/-- Taking posts out of a feed traps exactly when the query for them fails. -/
private theorem removeUserFeed_traps_iff
    (completes : ((Network.lone store session [] : Calling).launch id ()
      (PostService.removeUserFeed user)).Completes id (fun _ => True) final)
    (nothing : store.served = []) :
    final.clients () = none ↔ ∃ entry ∈ final.store.served.head?, entry.succeeded = false := by
  cases signedIn : session.currentUser with
  | none =>
    obtain rfl := completes.launch_idle (Code.run_withCurrentUser_none signedIn _)
    simp [Network.lone, nothing]
  | some uid =>
    obtain ⟨_, choice, later, answer, -, served, completes⟩ :=
      completes.launch_call (Code.run_withCurrentUser signedIn _)
    obtain ⟨-, recorded⟩ := recorded_serve served
    obtain ⟨more, grown⟩ := completes.served
    have first : final.store.served.head? =
        some ⟨.getDocuments (PostService.ownedBy user.uid),
          Request.harmless (.getDocuments (PostService.ownedBy user.uid)) answer⟩ := by
      rw [← grown, Network.launch_store]
      simp [Network.lone, recorded, nothing]
    rw [first]
    cases answer with
    | error error =>
      exact iff_of_true (completes.launch_trap rfl).1 ⟨_, rfl, rfl⟩
    | ok documents =>
      have posts : Program.TrapsAt Request.harmless (fun _ => False) (.forEach documents fun document =>
          .post (.delete (.userFeed uid document.documentID)) : Code Session) :=
        Program.trapsAt_posts fun _ _ _ => id
      refine iff_of_false (by simp [completes.trapped_iff posts fun _ _ => id]) ?_
      rintro ⟨_, ⟨⟩, failed⟩
      cases failed

/-- With every outcome, a call traps exactly when the query of `removeUserFeed` fails, or a new image
replaces one that names no object of the bucket, or is uploaded with such a progress. -/
private theorem traps_iff_url (nothing : store.served = [])
    (completes : ((Network.lone store session [] : Calling).launch id () (call.perform user)).Completes
      id (fun _ => True) final) :
    final.clients () = none ↔ call.Traps (isStorageURL · = false) session.currentUser.isSome user
      final.store.served := by
  have never (traps : (call.perform user).TrapsAt Request.harmless fun _ => False) :
      final.clients () ≠ none := by
    simp [completes.trapped_iff traps fun _ _ => id]
  cases call with
  | follow =>
    exact iff_of_false (never (trapsAt_withCurrentUser fun _ => trapsAt_pair fun _ => id)) id
  | unFollow =>
    exact iff_of_false (never (trapsAt_withCurrentUser fun _ => trapsAt_pair fun _ => id)) id
  | saveUserData =>
    exact iff_of_false (never (trapsAt_withCurrentUser fun _ =>
      trapsAt_call (fun _ => id) fun _ => trivial)) id
  | updateUserFeed =>
    refine iff_of_false (never (trapsAt_withCurrentUser fun _ =>
      trapsAt_call (fun _ => id) fun answer => ?_)) id
    cases answer with
    | error => trivial
    | ok documents => exact Program.trapsAt_posts fun _ _ _ => id
  | removeUserFeed => exact removeUserFeed_traps_iff completes nothing
  | updateProfileImage image =>
    cases signedIn : session.currentUser with
    | none =>
      refine iff_of_false ?_ (by simp [Traps])
      rw [completes.launch_idle (Code.run_withCurrentUser_none signedIn _)]
      simp [Network.lone]
    | some uid =>
      cases url : isStorageURL user.profileImage with
      | true =>
        rw [completes.trapped_iff (trapsAt_updateProfileImage url) (by simp [nothing])]
        simp [Traps, url]
      | false =>
        refine iff_of_true (completes.launch_trap ?_).1 (by simp [Traps, url])
        rw [perform, UserService.updateProfileImage, Code.run_withCurrentUser signedIn,
          if_neg (by simp [url])]
        rfl

/-- For every user's document that devices can store, and every outcome, a call traps exactly when
the query of `removeUserFeed` fails, or a new image replaces one that Google delivered, or its upload
shows a progress that cannot be divided. -/
theorem traps_iff {κ : Type} [DecidableEq κ] {start net : Network cloud Editor κ κ}
    {events : List (Event cloud κ EditorAction)} {uid : Uid} {data : Dictionary}
    (blank : StoredImages.Blank start)
    (run : Run (fun net event next => net.event? EditorAction.perform event = some next) start
      events net)
    (outside : ∀ image ∈ googleImages events, isStorageURL image = false)
    (stored : net.store.firestore.lookup (.user uid) = some data)
    (shown : user.profileImage = data.string "profileImage") (nothing : store.served = [])
    (completes : ((Network.lone store session [] : Calling).launch id () (call.perform user)).Completes
      id (fun _ => True) final) :
    final.clients () = none ↔ call.Traps (· ∈ googleImages events) session.currentUser.isSome user
      final.store.served := by
  have foreign : isStorageURL user.profileImage = false ↔
      user.profileImage ∈ googleImages events := by
    refine ⟨fun url => ?_, outside _⟩
    rcases StoredImages.stored_image blank run stored with upload | google
    · rw [← shown, url] at upload
      cases upload
    · exact shown ▸ google
  rw [traps_iff_url nothing completes]
  cases call <;> simp [Traps, foreign]

/-- One device that holds nothing, before anything is stored. -/
def phone : Network cloud Editor Unit Unit where
  store := {}
  clients _ := some {}

private theorem blank_phone : StoredImages.Blank phone :=
  ⟨fun _ => Finmap.notMem_empty, rfl, fun _ editor same => by
    obtain rfl := Option.some.inj same
    exact ⟨rfl, rfl⟩, rfl, rfl⟩

/-- The device registers, and the backend draws these names. -/
def registering (action : EditorAction) (drawn : List String) :
    List (Event cloud Unit EditorAction) :=
  .act () action :: drawn.flatMap fun fresh =>
    [.signal (.serve 0 (.answer [] fresh)), .signal (.deliver 0)]

/-- The address of an upload, and a user whose image it is. -/
def photo : String := "gs://" ++ storageBucket ++ "/photo"

def pictured : User := ⟨"", "", photo, "", "u", ⟨0, 0, 0⟩, false⟩

/-- The device registers with an image. -/
def enrolling : List (Event cloud Unit EditorAction) :=
  registering (.registerUser ⟨"u@mail", some "secret", "", "u", some ⟨some [0]⟩, none⟩)
    [photo, "", "u", ""]

/-- An image of an upload is replaced; the deletion fails, the upload does not, and nothing traps. -/
theorem traps_iff_upload :
    ∃ final, ((Network.lone ⟨{}, []⟩ { currentUser := some "u" } [] : Calling).launch id ()
        ((updateProfileImage ⟨some [0]⟩).perform pictured)).Completes id (fun _ => True) final ∧
      (final.clients () = none ↔ (updateProfileImage ⟨some [0]⟩).Traps (· ∈ ([] : List String))
        true pictured final.store.served) := by
  have registers : (replay? (Network.event? EditorAction.perform) phone enrolling).any (fun net =>
      decide ((net.store.firestore.lookup (.user "u")).map (· "profileImage") =
        some (some (.string photo)))) = true := by
    decide +kernel
  obtain ⟨net, run, stored⟩ := exists_run_of_replay? registers
  obtain ⟨data, stored, image⟩ := Option.map_eq_some_iff.mp stored
  have uploads : (replay? (fun net signal => if True then Network.signal? id net signal else none)
      ((Network.lone ⟨{}, []⟩ { currentUser := some "u" } [] : Calling).launch id ()
        ((updateProfileImage ⟨some [0]⟩).perform pictured))
      [.serve 0 (.fail .permissionDenied), .serve 1 (.answer [] (photo ++ "2")), .deliver 0,
        .deliver 0, .serve 0 (.answer [] ""), .deliver 0, .serve 0 (.answer [] ""),
        .deliver 0]).any (fun final => decide (final.flight.isEmpty = true ∧ True)) = true := by
    decide +kernel
  obtain ⟨final, completes, -⟩ := Network.exists_completes_of_replay? uploads
  have none : googleImages enrolling = [] := rfl
  have shown : pictured.profileImage = data.string "profileImage" := by
    simp [Dictionary.string, image, pictured]
  have iff := traps_iff blank_phone run (by simp [none]) stored shown rfl completes
  rw [none] at iff
  exact ⟨final, completes, iff⟩

/-- An account that came from Google has its image replaced. -/
theorem not_traps :
    ¬ ∀ (κ : Type) [DecidableEq κ] (start net : Network cloud Editor κ κ)
      (events : List (Event cloud κ EditorAction)) (uid : Uid) (data : Dictionary) (user : User)
      (store : Recorded firebase Cloud) (session : Session) (call : ServiceCall) (final : Calling),
      StoredImages.Blank start →
      Run (fun net event next => net.event? EditorAction.perform event = some next) start events
        net →
      (∀ image ∈ googleImages events, isStorageURL image = false) →
      net.store.firestore.lookup (.user uid) = some data →
      user.profileImage = data.string "profileImage" → store.served = [] →
      ((Network.lone store session [] : Calling).launch id () (call.perform user)).Completes
        id (fun _ => True) final → final.clients () ≠ none := by
  intro claim
  let url := "https://lh3.googleusercontent.com/photo"
  let user : User := ⟨"", "", url, "", "u", ⟨0, 0, 0⟩, false⟩
  let events := registering (.registerGoogleUser ⟨"g"⟩ ⟨"u@mail", "", some url⟩) ["u", ""]
  have registers : (replay? (Network.event? EditorAction.perform) phone events).any (fun net =>
      decide ((net.store.firestore.lookup (.user "u")).map (· "profileImage") =
        some (some (.string url)))) = true := by
    decide +kernel
  obtain ⟨net, run, stored⟩ := exists_run_of_replay? registers
  obtain ⟨data, stored, image⟩ := Option.map_eq_some_iff.mp stored
  have traps : (replay? (fun net signal => if True then Network.signal? id net signal else none)
      ((Network.lone ⟨{}, []⟩ { currentUser := some "u" } [] : Calling).launch id ()
        ((updateProfileImage ⟨none⟩).perform user)) []).any (fun final =>
          decide (final.flight.isEmpty = true ∧ final.clients () = none)) = true := by
    decide +kernel
  obtain ⟨final, completes, trapped⟩ := Network.exists_completes_of_replay? traps
  have outside : ∀ image ∈ googleImages events, isStorageURL image = false := by
    intro image member
    obtain rfl := List.mem_singleton.mp member
    decide +kernel
  exact claim Unit phone net events "u" data user _ _ _ final blank_phone run outside stored
    (by simp [Dictionary.string, image, user]) rfl completes trapped

end ServiceCall

end InstagramClone
