import InstagramClone.Async.Custody
import InstagramClone.Soundness.StoredImages

/-! # The image of an account names a stored object

Devices of one account replace its image, any number of times and overlapping. Each call deletes
the old image first and never waits for that, so the account's document names a stored object only
as long as every call that gets as far as deleting also gets to the end, which no call does that is
in the middle of it when an upload stops the app. A new image is in the custody of its call until
the document names it, and only images that the document has named are ever deleted.
-/

namespace InstagramClone

open Async

/-- A call of a device. It spares the old image when that is not deleted in this call, because the
deletion fails or the object is gone already. -/
structure ImageOrigin (κ : Type) where
  device : κ
  spares : Bool
deriving DecidableEq, Repr

/-- What a device of the account does: fetch the account's document, or replace the image of a
copy it has fetched. -/
inductive ImageAction where
  | fetchUser
  | updateProfileImage (index : ℕ) (image : UIImage)

def ImageAction.perform (uid : Uid) : ImageAction → Code Editor
  | fetchUser => (EditorAction.fetchUser uid).perform
  | updateProfileImage index image => (EditorAction.updateProfileImage index image).perform

/-- The image, if any, can be encoded. -/
def ImageAction.encodes : ImageAction → Bool
  | fetchUser => true
  | updateProfileImage _ image => image.jpegData.isSome

/-- The image that the account's document names. -/
def Cloud.image? (cloud : Cloud) (uid : Uid) : Option String :=
  (cloud.firestore.lookup (.user uid)).map fun data => data.string "profileImage"

namespace ImagePresence

/-- The request is one of those that lead from a new image to the account's document. -/
def leads : Request → Bool
  | .putData _ | .downloadURL _ | .updateData (.user _) _ => true
  | _ => false

section Events

variable {κ : Type} [DecidableEq κ]

/-- The object that the request deletes. -/
def deleted? : Request → Option String
  | .deleteObject object => some object
  | _ => none

/-- The outcome of a request fits its call: no upload shows a progress that stops the app, a call that
spares the old image does not delete it, and in any other all requests that lead to the document
succeed. -/
def Fits (store : Cloud) (choice : Choice) (spares : Bool) (request : Request) : Prop :=
  choice.steady = true ∧
  (∀ object ∈ deleted? request, choice.succeeds = true → object ∈ store.objects →
    spares = false) ∧
  (leads request = true → choice.succeeds = true ∨ spares = true)

instance (store : Cloud) (choice : Choice) (spares : Bool) (request : Request) :
    Decidable (Fits store choice spares request) :=
  inferInstanceAs (Decidable (choice.steady = true ∧ (∀ object ∈ deleted? request,
    choice.succeeds = true → object ∈ store.objects → spares = false) ∧
    (leads request = true → choice.succeeds = true ∨ spares = true)))

/-- The event is one of calls that spare the old image or get to the end. -/
def Fitting (net : Network cloud Editor (ImageOrigin κ) κ) :
    Event cloud (ImageOrigin κ) ImageAction → Prop
  | .act origin action => action.encodes = true ∨ origin.spares = true
  | .signal (.serve index choice) => ∀ pending ∈ net.flight[index]?,
      Fits net.store choice pending.origin.spares pending.call.request
  | .signal _ => True

instance (net : Network cloud Editor (ImageOrigin κ) κ)
    (event : Event cloud (ImageOrigin κ) ImageAction) : Decidable (Fitting net event) :=
  match event with
  | .act origin action => inferInstanceAs (Decidable (action.encodes = true ∨ origin.spares = true))
  | .signal (.serve index choice) => inferInstanceAs (Decidable (∀ pending ∈ net.flight[index]?,
      Fits net.store choice pending.origin.spares pending.call.request))
  | .signal (.deliver _) | .signal (.notify ..) => inferInstanceAs (Decidable True)

/-- One event of the account's devices. -/
def step? (uid : Uid) (net : Network cloud Editor (ImageOrigin κ) κ) :
    Event cloud (ImageOrigin κ) ImageAction → Option (Network cloud Editor (ImageOrigin κ) κ)
  | .act origin action => some (net.launch ImageOrigin.device origin (action.perform uid))
  | .signal signal => net.signal? ImageOrigin.device signal

/-- The account is registered, its devices are signed in, and nothing is under way. -/
structure Registered (uid : Uid) (start : Network cloud Editor (ImageOrigin κ) κ) : Prop where
  image : ∃ image ∈ start.store.objects, start.store.image? uid = some image
  objects : ∀ object ∈ start.store.objects, isStorageURL object = true
  clients : ∀ device, ∃ editor, start.clients device = some editor ∧
    editor.currentUser = some uid ∧ editor.users = []
  flight : start.flight = []
  listeners : start.listeners = []

end Events

/-- The data of an update that names a new image. -/
def imageFields (url : String) : Dictionary := .ofList [("profileImage", .string url)]

@[simp] theorem imageFields_string (url : String) :
    (imageFields url).string "profileImage" = url := by
  simp [imageFields, Dictionary.ofList, Dictionary.string]

abbrev Store := Recorded firebase Cloud

/-- The account's document names the image, or has named it. -/
def Published (uid : Uid) (first : String) (state : Store) (url : String) : Prop :=
  isStorageURL url = true ∧ (url = first ∨ ∃ entry ∈ state.served,
    entry.request = .updateData (.user uid) (imageFields url) ∧ entry.succeeded = true)

/-- The name of an object, now or before. -/
def Drawn (store : Cloud) (url : String) : Prop :=
  isStorageURL url = true ∧ (url ∈ store.objects ∨ url ∈ store.deleted)

/-- What a call may ask for: only images that were published are deleted. -/
def Allows (uid : Uid) (first : String) (state : Store) : Request → Prop
  | .deleteObject url => Published uid first state url
  | .updateData (.user other) fields => other = uid ∧
      ∃ url, fields = imageFields url ∧ Drawn state.store url
  | .getDocument reference => reference = .user uid
  | .updateData (.post _) _ | .putData _ | .downloadURL _ | .getDocuments _ => True
  | _ => False

/-- What the answers tell. -/
def Tells (uid : Uid) (first : String) (state : Store) : (request : Request) → request.Response → Prop
  | .getDocument (.user other), .ok (some data) => other = uid →
      Published uid first state (data.string "profileImage")
  | .putData _, upload =>
    upload.steady = true ∧ ∀ url, upload.result = .ok url → Drawn state.store url
  | .downloadURL _, .ok url => Drawn state.store url
  | .updateData (.user other) fields, none => other = uid → ∀ url, fields = imageFields url →
      isStorageURL url = true → Published uid first state url
  | _, _ => True

structure Valid (uid : Uid) (first : String) (state : Store) : Prop where
  record : ∃ image, state.store.image? uid = some image ∧ Published uid first state image
  drawn : ∀ url, Published uid first state url → Drawn state.store url
  objects : ∀ object ∈ state.store.objects, isStorageURL object = true

variable {uid : Uid} {first : String} {before after : Store}

private theorem Published.mono {url : String} (grown : before.served <+: after.served)
    (published : Published uid first before url) : Published uid first after url :=
  ⟨published.1, published.2.imp id fun ⟨entry, member, rest⟩ =>
    ⟨entry, grown.subset member, rest⟩⟩

private theorem Allows.mono {request : Request} (grown : before.served <+: after.served)
    (drawn : ∀ url, Drawn before.store url → Drawn after.store url)
    (allowed : Allows uid first before request) : Allows uid first after request := by
  cases request with
  | deleteObject url => exact Published.mono grown allowed
  | updateData reference fields =>
    cases reference with
    | user other =>
      obtain ⟨same, url, named, known⟩ := allowed
      exact ⟨same, url, named, drawn url known⟩
    | post id => trivial
    | _ => exact allowed
  | _ => exact allowed

/-- The images of the account's document, and the copies that devices hold of it, were published;
no device traps. -/
def contract (uid : Uid) (first : String) (τ : Type) : Contract firebase Store Editor τ where
  invariant := Valid uid first
  evolves before after := before.served <+: after.served ∧
    ∀ url, Drawn before.store url → Drawn after.store url
  holds _ state editor := editor.currentUser = some uid ∧
    ∀ user ∈ editor.users, Published uid first state user.profileImage
  allows _ state := Allows uid first state
  opens _ _ _ := False
  replies := Tells uid first
  reports _ _ _ := True
  mayTrap := False
  refl _ := ⟨List.prefix_refl _, fun _ => id⟩
  trans first second := ⟨first.1.trans second.1, fun url drawn => second.2 url (first.2 url drawn)⟩
  holds_mono evolves valid :=
    ⟨valid.1, fun user member => (valid.2 user member).mono evolves.1⟩
  allows_mono evolves allowed := allowed.mono evolves.1 evolves.2
  opens_mono _ opened := opened

/-- The images whose names only their call knows. -/
def names : Names firebase String where
  asks
    | .downloadURL url => some url
    | .updateData (.user _) fields => some (fields.string "profileImage")
    | _ => none
  tells
    | .putData _, upload => upload.result.toOption
    | .downloadURL _, .ok url => some url
    | _, _ => none

/-- The request deletes no object. -/
def Sparing (request : Request) : Prop := ∀ object, request ≠ .deleteObject object

/-- An update of the account's document. -/
def Naming (uid : Uid) (request : Request) : Prop :=
  ∃ fields, request = .updateData (.user uid) fields

/-- Requests that lead to the document are answered well when they succeed, all others always. -/
def Good (request : Request) (answer : request.Response) : Prop :=
  leads request = true → request.succeeded answer = true

section Serve

variable {state next : Store} {request : Request} {answer : request.Response} {choice : Choice}

/-- An image is published by the update that names it, and by nothing else. -/
private theorem published_serve {url : String}
    (served : (cloud.recorded Request.succeeded).serve choice state request = some (next, answer)) :
    Published uid first next url ↔ Published uid first state url ∨ isStorageURL url = true ∧
      request = .updateData (.user uid) (imageFields url) ∧ request.succeeded answer = true := by
  rw [Published, Published, (recorded_serve served).2]
  simp only [List.mem_append, List.mem_singleton, or_and_right, exists_or, exists_eq_left]
  rw [← and_or_left, or_assoc]

/-- Objects that were drawn stay so. -/
private theorem drawn_serve
    (served : cloud.serve choice state.store request = some (next.store, answer)) {url : String}
    (drawn : Drawn state.store url) : Drawn next.store url := by
  refine ⟨drawn.1, ?_⟩
  rcases serve_cases served with ⟨same, -⟩ | ⟨order, fresh, transfer, resolved⟩
  · exact same ▸ drawn.2
  · cases request with
    | putData data =>
      simp only [Request.resolve] at resolved
      split_ifs at resolved
      rw [← (Prod.mk.inj (Option.some.inj resolved)).1]
      exact drawn.2.imp (List.mem_cons_of_mem _) id
    | deleteObject object =>
      simp only [Request.resolve] at resolved
      split_ifs at resolved
      · rw [← (Prod.mk.inj (Option.some.inj resolved)).1]
        by_cases same : url = object
        · exact .inr (same ▸ List.mem_cons_self ..)
        · exact drawn.2.imp (fun member => List.mem_filter.mpr ⟨member, by simpa using same⟩)
            (List.mem_cons_of_mem _)
      · rw [← (Prod.mk.inj (Option.some.inj resolved)).1]
        exact drawn.2
    | _ =>
      obtain ⟨objects, deleted⟩ := Request.resolve_objects rfl resolved
      rw [objects, deleted]
      exact drawn.2

/-- The image that the account's document names after a request that its calls issue. -/
private theorem image_serve (record : (state.store.image? uid).isSome = true)
    (allowed : Allows uid first state request)
    (served : cloud.serve choice state.store request = some (next.store, answer)) :
    (next.store.image? uid = state.store.image? uid ∧
      (Naming uid request → request.succeeded answer = false)) ∨
      ∃ url, request = .updateData (.user uid) (imageFields url) ∧ Drawn state.store url ∧
        next.store.image? uid = some url ∧ request.succeeded answer = true := by
  rcases serve_cases served with ⟨same, error, transfer, rfl⟩ | ⟨order, fresh, transfer, resolved⟩
  · refine .inl ⟨congrArg (Cloud.image? · uid) same, ?_⟩
    rintro ⟨fields, rfl⟩
    rfl
  have firestore := (Request.resolve_firestore resolved).1
  have apart (other : ¬ request.Touches (.user uid)) :
      next.store.image? uid = state.store.image? uid ∧
        (Naming uid request → request.succeeded answer = false) := by
    refine ⟨?_, ?_⟩
    · rw [Cloud.image?, Cloud.image?, firestore, Request.lookup_apply other]
    · rintro ⟨fields, rfl⟩
      exact (other rfl).elim
  cases request with
  | updateData reference fields =>
    cases reference with
    | user other =>
      obtain ⟨rfl, url, rfl, drawn⟩ := allowed
      obtain ⟨data, stored⟩ : ∃ data, state.store.firestore.lookup (.user other) = some data := by
        simpa [Cloud.image?, Option.isSome_iff_exists] using record
      simp only [Request.resolve, stored] at resolved
      obtain ⟨-, rfl⟩ := Prod.mk.inj (Option.some.inj resolved)
      refine .inr ⟨url, rfl, drawn, ?_, rfl⟩
      rw [Cloud.image?, firestore]
      simp [Request.apply, stored, imageFields, Dictionary.string, Dictionary.updating_self]
    | post id => exact .inl (apart (by simp [Request.Touches]))
    | _ => exact allowed.elim
  | deleteObject | getDocument | putData | downloadURL | getDocuments => exact .inl (apart id)
  | _ => exact allowed.elim

/-- Only a deletion that reaches the backend takes an object away. -/
private theorem objects_serve
    (served : cloud.serve choice state.store request = some (next.store, answer)) {url : String}
    (stored : url ∈ state.store.objects) :
    url ∈ next.store.objects ∨ request = .deleteObject url ∧ choice.succeeds = true := by
  cases choice with
  | fail error =>
    obtain ⟨same, -⟩ := Prod.mk.inj (Option.some.inj served)
    exact .inl (same ▸ stored)
  | snapshot => cases served
  | answer order fresh transfer =>
    have resolved : request.resolve order fresh transfer state.store = some (next.store, answer) :=
      served
    cases request with
    | putData data =>
      simp only [Request.resolve] at resolved
      split_ifs at resolved
      rw [← (Prod.mk.inj (Option.some.inj resolved)).1]
      exact .inl (List.mem_cons_of_mem _ stored)
    | deleteObject object =>
      by_cases same : url = object
      · exact .inr ⟨same ▸ rfl, rfl⟩
      · simp only [Request.resolve] at resolved
        split_ifs at resolved
        · rw [← (Prod.mk.inj (Option.some.inj resolved)).1]
          exact .inl (List.mem_filter.mpr ⟨stored, by simpa using same⟩)
        · rw [← (Prod.mk.inj (Option.some.inj resolved)).1]
          exact .inl stored
    | _ =>
      rw [(Request.resolve_objects rfl resolved).1]
      exact .inl stored

/-- An answer tells of the object it was asked about, or of a new one. -/
private theorem told_serve
    (served : cloud.serve choice state.store request = some (next.store, answer)) {url : String}
    (told : names.tells request answer = some url) :
    url ∈ next.store.objects ∧ (names.asks request = some url ∨ url ∉ state.store.objects ∧
      url ∉ state.store.deleted) ∧ ∀ uid, ¬ Naming uid request := by
  rcases serve_cases served with ⟨-, error, transfer, rfl⟩ | ⟨order, fresh, transfer, resolved⟩
  · cases request <;> cases told
  cases request with
  | putData data =>
    simp only [Request.resolve] at resolved
    split_ifs at resolved with fits
    obtain ⟨store, rfl⟩ := Prod.mk.inj (Option.some.inj resolved)
    obtain rfl : fresh = url := Option.some.inj told
    exact ⟨store ▸ List.mem_cons_self .., .inr fits.2, by rintro _ ⟨_, ⟨⟩⟩⟩
  | downloadURL object =>
    simp only [Request.resolve] at resolved
    split_ifs at resolved with present
    · obtain ⟨store, rfl⟩ := Prod.mk.inj (Option.some.inj resolved)
      obtain rfl := Option.some.inj told
      exact ⟨store ▸ present, .inl rfl, by rintro _ ⟨_, ⟨⟩⟩⟩
    · obtain ⟨-, rfl⟩ := Prod.mk.inj (Option.some.inj resolved)
      cases told
  | _ => cases told

private theorem tells_serve (steady : choice.steady = true) (valid : Valid uid first state)
    (allowed : Allows uid first state request)
    (served : (cloud.recorded Request.succeeded).serve choice state request = some (next, answer)) :
    Tells uid first next request answer := by
  obtain ⟨plain, recorded⟩ := recorded_serve served
  cases request with
  | getDocument reference =>
    obtain rfl : reference = .user uid := allowed
    rcases serve_cases plain with ⟨-, error, transfer, rfl⟩ | ⟨order, fresh, transfer, resolved⟩
    · trivial
    obtain ⟨-, rfl⟩ := Prod.mk.inj (Option.some.inj resolved)
    cases stored : state.store.firestore.lookup (.user uid) with
    | none => trivial
    | some data =>
      intro _
      obtain ⟨image, named, published⟩ := valid.record
      obtain rfl : data.string "profileImage" = image := by simpa [Cloud.image?, stored] using named
      exact published.mono ⟨_, recorded.symm⟩
  | putData data =>
    refine ⟨Request.steady_serve steady plain, fun url uploaded => ?_⟩
    rcases serve_cases plain with ⟨-, error, transfer, rfl⟩ | ⟨order, fresh, transfer, resolved⟩
    · cases uploaded
    simp only [Request.resolve] at resolved
    split_ifs at resolved with fits
    obtain ⟨store, rfl⟩ := Prod.mk.inj (Option.some.inj resolved)
    obtain rfl := Except.ok.inj uploaded
    exact ⟨fits.1, .inl (store ▸ List.mem_cons_self ..)⟩
  | downloadURL object =>
    rcases serve_cases plain with ⟨-, error, transfer, rfl⟩ | ⟨order, fresh, transfer, resolved⟩
    · trivial
    simp only [Request.resolve] at resolved
    split_ifs at resolved with present
    · obtain ⟨store, rfl⟩ := Prod.mk.inj (Option.some.inj resolved)
      exact ⟨valid.objects object present, .inl (store ▸ present)⟩
    · obtain ⟨-, rfl⟩ := Prod.mk.inj (Option.some.inj resolved)
      trivial
  | updateData reference fields =>
    cases reference with
    | user other =>
      cases answer with
      | some error => trivial
      | none =>
        rintro rfl url rfl storage
        exact (published_serve served).mpr (.inr ⟨storage, rfl, rfl⟩)
    | _ => trivial
  | _ => trivial

private theorem lawful {τ : Type} : Backend.Lawful (cloud.recorded Request.succeeded)
    (contract uid first τ) fun choice => choice.steady = true where
  serve := by
    intro choice origin state request next answer steady valid allowed served
    obtain ⟨plain, recorded⟩ := recorded_serve served
    have grown : state.served <+: next.served := ⟨_, recorded.symm⟩
    refine ⟨⟨?_, ?_, ?_⟩, ⟨grown, fun _ => drawn_serve plain⟩,
      tells_serve steady valid allowed served⟩
    · obtain ⟨image, named, published⟩ := valid.record
      rcases image_serve (by simp [named]) allowed plain with ⟨same, -⟩ |
        ⟨url, asked, drawn, named, done⟩
      · exact ⟨image, same.trans named, published.mono grown⟩
      · exact ⟨url, named, (published_serve served).mpr (.inr ⟨drawn.1, asked, done⟩)⟩
    · intro url published
      rcases (published_serve served).mp published with published | ⟨storage, asked, -⟩
      · exact drawn_serve plain (valid.drawn url published)
      · subst asked
        obtain ⟨-, other, same, drawn⟩ := allowed
        obtain rfl : url = other := by
          rw [← imageFields_string url, same, imageFields_string]
        exact drawn_serve plain drawn
    · rcases serve_cases plain with ⟨same, -⟩ | ⟨order, fresh, transfer, resolved⟩
      · exact same ▸ valid.objects
      · exact Request.resolve_isStorageURL resolved valid.objects
  publish _ _ _ _ := trivial

end Serve

section Keeps

variable {τ : Type} {origin : τ} {store : Store} {user : User} {index : ℕ} {image : UIImage}

/-- The update of the account's document, with what follows it. -/
private theorem keeps_named {completion : Option BackendError → Code Editor} {url : String}
    (drawn : Drawn store.store url)
    (keeps : ∀ later error, (error = none → Published uid first later url) →
      (completion error).Keeps (contract uid first τ) origin later) :
    (Code.call (.updateData (.user uid) (imageFields url)) completion).Keeps (contract uid first τ)
      origin store := by
  refine Code.keeps_call ⟨rfl, url, rfl, drawn⟩ fun later error _ told => ?_
  refine keeps later error ?_
  rintro rfl
  exact told rfl url rfl drawn.1

private theorem keeps_uploadImage {completion : String → Code Editor}
    (keeps : ∀ later url, Drawn later.store url →
      (completion url).Keeps (contract uid first τ) origin later) :
    (ImageUploaderService.uploadImage image completion).Keeps (contract uid first τ) origin
      store :=
  ImageUploaderService.keeps_uploadImage (fun _ => trivial)
    (fun _ _ _ told wild => absurd (told.1.symm.trans wild) (by simp))
    (fun _ _ _ _ _ _ _ => trivial) fun later _ url _ told => keeps later url told

private theorem keeps_perform (action : ImageAction) :
    (action.perform uid).Keeps (contract uid first τ) origin store := by
  cases action with
  | fetchUser =>
    refine Code.keeps_call rfl fun later answer _ told => ?_
    match answer, told with
    | .ok (some data), told =>
      refine ⟨fun last editor evolves valid => ⟨valid.1, fun user member => ?_⟩, trivial⟩
      rcases List.mem_append.mp member with member | member
      · exact valid.2 user member
      · obtain rfl := List.mem_singleton.mp member
        exact (told rfl).mono evolves.1
    | .ok none, _ => trivial
    | .error _, _ => trivial
  | updateProfileImage index image =>
    intro second editor _ valid
    cases found : editor.users[index]? with
    | none => simp only [found, Program.keeps_done]
    | some user =>
      simp only [found]
      have published := valid.2 user (List.mem_of_getElem? found)
      refine Code.keeps_withCurrentUser fun third other current evolves holds signedIn => ?_
      obtain rfl : uid = current := Option.some.inj (holds.1.symm.trans signedIn)
      refine Program.Keeps.seq ?_ (keeps_uploadImage fun fourth url drawn => ?_)
      · rw [if_pos published.1]
        exact Program.keeps_post.mpr (published.mono evolves.1)
      · refine keeps_named drawn fun fifth error named => ?_
        cases error with
        | some error => trivial
        | none =>
          refine Program.Keeps.seq (Code.keeps_call trivial fun sixth answer _ _ => ?_) ?_
          · cases answer with
            | error => trivial
            | ok documents =>
              exact Program.keeps_forEach fun _ _ => Program.keeps_post.mpr trivial
          · refine ⟨fun last editor evolves valid => ⟨valid.1, fun user member => ?_⟩, trivial⟩
            obtain ⟨place, found⟩ := List.mem_iff_getElem?.mp member
            simp only [List.getElem?_modify] at found
            obtain ⟨before, there, rfl⟩ := Option.map_eq_some_iff.mp found
            split_ifs
            · exact (named rfl).mono evolves.1
            · exact valid.2 before (List.mem_of_getElem? there)

end Keeps

section Custody

variable {image : UIImage} {completion : String → Code Editor}

private theorem threads_uploadImage
    (threads : ∀ url, (completion url).Threads names Sparing (some url)) :
    (ImageUploaderService.uploadImage image completion).Threads names Sparing none := by
  unfold ImageUploaderService.uploadImage
  cases image.jpegData with
  | none => trivial
  | some data =>
    refine ⟨nofun, .inl ⟨rfl, trivial⟩, fun upload => ?_⟩
    rcases ImageUploaderService.handleStored_cases completion upload with
      ⟨-, same⟩ | ⟨-, ⟨-, same⟩ | ⟨ref, stored, same⟩⟩
    · exact same ▸ trivial
    · exact same ▸ trivial
    have told : names.tells (.putData data) upload = some ref := by
      simp [names, stored, Except.toOption]
    rw [same, told]
    refine ⟨nofun, .inr ⟨rfl, trivial⟩, fun url => ?_⟩
    cases url with
    | error => trivial
    | ok url => exact threads url

private theorem pursues_uploadImage (encodes : image.jpegData.isSome = true)
    (pursues : ∀ url, (completion url).Pursues Good (Naming uid)) :
    (ImageUploaderService.uploadImage image completion).Pursues Good (Naming uid) := by
  unfold ImageUploaderService.uploadImage
  obtain ⟨data, encoded⟩ := Option.isSome_iff_exists.mp encodes
  rw [encoded]
  refine .inr (.inl fun upload well => ?_)
  have well : (upload.steady && upload.result.isOk) = true := well rfl
  rcases ImageUploaderService.handleStored_cases completion upload with
    ⟨wild, -⟩ | ⟨-, ⟨⟨error, failed⟩, -⟩ | ⟨ref, -, same⟩⟩
  · simp [wild] at well
  · simp [failed, Except.isOk, Except.toBool] at well
  · rw [same]
    refine .inr (.inl fun url well => ?_)
    cases url with
    | error => cases well rfl
    | ok url => exact pursues url

/-- What replacing the image of a copy issues: the deletion of the old one, and the upload. -/
private theorem run_updateProfileImage {editor : Editor} (signedIn : editor.currentUser = some uid)
    (urls : ∀ user ∈ editor.users, isStorageURL user.profileImage = true) (index : ℕ)
    (image : UIImage) :
    (((ImageAction.updateProfileImage index image).perform uid).run editor).calls = [] ∨
      ∃ user ∈ editor.users, ∃ completion,
        (((ImageAction.updateProfileImage index image).perform uid).run editor).calls =
          ⟨.deleteObject user.profileImage, fun _ => .done⟩ ::
            ((ImageUploaderService.uploadImage image completion).run editor).calls ∧
        (∀ url, (completion url).Threads names Sparing (some url)) ∧
        ∀ url, (completion url).Pursues Good (Naming uid) := by
  cases found : editor.users[index]? with
  | none =>
    left
    simp [ImageAction.perform, EditorAction.perform, EditorAction.withUser, found]
  | some user =>
    have member := List.mem_of_getElem? found
    refine .inr ⟨user, member, ?_⟩
    apply Exists.intro
    refine ⟨?calls, ?threads, ?pursues⟩
    case calls =>
      simp only [ImageAction.perform, EditorAction.perform, EditorAction.withUser,
        Program.run_inspect, found]
      rw [UserService.updateProfileImage, Code.run_withCurrentUser signedIn,
        if_pos (urls user member)]
      rfl
    case threads =>
      intro url
      refine ⟨by rintro _ ⟨⟩, .inr ⟨congrArg some (imageFields_string url), trivial⟩, fun error => ?_⟩
      cases error with
      | some error => trivial
      | none =>
        refine Program.Threads.seq ⟨by rintro _ ⟨⟩, .inl ⟨rfl, trivial⟩, fun answer => ?_⟩ trivial
        cases answer with
        | error => trivial
        | ok documents =>
          exact Program.threads_forEach fun _ _ => ⟨by rintro _ ⟨⟩, .inl ⟨rfl, trivial⟩, fun _ => trivial⟩
    case pursues => exact fun url => .inl ⟨_, rfl⟩

/-- What an action issues holds no name yet; unless it deletes nothing, it pursues the document. -/
private theorem issued_perform {editor : Editor} (signedIn : editor.currentUser = some uid)
    (urls : ∀ user ∈ editor.users, isStorageURL user.profileImage = true) (action : ImageAction) :
    (∀ call ∈ ((action.perform uid).run editor).calls,
      call.Threads names Sparing ∧ names.asks call.request = none) ∧
    (action.encodes = true → (∀ call ∈ ((action.perform uid).run editor).calls,
        Sparing call.request) ∨
      ∃ call ∈ ((action.perform uid).run editor).calls, call.Pursues Good (Naming uid)) := by
  cases action with
  | fetchUser =>
    refine ⟨fun call member => ?_, fun _ => .inl fun call member => ?_⟩
    · obtain rfl := List.mem_singleton.mp member
      refine ⟨fun answer => ?_, rfl⟩
      match answer with
      | .ok (some data) => trivial
      | .ok none => trivial
      | .error _ => trivial
    · obtain rfl := List.mem_singleton.mp member
      exact nofun
  | updateProfileImage index image =>
    rcases run_updateProfileImage signedIn urls index image with none |
      ⟨user, -, completion, calls, threads, pursues⟩
    · simp [none]
    · rw [calls]
      have issued : Program.Issues names Sparing none
          ((ImageUploaderService.uploadImage image completion).run editor).calls :=
        (threads_uploadImage threads).run
      refine ⟨fun call member => ?_, fun encodes => .inr ?_⟩
      · rcases List.mem_cons.mp member with rfl | member
        · exact ⟨fun _ => trivial, rfl⟩
        · refine ⟨issued.threads call member, ?_⟩
          cases asked : names.asks call.request with
          | none => rfl
          | some name => cases issued.hand call member name asked
      · obtain ⟨call, member, pursues⟩ :
            ∃ call ∈ ((ImageUploaderService.uploadImage image completion).run editor).calls,
              call.Pursues Good (Naming uid) := (pursues_uploadImage encodes pursues).run
        exact ⟨call, List.mem_cons_of_mem _ member, pursues⟩

end Custody

section Present

variable {κ : Type}

/-- The devices, with a record of what the backend served. -/
abbrev Watched (κ : Type) :=
  Network (cloud.recorded Request.succeeded) Editor (ImageOrigin κ) κ

/-- The document names a stored object that no call is about to delete. -/
def Safe (uid : Uid) (net : Watched κ) : Prop :=
  ∃ image ∈ net.store.store.objects, net.store.store.image? uid = some image ∧
    ∀ pending ∈ net.flight, pending.answer = none → pending.call.request = .deleteObject image →
      pending.origin.spares = true

/-- Some call that does not spare the old image is about to name another. -/
abbrev Replacing (uid : Uid) (net : Watched κ) : Prop :=
  net.Pursued (fun origin => origin.spares = false) Good (Naming uid)

/-- New images are stored and nobody knows of them but their calls; and the document names a safe
image, or some call is about to name another. -/
structure Present (uid : Uid) (first : String) (net : Watched κ) : Prop where
  sound : net.Sound (contract uid first (ImageOrigin κ)) ImageOrigin.device
  custody : net.Custody names Sparing
  hidden : ∀ pending ∈ net.flight, ∀ url, pending.held? names = some url →
    url ∈ net.store.store.objects ∧ ¬ Published uid first net.store url
  safe : Safe uid net ∨ Replacing uid net

variable {uid : Uid} {first : String} {net next : Watched κ}

/-- When nothing is under way, the document names a stored object. -/
private theorem Present.idle (present : Present uid first net) (idle : net.flight = []) :
    ∃ image ∈ net.store.store.objects, net.store.store.image? uid = some image := by
  rcases present.safe with ⟨image, stored, named, -⟩ | ⟨pending, member, -⟩
  · exact ⟨image, stored, named⟩
  · simp [idle] at member

variable [DecidableEq κ]

omit [DecidableEq κ] in
private theorem Present.running (present : Present uid first net) (device : κ) :
    ∃ editor, net.clients device = some editor :=
  Option.ne_none_iff_exists'.mp fun trapped => present.sound.running ⟨device, true⟩ trapped

omit [DecidableEq κ] in
private theorem shared {store : Store} {editor : Editor} {one other : ImageOrigin κ}
    (valid : (contract uid first (ImageOrigin κ)).holds one store editor) :
    (contract uid first (ImageOrigin κ)).holds other store editor := valid

/-- A call that fetches the document, or starts to replace the image of a copy. -/
private theorem Present.act (present : Present uid first net) {origin : ImageOrigin κ}
    {action : ImageAction} (fits : action.encodes = true ∨ origin.spares = true) :
    Present uid first (net.launch ImageOrigin.device origin (action.perform uid)) := by
  obtain ⟨editor, running⟩ := present.running origin.device
  obtain ⟨signedIn, copies⟩ := present.sound.clients origin editor running
  obtain ⟨issued, pursues⟩ := issued_perform signedIn (fun user member => (copies user member).1) action
  refine ⟨present.sound.launch (fun _ _ _ => shared) (keeps_perform action), ?_, ?_, ?_⟩
  · refine present.custody.launch fun state same => ?_
    obtain rfl := Option.some.inj (running.symm.trans same)
    refine ⟨fun call member => (issued call member).1, ?_, fun call member name asked => ?_⟩
    · refine List.pairwise_of_forall_mem_list fun call member other _ name asked => ?_
      rw [(issued call member).2] at asked
      cases asked
    · rw [(issued call member).2] at asked
      cases asked
  · rw [Network.launch_store, Network.launch_running running]
    intro pending member url held
    rcases List.mem_append.mp member with member | member
    · exact present.hidden pending member url held
    · obtain ⟨call, added, rfl⟩ := List.mem_map.mp member
      have silent : names.asks call.request = some url := held
      rw [(issued call added).2] at silent
      cases silent
  · rcases present.safe with ⟨image, stored, named, untouched⟩ | pursued
    · have safe (spared : ∀ call ∈ ((action.perform uid).run editor).calls,
          call.request = .deleteObject image → origin.spares = true) :
          Safe uid (net.launch ImageOrigin.device origin (action.perform uid)) := by
        rw [Network.launch_running running]
        refine ⟨image, stored, named, fun pending member unserved deletes => ?_⟩
        rcases List.mem_append.mp member with member | member
        · exact untouched pending member unserved deletes
        · obtain ⟨call, added, rfl⟩ := List.mem_map.mp member
          exact spared call added deletes
      rcases fits with encodes | spares
      · rcases pursues encodes with sparing | ⟨call, added, pursues⟩
        · exact .inl (safe fun call added deletes => (sparing call added image deletes).elim)
        · cases spares : origin.spares with
          | true => exact .inl (safe fun _ _ _ => spares)
          | false => exact .inr (Network.pursued_launch running spares added pursues)
      · exact .inl (safe fun _ _ _ => spares)
    · exact .inr (pursued.launch origin _)

/-- A delivered answer. -/
private theorem Present.deliver (present : Present uid first net) {index : ℕ}
    (delivered : net.deliver? ImageOrigin.device index = some next) : Present uid first next := by
  have sound := present.sound.deliver (fun _ _ _ => shared) delivered
  have custody := present.custody.deliver delivered
  have goesOn : Replacing uid net → Replacing uid next := fun replacing =>
    replacing.deliver present.running delivered
  obtain ⟨before, after, origin, call, answer, split, -, rfl⟩ := Network.deliver?_cases delivered
  have mine : Pending.Threads names Sparing ⟨origin, call, some answer⟩ :=
    present.custody.threads _ (by simp [split])
  obtain ⟨editor, running⟩ : ∃ editor,
      ({ net with flight := before ++ after } : Watched κ).clients origin.device = some editor :=
    present.running origin.device
  have issued : Program.Issues names Sparing _ ((call.callback answer).run editor).calls :=
    Program.Threads.run mine
  have kept : ∀ pending ∈ before ++ after, pending ∈ net.flight := by
    intro pending member
    rcases List.mem_append.mp member with member | member <;> simp [split, member]
  refine ⟨sound, custody, ?_, ?_⟩
  · rw [Network.launch_store, Network.launch_running running]
    intro pending member url held
    rcases List.mem_append.mp member with member | member
    · exact present.hidden pending (kept pending member) url held
    · obtain ⟨new, added, rfl⟩ := List.mem_map.mp member
      exact present.hidden ⟨origin, call, some answer⟩ (by simp [split]) url
        (issued.hand new added url held)
  · rcases present.safe with ⟨image, stored, named, untouched⟩ | pursued
    · left
      rw [Network.launch_running running]
      refine ⟨image, stored, named, fun pending member unserved deletes => ?_⟩
      rcases List.mem_append.mp member with member | member
      · exact untouched pending (kept pending member) unserved deletes
      · obtain ⟨new, added, rfl⟩ := List.mem_map.mp member
        exact (issued.only new added image deletes).elim
    · exact .inr (goesOn pursued)

omit [DecidableEq κ] in
/-- In a call that does not spare the old image, what leads to the document succeeds. -/
private theorem Present.good (present : Present uid first net) {before after : List _}
    {origin : ImageOrigin κ} {call : Call firebase Editor} {store : Store} {choice : Choice}
    {answer : call.request.Response} (split : net.flight = before ++ ⟨origin, call, none⟩ :: after)
    (fits : Fits net.store.store choice origin.spares call.request)
    (served : cloud.serve choice net.store.store call.request = some (store.store, answer))
    (spares : origin.spares = false) : Good call.request answer := by
  intro leading
  have mine : (⟨origin, call, none⟩ : Pending firebase Editor (ImageOrigin κ)) ∈ net.flight := by
    simp [split]
  have allowed : Allows uid first net.store call.request := (present.sound.flight _ mine).1
  rcases call with ⟨request, callback⟩
  have succeeds : choice.succeeds = true := by
    cases request with
    | putData | downloadURL | updateData => simpa [spares] using fits.2.2 leading
    | _ => cases leading
  obtain ⟨order, fresh, transfer, resolved⟩ := serve_succeeds succeeds served
  cases request with
  | putData data =>
    obtain ⟨steady, ref, stored, -⟩ :=
      serve_smooth (Bool.and_eq_true_iff.mpr ⟨succeeds, fits.1⟩) served
    simp only [Request.succeeded, steady, stored, Except.isOk, Except.toBool, Bool.and_self]
  | downloadURL url =>
    have stored := (present.hidden _ mine url rfl).1
    simp only [Request.resolve, if_pos stored] at resolved
    obtain ⟨-, rfl⟩ := Prod.mk.inj (Option.some.inj resolved)
    rfl
  | updateData reference fields =>
    cases reference with
    | user other =>
      obtain ⟨rfl, -⟩ := allowed
      obtain ⟨image, named, -⟩ := present.sound.store.record
      obtain ⟨data, found, -⟩ := Option.map_eq_some_iff.mp named
      simp only [Request.resolve, found] at resolved
      obtain ⟨-, rfl⟩ := Prod.mk.inj (Option.some.inj resolved)
      rfl
    | _ => cases leading
  | _ => cases leading

private theorem asks_of_named {request : Request} {url : String}
    (asked : request = .updateData (.user uid) (imageFields url)) :
    names.asks request = some url := by
  rw [asked]
  exact congrArg some (imageFields_string url)

omit [DecidableEq κ] in
/-- A call in flight is as it was, or it is the one whose request was answered. -/
private theorem mem_answered {before after : List (Pending firebase Editor (ImageOrigin κ))}
    {origin : ImageOrigin κ} {call : Call firebase Editor} {answer : call.request.Response}
    {pending : Pending firebase Editor (ImageOrigin κ)}
    (member : pending ∈ before ++ ⟨origin, call, some answer⟩ :: after) :
    pending ∈ before ++ after ∧
        pending ∈ before ++ (⟨origin, call, none⟩ : Pending firebase Editor _) :: after ∨
      pending = ⟨origin, call, some answer⟩ := by
  simp only [List.mem_append, List.mem_cons] at member ⊢
  tauto

omit [DecidableEq κ] in
/-- A new image that a call holds is stored, and nobody else knows of it, after any request was
answered. -/
private theorem Present.hidden_serve (present : Present uid first net) {choice : Choice}
    {before after : List _} {origin : ImageOrigin κ} {call : Call firebase Editor} {store : Store}
    {answer : call.request.Response} (split : net.flight = before ++ ⟨origin, call, none⟩ :: after)
    (resolved : (cloud.recorded Request.succeeded).serve choice net.store call.request =
      some (store, answer)) :
    ∀ pending ∈ before ++ ⟨origin, call, some answer⟩ :: after, ∀ url,
      pending.held? names = some url →
        url ∈ store.store.objects ∧ ¬ Published uid first store url := by
  obtain ⟨plain, -⟩ := recorded_serve resolved
  have mine : (⟨origin, call, none⟩ : Pending firebase Editor (ImageOrigin κ)) ∈ net.flight := by
    simp [split]
  have allowed : Allows uid first net.store call.request := (present.sound.flight _ mine).1
  intro pending member url held
  rcases mem_answered member with ⟨other, member⟩ | rfl
  · obtain ⟨stored, secret⟩ := present.hidden pending (split ▸ member) url held
    refine ⟨?_, fun published => ?_⟩
    · rcases objects_serve plain stored with stays | ⟨deletes, -⟩
      · exact stays
      · rw [deletes] at allowed
        exact (secret allowed).elim
    · rcases (published_serve resolved).mp published with published | ⟨-, asked, -⟩
      · exact secret published
      · exact present.custody.others split pending other url (asks_of_named asked) held
  · obtain ⟨stored, source, other⟩ := told_serve plain held
    refine ⟨stored, fun published => ?_⟩
    rcases (published_serve resolved).mp published with published | ⟨-, asked, -⟩
    · rcases source with asked | ⟨fresh, gone⟩
      · exact (present.hidden _ mine url asked).2 published
      · exact (present.sound.store.drawn url published).2.elim fresh gone
    · exact other uid ⟨_, asked⟩

omit [DecidableEq κ] in
/-- A request that names a new image in the document makes the document safe. -/
private theorem Present.named_safe (present : Present uid first net) {choice : Choice}
    {before after : List _} {origin : ImageOrigin κ} {call : Call firebase Editor} {store : Store}
    {answer : call.request.Response} (split : net.flight = before ++ ⟨origin, call, none⟩ :: after)
    (served : cloud.serve choice net.store.store call.request = some (store.store, answer))
    {url : String} (asked : call.request = .updateData (.user uid) (imageFields url))
    (named : store.store.image? uid = some url) :
    Safe uid { net with store, flight := before ++ ⟨origin, call, some answer⟩ :: after } := by
  obtain ⟨stored, secret⟩ :=
    present.hidden ⟨origin, call, none⟩ (by simp [split]) url (asks_of_named asked)
  refine ⟨url, ?_, named, fun pending member unserved deletes => ?_⟩
  · rcases objects_serve served stored with stays | ⟨deletes, -⟩
    · exact stays
    · rw [asked] at deletes
      cases deletes
  · rcases mem_answered member with ⟨-, member⟩ | rfl
    · have known : Allows uid first net.store pending.call.request :=
        (present.sound.flight pending (split ▸ member)).1
      rw [deletes] at known
      exact (secret known).elim
    · cases unserved

omit [DecidableEq κ] in
/-- An answered request. -/
private theorem Present.serve (present : Present uid first net) {index : ℕ} {choice : Choice}
    (fits : ∀ pending ∈ net.flight[index]?,
      Fits net.store.store choice pending.origin.spares pending.call.request)
    (served : net.serve? index choice = some next) : Present uid first next := by
  have steady : choice.steady = true := by
    obtain ⟨pending, present, -⟩ := Option.bind_eq_some_iff.mp served
    exact (fits pending present).1
  have sound := (present.sound.serve lawful steady served).1
  obtain ⟨before, after, origin, call, store, answer, split, rfl, resolved, rfl⟩ :=
    Network.serve?_cases served
  obtain ⟨plain, -⟩ := recorded_serve resolved
  have fits : Fits net.store.store choice origin.spares call.request :=
    fits ⟨origin, call, none⟩ (by simp [split])
  have mine : (⟨origin, call, none⟩ : Pending firebase Editor (ImageOrigin κ)) ∈ net.flight := by
    simp [split]
  have allowed : Allows uid first net.store call.request := (present.sound.flight _ mine).1
  refine ⟨sound, present.custody.serve split fun url told => ?_,
    present.hidden_serve split resolved, ?_⟩
  · exact (told_serve plain told).2.1.imp id fun fresh pending member held =>
      fresh.1 (present.hidden pending member url held).1
  rcases present.safe with ⟨image, stored, named, untouched⟩ | replacing
  · left
    rcases image_serve (by simp [named]) allowed plain with ⟨same, -⟩ | ⟨url, asked, -, named, -⟩
    · refine ⟨image, ?_, same.trans named, fun pending member unserved deletes => ?_⟩
      · rcases objects_serve plain stored with stays | ⟨deletes, succeeds⟩
        · exact stays
        · have spares : origin.spares = true := untouched _ mine rfl deletes
          rw [fits.2.1 image (by rw [deletes]; rfl) succeeds stored] at spares
          cases spares
      · rcases mem_answered member with ⟨-, member⟩ | rfl
        · exact untouched pending (split ▸ member) unserved deletes
        · cases unserved
    · exact present.named_safe split plain asked named
  · rcases replacing.serve split (present.good split fits plain) with ⟨spares, fields, asked⟩ | still
    · left
      obtain ⟨image, record, -⟩ := present.sound.store.record
      rcases image_serve (by simp [record]) allowed plain with ⟨-, fails⟩ |
        ⟨url, asked, -, named, -⟩
      · have done := present.good split fits plain spares (by rw [asked]; rfl)
        rw [fails ⟨fields, asked⟩] at done
        cases done
      · exact present.named_safe split plain asked named
    · exact .inr still

/-- Nothing is listened to. -/
private theorem Present.not_notify (present : Present uid first net) {index : ℕ} {choice : Choice} :
    net.notify? ImageOrigin.device index choice ≠ some next := by
  intro notified
  obtain ⟨_, _, origin, subscription, cursor, _, _, split, -⟩ := Network.notify?_cases notified
  exact (present.sound.listeners ⟨origin, subscription, cursor⟩ (by simp [split])).1

omit [DecidableEq κ] in
/-- An account that is registered, before any call. -/
private theorem Registered.present {start : Network cloud Editor (ImageOrigin κ) κ} {image : String}
    (registered : Registered uid start) (stored : image ∈ start.store.objects)
    (named : start.store.image? uid = some image) :
    Present uid image (start.recording [] : Watched κ) := by
  have published (url : String) : Published uid image ⟨start.store, []⟩ url → url = image := by
    rintro ⟨-, same | ⟨_, member, -⟩⟩
    · exact same
    · cases member
  have storage := registered.objects image stored
  refine ⟨⟨⟨⟨image, named, storage, .inl rfl⟩, ?_, registered.objects⟩, ?_, ?_, ?_, ?_⟩,
    ⟨?_, ?_⟩, ?_, .inl ⟨image, stored, named, ?_⟩⟩
  · intro url known
    obtain rfl := published url known
    exact ⟨storage, .inl stored⟩
  · intro origin trapped
    obtain ⟨editor, running, -⟩ := registered.clients origin.device
    cases running.symm.trans trapped
  · intro origin editor running
    obtain ⟨other, present, signedIn, copies⟩ := registered.clients origin.device
    obtain rfl := Option.some.inj (present.symm.trans running)
    exact ⟨signedIn, by simp [copies]⟩
  all_goals simp [Network.recording, registered.flight, registered.listeners]

/-- One event of calls that spare the old image or get to the end. -/
private theorem Present.step {net next : Network cloud Editor (ImageOrigin κ) κ}
    {served : List (Served firebase)} {event : Event cloud (ImageOrigin κ) ImageAction}
    (present : Present uid first (net.recording served : Watched κ)) (fitting : Fitting net event)
    (taken : step? uid net event = some next) :
    ∃ more, Present uid first (next.recording more : Watched κ) := by
  cases event with
  | act origin action =>
    obtain rfl := Option.some.inj taken
    refine ⟨served, ?_⟩
    rw [← recording_launch]
    exact present.act fitting
  | signal signal =>
    obtain ⟨more, recorded⟩ := recording_signal taken served
    refine ⟨more, ?_⟩
    cases signal with
    | serve index choice => exact present.serve fitting recorded
    | deliver index => exact present.deliver recorded
    | notify index choice => exact (present.not_notify recorded).elim

/-- In every run of calls that spare the old image or get to the end, and of uploads that do not stop
the app, the document names a stored object whenever nothing is under way. -/
theorem image_present {start net : Network cloud Editor (ImageOrigin κ) κ}
    {events : List (Event cloud (ImageOrigin κ) ImageAction)} (registered : Registered uid start)
    (run : Run (fun net event next => Fitting net event ∧ step? uid net event = some next) start
      events net) (idle : net.flight = []) :
    ∃ image ∈ net.store.objects, net.store.image? uid = some image := by
  obtain ⟨image, stored, named⟩ := registered.image
  obtain ⟨served, present⟩ : ∃ served, Present uid image (net.recording served : Watched κ) := by
    refine run.history (fun _ net => ∃ served, Present uid image (net.recording served)) ?_ ?_
    · exact ⟨[], registered.present stored named⟩
    · exact fun taken ⟨_, present⟩ => present.step taken.1 taken.2
  exact present.idle idle

/-- An account with an image, and one device signed in to it. -/
def registered : Network cloud Editor (ImageOrigin Unit) Unit where
  store :=
    { firestore := (∅ : Firestore).insert (.user "u")
        (UserService.data "u@mail" "" "gs://instagramclone-62b50.appspot.com/old" "u" "u")
      objects := ["gs://instagramclone-62b50.appspot.com/old"] }
  clients _ := some { currentUser := some "u" }

private theorem registered_registered : Registered "u" registered where
  image := ⟨_, List.mem_singleton.mpr rfl, by decide +kernel⟩
  objects := by decide +kernel
  clients _ := ⟨_, rfl, rfl, rfl⟩
  flight := rfl
  listeners := rfl

/-- The device fetches the document and replaces the image; the old one is deleted, and the upload
is answered so. -/
def replacing (uploaded : Choice) : List (Event cloud (ImageOrigin Unit) ImageAction) :=
  [.act ⟨(), false⟩ .fetchUser, .signal (.serve 0 (.answer [] "")), .signal (.deliver 0),
    .act ⟨(), false⟩ (.updateProfileImage 0 ⟨some [0]⟩), .signal (.serve 0 (.answer [] "")),
    .signal (.serve 1 uploaded), .signal (.deliver 0), .signal (.deliver 0)]

/-- A replacement of which every request succeeds. -/
theorem image_present_replaced :
    ∃ events net, Run (fun net event next => Fitting net event ∧ step? "u" net event = some next)
        registered events net ∧
      ∃ image ∈ net.store.objects, net.store.image? "u" = some image := by
  let url := "gs://instagramclone-62b50.appspot.com/new"
  let events := replacing (.answer [] url) ++ [.signal (.serve 0 (.answer [] "")),
    .signal (.deliver 0), .signal (.serve 0 (.answer [] "")), .signal (.deliver 0),
    .signal (.serve 0 (.answer [] "")), .signal (.deliver 0)]
  have completes : (replay? (fun net event => if Fitting net event then step? "u" net event else none)
      registered events).any (fun net => decide (net.flight.isEmpty = true)) = true := by
    decide +kernel
  obtain ⟨net, run, idle⟩ := exists_run_of_replay? completes
  have fitting : Run (fun net event next => Fitting net event ∧ step? "u" net event = some next)
      registered events net := run.mono fun taken => by
    split_ifs at taken with fits
    exact ⟨fits, taken⟩
  exact ⟨events, net, fitting,
    image_present registered_registered fitting (List.isEmpty_iff.mp idle)⟩

/-- The old image is deleted and the upload of the new one fails. -/
theorem not_image_present :
    ¬ ∀ (κ : Type) [DecidableEq κ] (uid : Uid) (start net : Network cloud Editor (ImageOrigin κ) κ)
      (events : List (Event cloud (ImageOrigin κ) ImageAction)), Registered uid start →
      Run (fun net event next => step? uid net event = some next) start events net →
      net.flight = [] → ∃ image ∈ net.store.objects, net.store.image? uid = some image := by
  intro claim
  have loses : (replay? (step? "u") registered (replacing (.fail .permissionDenied))).any (fun net =>
      decide (net.flight.isEmpty = true ∧ net.store.objects = [])) = true := by
    decide +kernel
  obtain ⟨net, run, idle, empty⟩ := exists_run_of_replay? loses
  obtain ⟨image, stored, -⟩ :=
    claim Unit "u" registered net _ registered_registered run (List.isEmpty_iff.mp idle)
  rw [empty] at stored
  cases stored

end Present

end ImagePresence

end InstagramClone
