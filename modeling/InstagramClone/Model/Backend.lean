import InstagramClone.Async.Network
import InstagramClone.Model.Firestore

/-! # Firestore, Auth and Storage as one backend

The requests the app issues, the answers its completion handlers receive, and how the backend
resolves each of them. A failed request changes nothing. The ids, uids and object URLs that are
drawn at random are part of the choice and must be unused: an auto-id is drawn on the device in
the code, but only the device's own listeners see it before its write lands, so it is drawn there,
and drawn for a listener that sees it earlier.

A read is answered from what the server stores. A listener is told earlier: of what its device has in
its cache, which may lag behind the server, together with documents that the device has still to
send. One of these that the server then rejects is taken back.
-/

namespace InstagramClone

open Async

inductive BackendError where
  | permissionDenied
  | notFound
  | emailAlreadyInUse
  | invalidCredential
deriving DecidableEq, Repr

abbrev Bytes := List UInt8

/-- A picked image; encoding it as JPEG may fail. -/
structure UIImage where
  jpegData : Option Bytes
deriving DecidableEq, Repr

/-- The `snapshot.progress` of a task. -/
structure UploadProgress where
  completedUnitCount : Int64
  totalUnitCount : Int64
deriving DecidableEq, Repr

/-- The `Int64` division of the counts is defined. -/
def UploadProgress.divides (progress : UploadProgress) : Bool :=
  progress.totalUnitCount ≠ 0 &&
    !(progress.completedUnitCount = Int64.minValue && progress.totalUnitCount = -1)

/-- How far an upload task gets: whether it already runs when its observer is added, and the progress
that it makes from then on. -/
structure Transfer where
  running : Bool
  sent : List UploadProgress

/-- A task that makes some progress after it is observed. -/
def Transfer.smooth : Transfer := ⟨false, [⟨1, 1⟩]⟩

/-- What the observer of the task is shown: a task that runs already at once, every progress, and the
last one again before the task ends in whatever way. Before anything is sent it is 0 of 0. -/
def Transfer.snapshots (transfer : Transfer) : List UploadProgress :=
  (if transfer.running then [⟨0, 0⟩] else []) ++ transfer.sent ++
    [transfer.sent.getLast?.getD ⟨0, 0⟩]

/-- What the handlers of an upload receive: its progress, and then its completion. -/
structure Upload where
  snapshots : List UploadProgress
  result : Except BackendError String

/-- Every progress that is shown can be divided. -/
def Upload.steady (upload : Upload) : Bool := upload.snapshots.all UploadProgress.divides

/-- A Google sign-in token, standing for the Google account it was issued to. -/
structure AuthCredential where
  googleAccount : String
deriving DecidableEq, Repr

inductive Request where
  | setData (reference : DocumentReference) (data : Dictionary)
  | updateData (reference : DocumentReference) (fields : Dictionary)
  | delete (reference : DocumentReference)
  /-- A new document under an auto-id, which the data may mention. -/
  | addDocument (collection : CollectionReference) (data : String → Dictionary)
  | getDocument (reference : DocumentReference)
  | getDocuments (query : Query)
  | createUser (email password : String)
  | signIn (email password : String)
  | signInWith (credential : AuthCredential)
  | putData (data : Bytes)
  | downloadURL (object : String)
  | deleteObject (object : String)

/-- What the handlers receive; a snapshot is `nil` exactly when there is an error. -/
abbrev Request.Response : Request → Type
  | setData .. | updateData .. | delete .. | addDocument .. | deleteObject .. => Option BackendError
  | getDocument .. => Except BackendError (Option Dictionary)
  | getDocuments .. => Except BackendError (List Document)
  | createUser .. | signIn .. | signInWith .. => Except BackendError Uid
  | putData .. => Upload
  | downloadURL .. => Except BackendError String

inductive DocumentChangeType where
  | added
  | modified
  | removed
deriving DecidableEq, Repr

structure DocumentChange where
  type : DocumentChangeType
  document : Document

/-- The app's requests, and its listeners on queries. -/
abbrev firebase : Interface where
  Request := Request
  Response := Request.Response
  Topic := Query
  Event _ := Except BackendError (List DocumentChange)

/-- The code of the app over a client state. -/
abbrev Code (σ : Type) := Program firebase σ

inductive SignInMethod where
  | email (address password : String)
  | google (account : String)
deriving DecidableEq, Repr

def SignInMethod.address? : SignInMethod → Option String
  | email address _ => some address
  | google _ => none

structure Account where
  method : SignInMethod
  uid : Uid
deriving DecidableEq, Repr

/-- The contents of the three services; stored objects are named by their download URL. The name
of a deleted object is not drawn again. -/
structure Cloud where
  firestore : Firestore := ∅
  accounts : List Account := []
  objects : List String := []
  deleted : List String := []

def storageBucket : String := "instagramclone-62b50.appspot.com"

/-- The URLs that `Storage.reference(forURL:)` accepts: `gs://bucket/…` and
`http[s]://host/v0/b/bucket/…`, for the app's own bucket. -/
def isStorageURL (url : String) : Bool :=
  match (url.toList.takeWhile (· ≠ '?')).splitOn '/' with
  | scheme :: [] :: host :: rest =>
    (scheme = "gs:".toList && host = storageBucket.toList) ||
      ((scheme = "http:".toList || scheme = "https:".toList) &&
        rest.take 3 = ["v0".toList, "b".toList, storageBucket.toList])
  | _ => false

/-- How a request is resolved: refused, or answered with the given order and fresh name; and what a
listener is told: what the server stores, or what its device sees, where some of the documents it has
still to send are listed under such names, and some stored ones are not known yet. -/
inductive Choice where
  | fail (error : BackendError) (transfer : Transfer := .smooth)
  | answer (order : List DocumentReference) (fresh : String) (transfer : Transfer := .smooth)
  | snapshot (order : List DocumentReference) (drafts : List (Option String)) (lagging : List String)

/-- The request succeeds, and draws this name if it draws one. -/
def Choice.drawing (fresh : String) : Choice := .answer [] fresh

/-- The request or listener does not fail. -/
def Choice.succeeds : Choice → Bool
  | fail .. => false
  | answer .. | snapshot .. => true

/-- The progress of an upload, if the request is one, can be divided whenever it is shown. -/
def Choice.steady : Choice → Bool
  | fail _ transfer | answer _ _ transfer => transfer.snapshots.all UploadProgress.divides
  | snapshot .. => true

/-- The stored documents that a listener is not told of yet. -/
def Choice.lagging : Choice → List String
  | fail .. | answer .. => []
  | snapshot _ _ lagging => lagging

/-- Nothing fails or stops the app. -/
def Choice.smooth (choice : Choice) : Bool := choice.succeeds && choice.steady

theorem Choice.smooth_succeeds {choice : Choice} (smooth : choice.smooth = true) :
    choice.succeeds = true :=
  (Bool.and_eq_true_iff.mp smooth).1

theorem Choice.smooth_steady {choice : Choice} (smooth : choice.smooth = true) :
    choice.steady = true :=
  (Bool.and_eq_true_iff.mp smooth).2

namespace Request

/-- The answer to a request that failed. -/
def failed (error : BackendError) (transfer : Transfer) : (request : Request) → request.Response
  | setData .. | updateData .. | delete .. | addDocument .. | deleteObject .. => some error
  | getDocument .. | getDocuments .. | createUser .. | signIn .. | signInWith ..
  | downloadURL .. => .error error
  | putData .. => ⟨transfer.snapshots, .error error⟩

/-- The answer reports no error, and no progress that the app cannot show. -/
def succeeded : (request : Request) → request.Response → Bool
  | setData .., error | updateData .., error | delete .., error | addDocument .., error
  | deleteObject .., error => error.isNone
  | getDocument .., answer => answer.isOk
  | getDocuments .., answer => answer.isOk
  | createUser .., answer | signIn .., answer | signInWith .., answer => answer.isOk
  | putData .., upload => upload.steady && upload.result.isOk
  | downloadURL .., answer => answer.isOk

theorem succeeded_failed (request : Request) (error : BackendError) (transfer : Transfer) :
    request.succeeded (request.failed error transfer) = false := by
  cases request with
  | putData => exact Bool.and_false _
  | _ => rfl

/-- Sign in a new account, unless the drawn uid is taken. -/
def register (method : SignInMethod) (cloud : Cloud) (fresh : Uid) :
    Option (Cloud × Except BackendError Uid) :=
  if fresh ≠ "" ∧ cloud.firestore.Unused fresh ∧ ∀ account ∈ cloud.accounts, account.uid ≠ fresh then
    some ({ cloud with accounts := ⟨method, fresh⟩ :: cloud.accounts }, .ok fresh)
  else none

/-- The effect and answer of a request that reaches the backend. -/
def resolve (order : List DocumentReference) (fresh : String) (transfer : Transfer) (cloud : Cloud) :
    (request : Request) → Option (Cloud × request.Response)
  | setData reference data =>
    some ({ cloud with firestore := cloud.firestore.insert reference data }, none)
  | updateData reference fields =>
    match cloud.firestore.lookup reference with
    | none => some (cloud, some .notFound)
    | some stored => some
      ({ cloud with firestore := cloud.firestore.insert reference (stored.updating fields) }, none)
  | delete reference => some ({ cloud with firestore := cloud.firestore.erase reference }, none)
  | addDocument collection data =>
    if fresh ≠ "" ∧ cloud.firestore.Unused fresh then
      some ({ cloud with
        firestore := cloud.firestore.insert (collection.document fresh) (data fresh) }, none)
    else none
  | getDocument reference => some (cloud, .ok (cloud.firestore.lookup reference))
  | getDocuments query =>
    (query.answer? cloud.firestore order).map fun documents => (cloud, .ok documents)
  | createUser email password =>
    if ∃ account ∈ cloud.accounts, account.method.address? = some email.toLower then
      some (cloud, .error .emailAlreadyInUse)
    else register (.email email.toLower password) cloud fresh
  | signIn email password =>
    match cloud.accounts.find? (·.method = .email email.toLower password) with
    | none => some (cloud, .error .invalidCredential)
    | some account => some (cloud, .ok account.uid)
  | signInWith credential =>
    match cloud.accounts.find? (·.method = .google credential.googleAccount) with
    | none => register (.google credential.googleAccount) cloud fresh
    | some account => some (cloud, .ok account.uid)
  | putData _ =>
    if isStorageURL fresh ∧ fresh ∉ cloud.objects ∧ fresh ∉ cloud.deleted then
      some ({ cloud with objects := fresh :: cloud.objects }, ⟨transfer.snapshots, .ok fresh⟩)
    else none
  | downloadURL object =>
    some (cloud, if object ∈ cloud.objects then .ok object else .error .notFound)
  | deleteObject object =>
    if object ∈ cloud.objects then
      some ({ cloud with
        objects := cloud.objects.filter (· ≠ object), deleted := object :: cloud.deleted }, none)
    else some (cloud, some .notFound)

/-- What a request that reaches the backend makes of the database. -/
def apply (fresh : String) (store : Firestore) : Request → Firestore
  | setData reference data => store.insert reference data
  | updateData reference fields =>
    match store.lookup reference with
    | none => store
    | some stored => store.insert reference (stored.updating fields)
  | delete reference => store.erase reference
  | addDocument collection data => store.insert (collection.document fresh) (data fresh)
  | _ => store

/-- The request that makes the document exist, or not. -/
def put (reference : DocumentReference) : Bool → Request
  | true => setData reference .empty
  | false => delete reference

/-- The ids passed to `document(_:)` on the way to what the request names. -/
def ids : Request → List String
  | setData reference _ | updateData reference _ | delete reference | getDocument reference =>
    reference.ids
  | addDocument collection _ => collection.ids
  | getDocuments query => query.collection.ids
  | _ => []

/-- The request writes to the database. -/
def writes : Request → Bool
  | setData .. | updateData .. | delete .. | addDocument .. => true
  | _ => false

/-- The request may change the document. -/
def Touches (reference : DocumentReference) : Request → Prop
  | setData target _ | updateData target _ | delete target => target = reference
  | addDocument collection _ => collection = reference.parent
  | _ => False

/-- A request leaves every document as it is that it does not touch. -/
theorem lookup_apply {request : Request} {reference : DocumentReference} {fresh : String}
    {store : Firestore} (apart : ¬ request.Touches reference) :
    (request.apply fresh store).lookup reference = store.lookup reference := by
  cases request with
  | setData target data => simp [apply, Ne.symm (show target ≠ reference from apart)]
  | updateData target fields =>
    have other : reference ≠ target := Ne.symm apart
    cases found : store.lookup target <;> simp [apply, found, other]
  | delete target => simp [apply, Ne.symm (show target ≠ reference from apart)]
  | addDocument collection data =>
    have other : reference ≠ collection.document fresh := by
      rintro rfl
      exact apart (by simp [Touches])
    simp [apply, other]
  | _ => rfl

theorem mem_apply_of_not_touches {request : Request} {reference : DocumentReference}
    {fresh : String} {store : Firestore} (apart : ¬ request.Touches reference) :
    reference ∈ request.apply fresh store ↔ reference ∈ store := by
  rw [Finmap.mem_iff, Finmap.mem_iff, lookup_apply apart]

/-- The documents that the request writes have the property, if those it updates had it. -/
def Puts (holds : DocumentReference → Dictionary → Prop) : Request → Prop
  | setData target data => holds target data
  | updateData target fields => ∀ stored, holds target stored → holds target (stored.updating fields)
  | addDocument collection data => ∀ id, holds (collection.document id) (data id)
  | _ => True

/-- A property of all documents is kept by a request whose documents have it. -/
theorem Puts.apply {holds : DocumentReference → Dictionary → Prop} {request : Request}
    (puts : request.Puts holds) {store : Firestore}
    (all : ∀ reference data, store.lookup reference = some data → holds reference data)
    (fresh : String) (reference : DocumentReference) (data : Dictionary)
    (stored : (request.apply fresh store).lookup reference = some data) : holds reference data := by
  cases request with
  | setData target written =>
    simp only [Request.apply, Firestore.lookup_set] at stored
    split_ifs at stored with same
    · obtain rfl := Option.some.inj stored
      exact same ▸ puts
    · exact all reference data stored
  | updateData target fields =>
    simp only [Request.apply] at stored
    split at stored
    · exact all reference data stored
    · next before found =>
      simp only [Firestore.lookup_set] at stored
      split_ifs at stored with same
      · obtain rfl := Option.some.inj stored
        exact same ▸ puts before (all target before found)
      · exact all reference data stored
  | delete target =>
    simp only [Request.apply, Firestore.lookup_delete] at stored
    split_ifs at stored
    exact all reference data stored
  | addDocument collection written =>
    simp only [Request.apply, Firestore.lookup_set] at stored
    split_ifs at stored with same
    · obtain rfl := Option.some.inj stored
      exact same ▸ puts fresh
    · exact all reference data stored
  | _ => exact all reference data stored

theorem has_put (reference : DocumentReference) (present : Bool) (fresh : String)
    (store : Firestore) : decide (reference ∈ (put reference present).apply fresh store) = present := by
  cases present <;> simp [put, apply]

theorem touches_put {reference other : DocumentReference} {present : Bool} :
    (put reference present).Touches other ↔ reference = other := by
  cases present <;> exact Iff.rfl

/-- The document that a write names. -/
def target? : Request → Option DocumentReference
  | setData target _ | updateData target _ | delete target => some target
  | _ => none

theorem touches_iff_of_target {request : Request} {target reference : DocumentReference}
    (names : request.target? = some target) : request.Touches reference ↔ target = reference := by
  cases request with
  | setData reference data =>
    obtain rfl := Option.some.inj names
    exact Iff.rfl
  | updateData reference fields =>
    obtain rfl := Option.some.inj names
    exact Iff.rfl
  | delete reference =>
    obtain rfl := Option.some.inj names
    exact Iff.rfl
  | _ => cases names

/-- What a write makes of its document depends on nothing but the document. -/
theorem lookup_apply_target {request : Request} {target : DocumentReference}
    {first second : Firestore} (names : request.target? = some target)
    (same : first.lookup target = second.lookup target) (drawn fresh : String) :
    (request.apply drawn first).lookup target = (request.apply fresh second).lookup target := by
  cases request with
  | setData reference data =>
    obtain rfl : reference = target := Option.some.inj names
    simp [apply]
  | updateData reference fields =>
    obtain rfl : reference = target := Option.some.inj names
    cases found : second.lookup reference with
    | none => simp [apply, same, found]
    | some stored => simp [apply, same, found]
  | delete reference =>
    obtain rfl : reference = target := Option.some.inj names
    simp [apply]
  | _ => cases names

/-- An auto-id drawn for the request is non-empty and unused. -/
def Draws (fresh : String) (store : Firestore) : Request → Prop
  | addDocument .. => fresh ≠ "" ∧ store.Unused fresh
  | _ => True

/-- Signing up changes the accounts only. -/
private theorem register_firestore {method : SignInMethod} {fresh : Uid} {cloud next : Cloud}
    {answer : Except BackendError Uid} (registered : register method cloud fresh = some (next, answer)) :
    next.firestore = cloud.firestore := by
  unfold register at registered
  split_ifs at registered
  obtain ⟨rfl, -⟩ := Prod.mk.inj (Option.some.inj registered)
  rfl

/-- The database after a request was resolved. -/
theorem resolve_firestore {request : Request} {order : List DocumentReference} {fresh : String}
    {transfer : Transfer} {cloud next : Cloud} {answer : request.Response}
    (resolved : request.resolve order fresh transfer cloud = some (next, answer)) :
    next.firestore = request.apply fresh cloud.firestore ∧ request.Draws fresh cloud.firestore := by
  cases request with
  | setData reference data =>
    obtain ⟨rfl, -⟩ := Prod.mk.inj (Option.some.inj resolved)
    exact ⟨rfl, trivial⟩
  | updateData reference fields =>
    simp only [resolve] at resolved
    cases stored : cloud.firestore.lookup reference with
    | none =>
      rw [stored] at resolved
      obtain ⟨rfl, -⟩ := Prod.mk.inj (Option.some.inj resolved)
      exact ⟨by simp only [apply, stored], trivial⟩
    | some data =>
      rw [stored] at resolved
      obtain ⟨rfl, -⟩ := Prod.mk.inj (Option.some.inj resolved)
      exact ⟨by simp only [apply, stored], trivial⟩
  | delete reference =>
    obtain ⟨rfl, -⟩ := Prod.mk.inj (Option.some.inj resolved)
    exact ⟨rfl, trivial⟩
  | addDocument collection data =>
    simp only [resolve] at resolved
    split_ifs at resolved with drawn
    obtain ⟨rfl, -⟩ := Prod.mk.inj (Option.some.inj resolved)
    exact ⟨rfl, drawn⟩
  | getDocument reference =>
    obtain ⟨rfl, -⟩ := Prod.mk.inj (Option.some.inj resolved)
    exact ⟨rfl, trivial⟩
  | getDocuments query =>
    obtain ⟨documents, -, same⟩ := Option.map_eq_some_iff.mp resolved
    obtain ⟨rfl, -⟩ := Prod.mk.inj same
    exact ⟨rfl, trivial⟩
  | createUser email password =>
    simp only [resolve] at resolved
    split_ifs at resolved
    · obtain ⟨rfl, -⟩ := Prod.mk.inj (Option.some.inj resolved)
      exact ⟨rfl, trivial⟩
    · exact ⟨register_firestore resolved, trivial⟩
  | signIn email password =>
    simp only [resolve] at resolved
    split at resolved <;>
      exact ⟨by rw [← (Prod.mk.inj (Option.some.inj resolved)).1]; rfl, trivial⟩
  | signInWith credential =>
    simp only [resolve] at resolved
    split at resolved
    · exact ⟨register_firestore resolved, trivial⟩
    · exact ⟨by rw [← (Prod.mk.inj (Option.some.inj resolved)).1]; rfl, trivial⟩
  | putData data =>
    simp only [resolve] at resolved
    split_ifs at resolved
    obtain ⟨rfl, -⟩ := Prod.mk.inj (Option.some.inj resolved)
    exact ⟨rfl, trivial⟩
  | downloadURL object =>
    obtain ⟨rfl, -⟩ := Prod.mk.inj (Option.some.inj resolved)
    exact ⟨rfl, trivial⟩
  | deleteObject object =>
    simp only [resolve] at resolved
    split_ifs at resolved <;>
      exact ⟨by rw [← (Prod.mk.inj (Option.some.inj resolved)).1]; rfl, trivial⟩

/-- What the answer to a read or a sign-in tells about the store. -/
def Answers (cloud : Cloud) : (request : Request) → request.Response → Prop
  | createUser .., answer | signIn .., answer | signInWith .., answer =>
    ∀ uid, answer = .ok uid → ∃ account ∈ cloud.accounts, account.uid = uid
  | getDocument reference, answer => answer = .ok (cloud.firestore.lookup reference)
  | getDocuments query, answer => ∃ documents, answer = .ok documents ∧
    ∀ document, document ∈ documents ↔ ∃ reference, query.Selects cloud.firestore reference ∧
      cloud.firestore.lookup reference = some document.data ∧
      reference.documentID = document.documentID
  | _, _ => True

private theorem register_answers {method : SignInMethod} {fresh uid : Uid} {cloud next : Cloud}
    {answer : Except BackendError Uid} (registered : register method cloud fresh = some (next, answer))
    (accepted : answer = .ok uid) : ∃ account ∈ next.accounts, account.uid = uid := by
  unfold register at registered
  split_ifs at registered
  obtain ⟨rfl, rfl⟩ := Prod.mk.inj (Option.some.inj registered)
  exact ⟨_, List.mem_cons_self .., Except.ok.inj accepted⟩

theorem resolve_answers {request : Request} {order : List DocumentReference} {fresh : String}
    {transfer : Transfer} {cloud next : Cloud} {answer : request.Response}
    (resolved : request.resolve order fresh transfer cloud = some (next, answer)) :
    request.Answers next answer := by
  cases request with
  | getDocument reference =>
    obtain ⟨rfl, rfl⟩ := Prod.mk.inj (Option.some.inj resolved)
    rfl
  | getDocuments query =>
    obtain ⟨documents, answered, same⟩ := Option.map_eq_some_iff.mp resolved
    obtain ⟨rfl, rfl⟩ := Prod.mk.inj same
    exact ⟨documents, rfl, Query.mem_answer? answered⟩
  | createUser email password =>
    intro uid accepted
    simp only [resolve] at resolved
    split_ifs at resolved
    · obtain ⟨rfl, rfl⟩ := Prod.mk.inj (Option.some.inj resolved)
      cases accepted
    · exact register_answers resolved accepted
  | signIn email password =>
    intro uid accepted
    simp only [resolve] at resolved
    split at resolved
    · obtain ⟨rfl, rfl⟩ := Prod.mk.inj (Option.some.inj resolved)
      cases accepted
    · next account found =>
      obtain ⟨rfl, rfl⟩ := Prod.mk.inj (Option.some.inj resolved)
      exact ⟨account, List.mem_of_find?_eq_some found, Except.ok.inj accepted⟩
  | signInWith credential =>
    intro uid accepted
    simp only [resolve] at resolved
    split at resolved
    · exact register_answers resolved accepted
    · next account found =>
      obtain ⟨rfl, rfl⟩ := Prod.mk.inj (Option.some.inj resolved)
      exact ⟨account, List.mem_of_find?_eq_some found, Except.ok.inj accepted⟩
  | _ => trivial

private theorem register_accounts {method : SignInMethod} {fresh : Uid} {cloud next : Cloud}
    {answer : Except BackendError Uid} (registered : register method cloud fresh = some (next, answer)) :
    ∀ account ∈ next.accounts, account ∈ cloud.accounts ∨ account.uid ≠ "" := by
  unfold register at registered
  split_ifs at registered with drawn
  obtain ⟨rfl, -⟩ := Prod.mk.inj (Option.some.inj registered)
  intro account member
  rcases List.mem_cons.mp member with rfl | member
  · exact .inr drawn.1
  · exact .inl member

/-- An account that a request adds has a non-empty uid. -/
theorem resolve_accounts {request : Request} {order : List DocumentReference} {fresh : String}
    {transfer : Transfer} {cloud next : Cloud} {answer : request.Response}
    (resolved : request.resolve order fresh transfer cloud = some (next, answer)) :
    ∀ account ∈ next.accounts, account ∈ cloud.accounts ∨ account.uid ≠ "" := by
  have unchanged {answer' : request.Response} {store : Cloud}
      (resolved : some (store, answer') = some (next, answer))
      (same : store.accounts = cloud.accounts) :
      ∀ account ∈ next.accounts, account ∈ cloud.accounts ∨ account.uid ≠ "" := by
    obtain ⟨rfl, -⟩ := Prod.mk.inj (Option.some.inj resolved)
    exact fun account member => .inl (same ▸ member)
  cases request with
  | setData | delete | getDocument | downloadURL => exact unchanged resolved rfl
  | updateData reference fields =>
    simp only [resolve] at resolved
    split at resolved <;> exact unchanged resolved rfl
  | addDocument collection data =>
    simp only [resolve] at resolved
    split_ifs at resolved
    exact unchanged resolved rfl
  | getDocuments query =>
    obtain ⟨documents, -, same⟩ := Option.map_eq_some_iff.mp resolved
    exact unchanged (congrArg some same) rfl
  | createUser email password =>
    simp only [resolve] at resolved
    split_ifs at resolved
    · exact unchanged resolved rfl
    · exact register_accounts resolved
  | signIn email password =>
    simp only [resolve] at resolved
    split at resolved <;> exact unchanged resolved rfl
  | signInWith credential =>
    simp only [resolve] at resolved
    split at resolved
    · exact register_accounts resolved
    · exact unchanged resolved rfl
  | putData data =>
    simp only [resolve] at resolved
    split_ifs at resolved
    exact unchanged resolved rfl
  | deleteObject object =>
    simp only [resolve] at resolved
    split_ifs at resolved <;> exact unchanged resolved rfl

/-- The request adds or deletes an object. -/
def movesObjects : Request → Bool
  | putData _ | deleteObject _ => true
  | _ => false

/-- Signing up leaves the objects as they are. -/
private theorem register_objects {method : SignInMethod} {fresh : Uid} {cloud next : Cloud}
    {answer : Except BackendError Uid}
    (registered : register method cloud fresh = some (next, answer)) :
    next.objects = cloud.objects ∧ next.deleted = cloud.deleted := by
  unfold register at registered
  split_ifs at registered
  obtain ⟨rfl, -⟩ := Prod.mk.inj (Option.some.inj registered)
  exact ⟨rfl, rfl⟩

/-- All other requests leave the objects as they are. -/
theorem resolve_objects {request : Request} {order : List DocumentReference} {fresh : String}
    {transfer : Transfer} {cloud next : Cloud} {answer : request.Response} (other : request.movesObjects = false)
    (resolved : request.resolve order fresh transfer cloud = some (next, answer)) :
    next.objects = cloud.objects ∧ next.deleted = cloud.deleted := by
  have unchanged {answer' : request.Response} {store : Cloud}
      (resolved : some (store, answer') = some (next, answer))
      (same : store.objects = cloud.objects ∧ store.deleted = cloud.deleted) :
      next.objects = cloud.objects ∧ next.deleted = cloud.deleted := by
    obtain ⟨rfl, -⟩ := Prod.mk.inj (Option.some.inj resolved)
    exact same
  cases request with
  | setData | delete | getDocument | downloadURL => exact unchanged resolved ⟨rfl, rfl⟩
  | updateData reference fields =>
    simp only [resolve] at resolved
    split at resolved <;> exact unchanged resolved ⟨rfl, rfl⟩
  | addDocument collection data =>
    simp only [resolve] at resolved
    split_ifs at resolved
    exact unchanged resolved ⟨rfl, rfl⟩
  | getDocuments query =>
    obtain ⟨documents, -, same⟩ := Option.map_eq_some_iff.mp resolved
    exact unchanged (congrArg some same) ⟨rfl, rfl⟩
  | createUser email password =>
    simp only [resolve] at resolved
    split_ifs at resolved
    · exact unchanged resolved ⟨rfl, rfl⟩
    · exact register_objects resolved
  | signIn email password =>
    simp only [resolve] at resolved
    split at resolved <;> exact unchanged resolved ⟨rfl, rfl⟩
  | signInWith credential =>
    simp only [resolve] at resolved
    split at resolved
    · exact register_objects resolved
    · exact unchanged resolved ⟨rfl, rfl⟩
  | putData | deleteObject => cases other

/-- Objects are named by URLs of the bucket, if they were before. -/
theorem resolve_isStorageURL {request : Request} {order : List DocumentReference} {fresh : String}
    {transfer : Transfer} {cloud next : Cloud} {answer : request.Response}
    (resolved : request.resolve order fresh transfer cloud = some (next, answer))
    (urls : ∀ object ∈ cloud.objects, isStorageURL object = true) :
    ∀ object ∈ next.objects, isStorageURL object = true := by
  cases request with
  | putData data =>
    simp only [resolve] at resolved
    split_ifs at resolved with drawn
    obtain ⟨rfl, -⟩ := Prod.mk.inj (Option.some.inj resolved)
    intro object member
    rcases List.mem_cons.mp member with rfl | member
    · exact drawn.1
    · exact urls object member
  | deleteObject name =>
    simp only [resolve] at resolved
    split_ifs at resolved
    · obtain ⟨rfl, -⟩ := Prod.mk.inj (Option.some.inj resolved)
      exact fun object member => urls object (List.mem_of_mem_filter member)
    · obtain ⟨rfl, -⟩ := Prod.mk.inj (Option.some.inj resolved)
      exact urls
  | _ =>
    rw [(resolve_objects rfl resolved).1]
    exact urls

end Request

/-- The changes since the listener's last snapshot, removals first. A change of a document that
stays in the result is not reported: the app's listener skips all but additions. -/
def documentChanges (seen documents : List Document) : List DocumentChange :=
  (seen.filter fun document => document.documentID ∉ documents.map Document.documentID).map
      (fun document => ⟨.removed, document⟩) ++
    (documents.filter fun document => document.documentID ∉ seen.map Document.documentID).map
      fun document => ⟨.added, document⟩

/-- The database as a device sees it that has still to send these requests: with the documents that
they add, under names that are drawn for them. A request without a name stays out, as those of another
account do that used the device. Other writes do not matter here, since the app listens to nothing
that it changes or deletes. -/
def withDrafts (store : Firestore) : List Request → List (Option String) → Option Firestore
  | .addDocument collection data :: unsent, some draft :: drafts =>
    if draft ≠ "" ∧ store.Unused draft then
      withDrafts (store.insert (collection.document draft) (data draft)) unsent drafts
    else none
  | _ :: unsent, _ :: drafts => withDrafts store unsent drafts
  | _, _ => some store

/-- The documents of a device that has still to send these requests: stored ones, which stay as they
are, and those of the requests. -/
theorem lookup_withDrafts {unsent : List Request} {drafts : List (Option String)}
    {store known : Firestore} (drafted : withDrafts store unsent drafts = some known) :
    (∀ reference data, store.lookup reference = some data → known.lookup reference = some data) ∧
      ∀ reference data, known.lookup reference = some data → store.lookup reference = some data ∨
        ∃ collection written draft, .addDocument collection written ∈ unsent ∧ draft ≠ "" ∧
          store.Unused draft ∧ collection.document draft = reference ∧ written draft = data := by
  induction unsent generalizing store drafts with
  | nil =>
    obtain rfl : store = known := by simpa [withDrafts] using drafted
    exact ⟨fun _ _ held => held, fun _ _ held => .inl held⟩
  | cons request unsent ih =>
    have skips {rest : List (Option String)} (drafted : withDrafts store unsent rest = some known) :
        (∀ reference data, store.lookup reference = some data →
          known.lookup reference = some data) ∧
        ∀ reference data, known.lookup reference = some data → store.lookup reference = some data ∨
          ∃ collection written draft, .addDocument collection written ∈ request :: unsent ∧
            draft ≠ "" ∧ store.Unused draft ∧ collection.document draft = reference ∧
            written draft = data := by
      refine ⟨(ih drafted).1, fun reference data held => ((ih drafted).2 reference data held).imp_right ?_⟩
      rintro ⟨collection, written, draft, member, rest⟩
      exact ⟨collection, written, draft, List.mem_cons_of_mem _ member, rest⟩
    rcases drafts with _ | ⟨_ | draft, drafts⟩
    · obtain rfl : store = known := by
        cases request <;> simpa [withDrafts] using drafted
      exact ⟨fun _ _ held => held, fun _ _ held => .inl held⟩
    · have rest : withDrafts store unsent drafts = some known := by
        cases request <;> exact drafted
      exact skips rest
    · cases request with
      | addDocument collection data =>
        simp only [withDrafts] at drafted
        split_ifs at drafted with drawn
        obtain ⟨keeps, adds⟩ := ih drafted
        have fresh (reference : DocumentReference) (held : reference ∈ store) :
            reference ≠ collection.document draft := by
          rintro rfl
          exact drawn.2 _ (Finmap.mem_keys.mpr held) (by simp [DocumentReference.ids])
        refine ⟨fun reference data held => keeps reference data ?_, fun reference data held => ?_⟩
        · rw [Firestore.lookup_set, if_neg (fresh reference (Finmap.mem_of_lookup_eq_some held)), held]
        · rcases adds reference data held with before | ⟨other, written, name, member, named, unused, rest⟩
          · rw [Firestore.lookup_set] at before
            split_ifs at before with same
            · exact .inr ⟨collection, _, draft, List.mem_cons_self .., drawn.1, drawn.2, same.symm,
                Option.some.inj before⟩
            · exact .inl before
          · refine .inr ⟨other, written, name, List.mem_cons_of_mem _ member, named, ?_, rest⟩
            intro reference held
            exact unused reference (Finmap.mem_keys.mpr
              (Finmap.mem_insert.mpr (.inr (Finmap.mem_keys.mp held))))
      | _ => exact skips drafted

/-- What a listener's snapshot tells about the store: additions are stored documents, or documents
that the device has still to send. -/
def Reports (store : Firestore) (unsent : List Request) (query : Query)
    (changes : List DocumentChange) : Prop :=
  ∀ change ∈ changes, change.type = .added →
    store.lookup (query.collection.document change.document.documentID) = some change.document.data ∨
      ∃ written, .addDocument query.collection written ∈ unsent ∧
        change.document.documentID ≠ "" ∧ store.Unused change.document.documentID ∧
        written change.document.documentID = change.document.data

/-- The backend of the app. A listener's cursor holds the documents of its last snapshot. -/
abbrev cloud : Backend firebase where
  Store := Cloud
  Choice := Choice
  serve
    | .fail error transfer, store, request => some (store, request.failed error transfer)
    | .answer order fresh transfer, store, request => request.resolve order fresh transfer store
    | .snapshot .., _, _ => none
  Cursor := List Document
  start := []
  publish
    | .fail error _, _, _, seen, _ => some (.error error, seen)
    | .answer order _ _, store, _, seen, query =>
      (query.answer? store.firestore order).map fun documents =>
        (.ok (documentChanges seen documents), documents)
    | .snapshot order drafts lagging, store, unsent, seen, query =>
      if ∀ document ∈ seen, document.documentID ∉ lagging then
        (withDrafts store.firestore unsent drafts).bind fun known =>
          (query.answer? known order).map fun documents =>
            let documents := documents.filter fun document => document.documentID ∉ lagging
            (.ok (documentChanges seen documents), documents)
      else none

/-- An error leaves the listener where it is, and is told only where it failed. -/
theorem publish_error {choice : Choice} {store : Cloud} {unsent : List Request}
    {seen shown : List Document} {query : Query} {error : BackendError}
    (published : cloud.publish choice store unsent seen query = some (.error error, shown)) :
    shown = seen ∧ choice.succeeds = false := by
  cases choice with
  | fail =>
    obtain ⟨-, rfl⟩ := Prod.mk.inj (Option.some.inj published)
    exact ⟨rfl, rfl⟩
  | answer order =>
    obtain ⟨documents, -, same⟩ := Option.map_eq_some_iff.mp published
    cases same
  | snapshot order drafts lagging =>
    simp only at published
    split_ifs at published
    obtain ⟨known, -, rest⟩ := Option.bind_eq_some_iff.mp published
    obtain ⟨documents, -, same⟩ := Option.map_eq_some_iff.mp rest
    cases same

/-- A snapshot tells what has changed since the last one. It lists what the device knows: all that is
stored, unless some of it lags behind, and what it has still to send. -/
theorem publish_cases {choice : Choice} {store : Cloud} {unsent : List Request}
    {seen shown : List Document} {query : Query} {changes : List DocumentChange}
    (published : cloud.publish choice store unsent seen query = some (.ok changes, shown)) :
    changes = documentChanges seen shown ∧ ∃ drafts known order, ∃ documents : List Document,
      withDrafts store.firestore unsent drafts = some known ∧
      query.answer? known order = some documents ∧
      (∀ document ∈ seen, document.documentID ∉ choice.lagging) ∧
      shown = documents.filter fun document => document.documentID ∉ choice.lagging := by
  cases choice with
  | fail => cases published
  | answer order =>
    obtain ⟨documents, answered, same⟩ := Option.map_eq_some_iff.mp published
    obtain ⟨told, rfl⟩ := Prod.mk.inj same
    refine ⟨(Except.ok.inj told).symm, [], store.firestore, order, documents, ?_, answered,
      by simp [Choice.lagging], by simp [Choice.lagging]⟩
    cases unsent with
    | nil => rfl
    | cons request => cases request <;> rfl
  | snapshot order drafts lagging =>
    simp only at published
    split_ifs at published with fine
    obtain ⟨known, drafted, rest⟩ := Option.bind_eq_some_iff.mp published
    obtain ⟨documents, answered, same⟩ := Option.map_eq_some_iff.mp rest
    obtain ⟨told, rfl⟩ := Prod.mk.inj same
    exact ⟨(Except.ok.inj told).symm, drafts, known, order, documents, drafted, answered, fine, rfl⟩

theorem publish_reports {choice : Choice} {store : Cloud} {unsent : List Request}
    {seen shown : List Document} {query : Query} {changes : List DocumentChange}
    (published : cloud.publish choice store unsent seen query = some (.ok changes, shown)) :
    Reports store.firestore unsent query changes := by
  obtain ⟨rfl, drafts, known, order, documents, drafted, answered, -, rfl⟩ :=
    publish_cases published
  intro change member added
  rcases List.mem_append.mp member with member | member
  · obtain ⟨document, -, rfl⟩ := List.mem_map.mp member
    cases added
  · obtain ⟨document, kept, rfl⟩ := List.mem_map.mp member
    have held := Query.lookup_answer? answered (List.mem_of_mem_filter (List.mem_of_mem_filter kept))
    refine ((lookup_withDrafts drafted).2 _ _ held).imp_right ?_
    rintro ⟨collection, written, draft, unsent, drawn, unused, path, same⟩
    obtain rfl : collection = query.collection := by
      simpa using congrArg DocumentReference.parent path
    obtain rfl : draft = document.documentID := by
      simpa using congrArg DocumentReference.documentID path
    exact ⟨written, unsent, drawn, unused, same⟩

/-- A request that does not fail reaches the backend. -/
theorem serve_succeeds {choice : Choice} {store next : Cloud} {request : Request}
    {answer : request.Response} (succeeds : choice.succeeds = true)
    (served : cloud.serve choice store request = some (next, answer)) :
    ∃ order fresh transfer, request.resolve order fresh transfer store = some (next, answer) := by
  cases choice with
  | fail => cases succeeds
  | answer order fresh transfer => exact ⟨order, fresh, transfer, served⟩
  | snapshot => cases served

/-- An upload that does not fail and whose progress can be shown. -/
theorem serve_smooth {choice : Choice} {store next : Cloud} {data : Bytes} {upload : Upload}
    (smooth : choice.smooth = true)
    (served : cloud.serve choice store (.putData data) = some (next, upload)) :
    upload.steady = true ∧ ∃ ref, upload.result = .ok ref ∧
      next = { store with objects := ref :: store.objects } := by
  obtain ⟨succeeds, steady⟩ := Bool.and_eq_true_iff.mp smooth
  cases choice with
  | fail => cases succeeds
  | answer order fresh transfer =>
    simp only [Request.resolve] at served
    split_ifs at served
    obtain ⟨rfl, rfl⟩ := Prod.mk.inj (Option.some.inj served)
    exact ⟨steady, fresh, rfl, rfl⟩
  | snapshot => cases served

/-- The answer shows no progress that stops the app. -/
def Request.Steady : (request : Request) → request.Response → Prop
  | .putData _, upload => upload.steady = true
  | _, _ => True

theorem Request.steady_serve {choice : Choice} {store next : Cloud} {request : Request}
    {answer : request.Response} (steady : choice.steady = true)
    (served : cloud.serve choice store request = some (next, answer)) : request.Steady answer := by
  cases request with
  | putData =>
    cases choice with
    | fail error transfer =>
      obtain ⟨-, rfl⟩ := Prod.mk.inj (Option.some.inj served)
      exact steady
    | answer order fresh transfer =>
      simp only [Request.resolve] at served
      split_ifs at served
      obtain ⟨-, rfl⟩ := Prod.mk.inj (Option.some.inj served)
      exact steady
    | snapshot => cases served
  | _ => trivial

/-- A request fails and changes nothing, or it reaches the backend. -/
theorem serve_cases {choice : Choice} {store next : Cloud} {request : Request}
    {answer : request.Response} (served : cloud.serve choice store request = some (next, answer)) :
    (next = store ∧ ∃ error transfer, answer = request.failed error transfer) ∨
      ∃ order fresh transfer, request.resolve order fresh transfer store = some (next, answer) := by
  cases choice with
  | fail error transfer =>
    obtain ⟨rfl, rfl⟩ := Prod.mk.inj (Option.some.inj served)
    exact .inl ⟨rfl, error, transfer, rfl⟩
  | answer order fresh transfer => exact .inr ⟨order, fresh, transfer, served⟩
  | snapshot => cases served

/-- The database after a request that does not fail. -/
theorem serve_firestore {choice : Choice} {store next : Cloud} {request : Request}
    {answer : request.Response} (succeeds : choice.succeeds = true)
    (served : cloud.serve choice store request = some (next, answer)) :
    ∃ fresh, next.firestore = request.apply fresh store.firestore ∧
      request.Draws fresh store.firestore := by
  obtain ⟨order, fresh, transfer, resolved⟩ := serve_succeeds succeeds served
  exact ⟨fresh, Request.resolve_firestore resolved⟩

/-- What any answer tells: it is an error, or it answers from a store of the given kind. -/
def Request.Replies (known : Cloud → Prop) (store : Cloud) (request : Request)
    (answer : request.Response) : Prop :=
  (∃ error transfer, answer = request.failed error transfer) ∨
    known store ∧ request.Answers store answer

theorem Request.Replies.document {known : Cloud → Prop} {store : Cloud}
    {reference : DocumentReference} {snapshot : Option Dictionary}
    (replied : (getDocument reference).Replies known store (.ok snapshot)) :
    known store ∧ store.firestore.lookup reference = snapshot := by
  rcases replied with ⟨error, transfer, impossible⟩ | ⟨stored, answer⟩
  · cases impossible
  · exact ⟨stored, (Except.ok.inj answer).symm⟩

theorem Request.Replies.documents {known : Cloud → Prop} {store : Cloud} {query : Query}
    {documents : List Document}
    (replied : (getDocuments query).Replies known store (.ok documents)) :
    known store ∧ (getDocuments query).Answers store (.ok documents) := by
  rcases replied with ⟨error, transfer, impossible⟩ | answers
  · cases impossible
  · exact answers

/-- The signal makes no request and no listener fail. -/
def succeeds : Signal cloud → Bool
  | .serve _ choice | .notify _ choice => Choice.succeeds choice
  | .deliver _ => true

/-- The signal makes no request and no listener fail, and no upload stop the app. -/
def smooth : Signal cloud → Bool
  | .serve _ choice | .notify _ choice => Choice.smooth choice
  | .deliver _ => true

end InstagramClone
