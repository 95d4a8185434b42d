import InstagramClone.Discipline.Controllers

/-! # Whose documents a session writes

A session of an account writes the account's own documents, adds posts, comments and notifications
in its name, and changes two fields of posts. Nothing else of a post ever changes, and neither do
comments and notifications.
-/

namespace InstagramClone

open Async PostService

/-- The account that a document belongs to. -/
def DocumentReference.owner? : DocumentReference → Option Uid
  | user uid | userFeed uid _ | userLike uid _ | following uid _ | follower _ uid
  | postLike _ uid => some uid
  | post _ | comment .. | notification .. => none

/-- The requests of a session of the account. -/
inductive Request.OwnedBy (uid : Uid) (store : Firestore) : Request → Prop
  | read {request} : request.writes = false → OwnedBy uid store request
  | entry {reference} (present : Bool) : reference.parent ≠ .users → reference.owner? = some uid →
    OwnedBy uid store (.put reference present)
  | record {data} : data "uid" = some (.string uid) → OwnedBy uid store (.setData (.user uid) data)
  | profileImage (image : String) :
    OwnedBy uid store (.updateData (.user uid) (.ofList [("profileImage", .string image)]))
  | post {data} : (∀ id, (data id) "ownerUid" = some (.string uid)) →
    OwnedBy uid store (.addDocument .posts data)
  | comment {data} (post : PostId) : (∀ id, (data id) "uid" = some (.string uid)) →
    OwnedBy uid store (.addDocument (.comments post) data)
  | notification {data} (receiver : Uid) : (∀ id, (data id) "uid" = some (.string uid)) →
    OwnedBy uid store (.addDocument (.userNotifications receiver) data)
  | likes (post : PostId) (likes : ℤ) :
    OwnedBy uid store (.updateData (.post post) (.ofList [("likes", .int likes)]))
  | ownerProfileImage {post} (image : String) : PostService.OwnedBy store uid post →
    OwnedBy uid store (.updateData (.post post) (.ofList [("ownerProfileImage", .string image)]))

namespace WriteOwnership

variable {ι : Type}

/-- Stored posts keep all their fields but two, and stored comments and notifications stay. -/
structure Frozen (before after : Firestore) : Prop where
  posts : ∀ post data, before.lookup (.post post) = some data →
    ∃ later, after.lookup (.post post) = some later ∧
      ∀ key, key ≠ "likes" → key ≠ "ownerProfileImage" → later key = data key
  comments : ∀ post id data, before.lookup (.comment post id) = some data →
    after.lookup (.comment post id) = some data
  notifications : ∀ receiver id data, before.lookup (.notification receiver id) = some data →
    after.lookup (.notification receiver id) = some data

/-- The stored records of the accounts name them. -/
def Records (account : ι → Uid) (store : Firestore) : Prop :=
  ∀ client data, store.lookup (.user (account client)) = some data →
    data "uid" = some (.string (account client))

/-- A device on which the app has just been opened, signed in to the account. -/
structure Opened (uid : Uid) (app : App) : Prop where
  currentUser : app.currentUser = some uid
  user : ∀ user ∈ app.user, user.uid = uid
  objects : app.objects = []

namespace Frozen

variable {first second third : Firestore}

private theorem refl (store : Firestore) : Frozen store store :=
  ⟨fun _ data stored => ⟨data, stored, fun _ _ _ => rfl⟩, fun _ _ _ => id, fun _ _ _ => id⟩

private theorem trans (left : Frozen first second) (right : Frozen second third) :
    Frozen first third := by
  refine ⟨fun post data stored => ?_, fun post id data stored => ?_, fun receiver id data stored => ?_⟩
  · obtain ⟨middle, still, same⟩ := left.posts post data stored
    obtain ⟨last, stays, again⟩ := right.posts post middle still
    exact ⟨last, stays, fun key likes image => (again key likes image).trans (same key likes image)⟩
  · exact right.comments post id data (left.comments post id data stored)
  · exact right.notifications receiver id data (left.notifications receiver id data stored)

private theorem ownedBy (frozen : Frozen first second) {uid : Uid} {post : PostId}
    (owned : OwnedBy first uid post) : OwnedBy second uid post := by
  cases stored : first.lookup (.post post) with
  | none => simp [OwnedBy, stored] at owned
  | some data =>
    obtain ⟨later, still, same⟩ := frozen.posts post data stored
    rw [OwnedBy, still]
    simpa [OwnedBy, stored, same "ownerUid" (by decide) (by decide)] using owned

end Frozen

section Serve

variable {uid : Uid} {store : Firestore} {fresh : String} {request : Request}

/-- A request leaves every stored document that belongs to no session of its account and that it
does not update. -/
private theorem lookup_apply_of_owned (owned : request.OwnedBy uid store)
    (draws : request.Draws fresh store) {reference : DocumentReference} {data : Dictionary}
    (stored : store.lookup reference = some data) (apart : reference.owner? ≠ some uid)
    (kept : ∀ fields, request ≠ .updateData reference fields) :
    (request.apply fresh store).lookup reference = some data := by
  rw [← stored]
  have drawn {collection : CollectionReference} {fields : String → Dictionary}
      (unused : store.Unused fresh) :
      ((Request.addDocument collection fields).apply fresh store).lookup reference =
        store.lookup reference := by
    have other : reference ≠ collection.document fresh := by
      rintro rfl
      exact unused _ (Finmap.mem_keys.mpr (Finmap.mem_of_lookup_eq_some stored))
        (by simp [DocumentReference.ids])
    simp [Request.apply, other]
  cases owned with
  | read reads => cases request <;> first | rfl | cases reads
  | entry present _ mine =>
    refine Request.lookup_apply fun touches => apart ?_
    rw [← Request.touches_put.mp touches, mine]
  | record | profileImage =>
    refine Request.lookup_apply fun touches => apart ?_
    rw [← show DocumentReference.user uid = reference from touches]
    rfl
  | post | comment | notification => exact drawn draws.2
  | likes post | ownerProfileImage =>
    refine Request.lookup_apply fun touches => ?_
    obtain rfl : DocumentReference.post _ = reference := touches
    exact kept _ rfl

/-- Updates are of the account's record and of posts. -/
private theorem update_of_owned {reference : DocumentReference} {fields : Dictionary}
    (owned : (Request.updateData reference fields).OwnedBy uid store) :
    reference = .user uid ∨ ∃ post key value, reference = .post post ∧
      fields = .ofList [(key, value)] ∧ (key = "likes" ∨ key = "ownerProfileImage") := by
  generalize updates : Request.updateData reference fields = request at owned
  cases owned with
  | read reads =>
    subst updates
    cases reads
  | entry present => cases present <;> cases updates
  | profileImage =>
    cases updates
    exact .inl rfl
  | likes post =>
    cases updates
    exact .inr ⟨post, _, _, rfl, rfl, .inl rfl⟩
  | ownerProfileImage =>
    cases updates
    exact .inr ⟨_, _, _, rfl, rfl, .inr rfl⟩
  | _ => cases updates

/-- A served request of a session freezes what it does not own. -/
private theorem frozen_apply (owned : request.OwnedBy uid store) (draws : request.Draws fresh store) :
    Frozen store (request.apply fresh store) := by
  refine ⟨fun post data stored => ?_, fun post id data stored => ?_, fun receiver id data stored => ?_⟩
  · by_cases updates : ∃ fields, request = .updateData (.post post) fields
    · obtain ⟨fields, rfl⟩ := updates
      rcases update_of_owned owned with impossible | ⟨_, key, value, same, rfl, free⟩
      · cases impossible
      · refine ⟨data.updating (.ofList [(key, value)]), by simp [Request.apply, stored], ?_⟩
        intro other likes image
        refine Dictionary.updating_of_ne data value ?_
        rcases free with rfl | rfl <;> assumption
    · refine ⟨data, lookup_apply_of_owned owned draws stored (by simp [DocumentReference.owner?]) ?_,
        fun _ _ _ => rfl⟩
      exact fun fields same => updates ⟨fields, same⟩
  · refine lookup_apply_of_owned owned draws stored (by simp [DocumentReference.owner?]) ?_
    rintro fields rfl
    rcases update_of_owned owned with impossible | ⟨_, _, _, impossible, -⟩ <;> cases impossible
  · refine lookup_apply_of_owned owned draws stored (by simp [DocumentReference.owner?]) ?_
    rintro fields rfl
    rcases update_of_owned owned with impossible | ⟨_, _, _, impossible, -⟩ <;> cases impossible

/-- The documents of an account are written by its own sessions only. -/
private theorem owner_of_touches (owned : request.OwnedBy uid store) {reference : DocumentReference}
    (touches : request.Touches reference) {other : Uid} (theirs : reference.owner? = some other) :
    other = uid := by
  cases owned with
  | read reads => cases request <;> first | exact touches.elim | cases reads
  | entry present _ mine =>
    obtain rfl := Request.touches_put.mp touches
    exact Option.some.inj (theirs.symm.trans mine)
  | record | profileImage =>
    obtain rfl : DocumentReference.user uid = reference := touches
    exact (Option.some.inj theirs).symm
  | post | comment | notification =>
    have collection : _ = reference.parent := touches
    cases reference <;> simp [DocumentReference.owner?, DocumentReference.parent] at theirs collection
  | likes post | ownerProfileImage =>
    obtain rfl : DocumentReference.post _ = reference := touches
    cases theirs

/-- The accounts' records keep naming them. -/
private theorem records_apply {account : ι → Uid} (owned : request.OwnedBy uid store)
    (records : Records account store) : Records account (request.apply fresh store) := by
  intro client data stored
  by_cases touches : request.Touches (.user (account client))
  · have same := owner_of_touches owned touches rfl
    cases owned with
    | read reads => cases request <;> first | exact touches.elim | cases reads
    | entry present outside _ =>
      rw [Request.touches_put.mp touches] at outside
      exact (outside rfl).elim
    | record names =>
      rw [same] at stored ⊢
      obtain rfl : _ = data := by simpa [Request.apply] using stored
      exact names
    | profileImage image =>
      rw [same] at stored ⊢
      cases before : store.lookup (.user uid) with
      | none => simp [Request.apply, before] at stored
      | some old =>
        obtain rfl : old.updating _ = data := by simpa [Request.apply, before] using stored
        rw [Dictionary.updating_of_ne old _ (by decide)]
        exact same ▸ records client old (same ▸ before)
    | post | comment | notification => cases touches
    | likes post | ownerProfileImage => cases touches
  · rw [Request.lookup_apply touches] at stored
    exact records client data stored

end Serve

/-- A session is signed in to its account, and holds no user as its own but the account's. -/
def policy (uid : Uid) : Policy Cloud where
  signed _ current := current = uid
  mine current := current = uid
  user _ _ := True
  own _ current := current = uid
  signs _ user := user.uid = uid
  uploads _ current _ := current = uid
  stored _ _ := True
  post _ _ _ _ := True
  notification _ _ _ _ := True
  path _ := True

private theorem policy_mono (uid : Uid) (evolves : Cloud → Cloud → Prop) :
    (policy uid).Mono evolves := by
  constructor <;> exact fun _ known => known

/-- The sessions' requests, over stores that freeze what they do not own. -/
def contract (account : ι → Uid) : Contract firebase Cloud App ι where
  invariant store := Records account store.firestore
  evolves before after := Frozen before.firestore after.firestore
  holds client store app := (policy (account client)).Governs store app
  allows client store request := request.OwnedBy (account client) store.firestore
  opens _ _ _ := True
  replies := fun store request => request.Replies (fun store => Records account store.firestore) store
  reports _ _ _ := True
  mayTrap := True
  refl store := .refl store.firestore
  trans := .trans
  holds_mono evolves valid :=
    (policy_mono _ fun before after => Frozen before.firestore after.firestore).governs_mono evolves
      valid
  allows_mono := by
    intro client first second request frozen owned
    cases owned with
    | read reads => exact .read reads
    | entry present outside mine => exact .entry present outside mine
    | record names => exact .record names
    | profileImage image => exact .profileImage image
    | post names => exact .post names
    | comment post names => exact .comment post names
    | notification receiver names => exact .notification receiver names
    | likes post likes => exact .likes post likes
    | ownerProfileImage image owned => exact .ownerProfileImage image (frozen.ownedBy owned)
  opens_mono _ _ := trivial

variable {account : ι → Uid} {client : ι}

private theorem replies_iff {store : Cloud} {request : Request} {answer : request.Response} :
    (contract account).replies store request answer ↔
      request.Replies (fun store => Records account store.firestore) store answer :=
  Iff.rfl

private theorem policy_reads : (policy (account client)).Reads (contract account) client where
  toMono := policy_mono _ _
  holds_iff _ _ := Iff.rfl
  signed_mine := id
  mine_own mine _ := mine
  post_owner _ := trivial
  notification_author _ := trivial
  notification_post _ _ := trivial
  signed_path _ := trivial
  user_path _ := trivial
  stored_path _ := trivial
  post_path _ := trivial
  allows reads _ := .read reads
  opens _ := trivial
  user_read := by
    intro store uid data replied
    refine ⟨trivial, ?_⟩
    rintro rfl
    obtain ⟨records, stored⟩ := (replies_iff.mp replied).document
    simp [policy, Dictionary.string, records client data stored]
  users_read _ _ _ := trivial
  post_read _ := trivial
  posts_read _ _ _ := trivial
  feeds_read _ _ _ := trivial
  notifications_read _ _ _ _ _ := trivial
  comments_reported _ _ _ _ := trivial

private theorem policy_writes : (policy (account client)).Writes (contract account) client where
  toReads := policy_reads
  like_counter _ likes _ := .likes _ likes
  like := by
    rintro store uid id owner image rfl _ present
    exact ⟨.entry present (by simp [DocumentReference.parent]) rfl,
      .entry present (by simp [DocumentReference.parent]) rfl⟩
  edge := by
    rintro store uid other rfl _ _ present
    exact ⟨.entry present (by simp [DocumentReference.parent]) rfl,
      .entry present (by simp [DocumentReference.parent]) rfl⟩
  edge_notified := by
    rintro store uid other post rfl _ present
    exact ⟨.entry present (by simp [DocumentReference.parent]) rfl,
      .entry present (by simp [DocumentReference.parent]) rfl⟩
  feed := by
    rintro store uid other documents rfl _ document _ present
    exact .entry present (by simp [DocumentReference.parent]) rfl
  notify_follow := by
    rintro store uid other user _ _ _ signs _ timestamp
    exact .notification other fun _ => by rw [← signs]; rfl
  notify_post := by
    rintro store uid post user type _ _ _ signs _ _ timestamp
    exact .notification post.ownerUid fun _ => by rw [← signs]; rfl
  comment := by
    intro store post user _ signs text timestamp
    exact .comment post.postId fun _ => by rw [← signs]; rfl
  upload := by
    rintro store uid user rfl caption timestamp imageUrl
    exact .post fun _ => rfl
  save := by
    rintro store uid profileImage rfl - email fullname username
    exact .record rfl
  picture := by
    rintro store uid profileImage rfl -
    exact .profileImage profileImage
  owner_image := by
    rintro store uid documents rfl replied document listed profileImage
    obtain ⟨-, answers⟩ := (replies_iff.mp replied).documents
    exact .ownerProfileImage profileImage
      ((mem_answer_ownedBy answers _).mp (List.mem_map_of_mem listed))

/-- Whatever the backend does with a session's request, it freezes what the session does not own. -/
private theorem lawful : cloud.Lawful (contract account) fun _ => True where
  serve := by
    intro choice client store request next answer _ records owned served
    rcases serve_cases served with ⟨rfl, failed⟩ | ⟨order, fresh, transfer, resolved⟩
    · exact ⟨records, .refl _, .inl failed⟩
    · obtain ⟨applied, draws⟩ := Request.resolve_firestore resolved
      have still : Records account next.firestore := by
        rw [applied]
        exact records_apply owned records
      refine ⟨still, ?_, .inr ⟨still, Request.resolve_answers resolved⟩⟩
      dsimp only [contract]
      rw [applied]
      exact frozen_apply owned draws
  publish _ _ _ _ := trivial

section Runs

variable [DecidableEq ι] {net middle final : Network cloud App ι ι}
  {first second : List (Event cloud ι UserAction)}

/-- Whatever the users and the surroundings do, sessions keep the contract. -/
theorem sound_event {event : Event cloud ι UserAction} (sound : net.Sound (contract account) id)
    (taken : net.event? UserAction.perform event = some final) :
    final.Sound (contract account) id ∧ Frozen net.store.firestore final.store.firestore := by
  refine sound.event lawful (fun signal _ => ?_) (fun client action _ app running => ?_) taken
  · cases signal <;> trivial
  · have valid := sound.clients client app running
    refine policy_writes.effect_perform valid (UserAction.Signed.authored ?_)
    cases action with
    | feedCellOnTapLike | commentOnTapPost | profileOnTapEditProfile =>
      exact fun user shown => (valid.user user shown).2
    | uploadOnTapShare => exact fun _ _ _ _ uid current => valid.signed uid current
    | _ => trivial

omit [DecidableEq ι] in
theorem sound_start (records : Records account net.store.firestore)
    (opened : ∀ client app, net.clients client = some app → Opened (account client) app)
    (idle : net.flight = []) (quiet : net.listeners = []) : net.Sound (contract account) id := by
  refine ⟨records, fun _ _ => trivial, fun client app running => ?_, by simp [idle], by simp [quiet]⟩
  obtain ⟨current, user, objects⟩ := opened client app running
  refine ⟨fun uid shown => ?_, fun shown present => ⟨⟨trivial, trivial⟩, user shown present⟩,
    fun _ _ => trivial, by simp [objects]⟩
  exact (Option.some.inj (current.symm.trans shown)).symm

/-- What sessions of the accounts ask for is their own, and the documents of an account change
only when a request of one of its sessions is served. -/
structure Separated (account : ι → Uid) (net : Network cloud App ι ι) : Prop where
  requests : ∀ pending ∈ net.flight,
    pending.call.request.OwnedBy (account pending.origin) net.store.firestore
  documents : ∀ event next, net.event? UserAction.perform event = some next →
    ∀ reference uid, reference.owner? = some uid →
      next.store.firestore.lookup reference ≠ net.store.firestore.lookup reference →
      ∃ index choice, event = .signal (.serve index choice) ∧
        ∃ pending, net.flight[index]? = some pending ∧ account pending.origin = uid

private theorem separated_of_sound (sound : net.Sound (contract account) id) :
    Separated account net := by
  refine ⟨fun pending member => (sound.flight pending member).1, ?_⟩
  intro event next taken reference uid owner changes
  cases event with
  | act client action =>
    obtain rfl := Option.some.inj taken
    simp at changes
  | signal signal =>
    cases signal with
    | deliver index =>
      obtain ⟨_, _, _, _, _, -, -, rfl⟩ := Network.deliver?_cases taken
      simp at changes
    | notify index choice =>
      obtain ⟨_, _, _, _, _, _, _, -, -, rfl⟩ := Network.notify?_cases taken
      simp at changes
    | serve index choice =>
      obtain ⟨before, after, origin, call, store, answer, split, rfl, served, rfl⟩ :=
        Network.serve?_cases taken
      refine ⟨before.length, choice, rfl, ⟨origin, call, none⟩, by simp [split], ?_⟩
      have owned := (sound.flight ⟨origin, call, none⟩ (by simp [split])).1
      rcases serve_cases served with ⟨rfl, -⟩ | ⟨order, fresh, transfer, resolved⟩
      · exact (changes rfl).elim
      · obtain ⟨applied, -⟩ := Request.resolve_firestore resolved
        dsimp only at changes
        rw [applied] at changes
        refine (owner_of_touches owned ?_ owner).symm
        by_contra untouched
        exact changes (Request.lookup_apply untouched)

/-- Along every run of sessions, each signed in to one account, sessions write what is theirs; and
from any state of the run to any later one, posts keep all but two of their fields and comments
and notifications stay. -/
theorem writes_owned (records : Records account net.store.firestore)
    (opened : ∀ client app, net.clients client = some app → Opened (account client) app)
    (idle : net.flight = []) (quiet : net.listeners = [])
    (run : Run (fun net event next => net.event? UserAction.perform event = some next) net first
      middle)
    (rest : Run (fun net event next => net.event? UserAction.perform event = some next) middle second
      final) :
    Separated account middle ∧ Frozen middle.store.firestore final.store.firestore := by
  have sound : middle.Sound (contract account) id :=
    run.invariant (sound_start records opened idle quiet) fun taken sound =>
      (sound_event sound taken).1
  have along := rest.history (fun _ net => net.Sound (contract account) id ∧
      Frozen middle.store.firestore net.store.firestore) ⟨sound, .refl _⟩
    fun taken ⟨sound, frozen⟩ =>
      have ⟨next, step⟩ := sound_event sound taken
      ⟨next, frozen.trans step⟩
  exact ⟨separated_of_sound sound, along.2⟩

end Runs

/-- Two accounts, of which the first is loaded. -/
def accounts (client : Bool) : Uid := if client then "a" else "b"

def uploader : User := ⟨"", "", "", "", "a", ⟨0, 0, 0⟩, false⟩

def opened : Network cloud App Bool Bool where
  store := {}
  clients client := some
    { currentUser := some (accounts client), user := if client then some uploader else none }

/-- A post is uploaded as far as its image. -/
def uploading : List (Event cloud Bool UserAction) :=
  [.act true (.tabsDidFinishPicking ⟨some [0]⟩), .act true (.uploadOnTapShare 0)] ++
    drain [Choice.drawing ("gs://" ++ storageBucket ++ "/photo")] ++ drain [Choice.drawing ""]

/-- One account uploads a post while another's session is open. -/
theorem writes_owned_upload :
    ∃ middle final,
      Run (fun net event next => net.event? UserAction.perform event = some next) opened uploading
        middle ∧
      Run (fun net event next => net.event? UserAction.perform event = some next) middle
        (drain [Choice.drawing "p"]) final ∧
      Separated accounts middle ∧ Frozen middle.store.firestore final.store.firestore := by
  have completes : (replay? (Network.event? UserAction.perform) opened
      (uploading ++ drain [Choice.drawing "p"])).any (fun final =>
        decide (.post "p" ∈ final.store.firestore)) = true := by
    decide +kernel
  obtain ⟨final, run, -⟩ := exists_run_of_replay? completes
  obtain ⟨middle, left, right⟩ := run.passes
  refine ⟨middle, final, left, right, writes_owned ?_ ?_ rfl rfl left right⟩
  · intro client data stored
    simp [opened] at stored
  · rintro client app running
    obtain rfl := Option.some.inj running
    refine ⟨rfl, fun shown present => ?_, rfl⟩
    cases client with
    | false => simp at present
    | true =>
      obtain rfl : uploader = shown := by simpa using present
      rfl

end WriteOwnership

end InstagramClone
