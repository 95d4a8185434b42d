import InstagramClone.Async.Log
import InstagramClone.Discipline.Devices
import InstagramClone.Model.TypedRecords
import InstagramClone.Soundness.StoredRecords

/-! # The documents are the records

Whatever any number of devices do, and whatever fails, every write that the app issues is a change
of the typed records, and the documents are those of the records after the changes whose writes
succeeded, in the order served. So every stored document decodes to the record that it was made
from, and its id is the one it stands under.
-/

namespace InstagramClone

open Async

/-- The writes that succeeded, in the order served. -/
def written (served : List (Served firebase)) : List Request :=
  (served.filter fun entry => entry.succeeded && entry.request.writes).map Served.request

private theorem written_append (served : List (Served firebase)) (entry : Served firebase) :
    written (served ++ [entry]) = written served ++
      if entry.succeeded && entry.request.writes then [entry.request] else [] := by
  unfold written
  rw [List.filter_append, List.map_append]
  split_ifs with counts <;> simp [counts]

/-- The records after changes, each with the id drawn for it. -/
def Records.after (records : Records) (changes : List (RecordChange × String)) : Records :=
  changes.foldl (fun records change => change.1.apply change.2 records) records

/-- The documents are those of the records after the changes whose writes succeeded. -/
def Written (records : Records) (state : Recorded firebase Cloud) : Prop :=
  ∃ changes : List (RecordChange × String),
    written state.served = changes.map (fun change => change.1.request) ∧
    (records.after changes).Represents state.store.firestore

/-- The request, if it writes, is that of a change. -/
def Request.Typed (request : Request) : Prop :=
  request.writes = true → ∃ change : RecordChange, change.request = request

namespace TypedStore

variable {ι : Type} {client : ι} {records : Records} {state next : Recorded firebase Cloud}
  {choice : Choice} {request : Request} {answer : request.Response}

/-- A write that succeeded did to the database what it does to its document. -/
private theorem apply_of_succeeded {cloud later : Cloud} {order : List DocumentReference}
    {fresh : String} {transfer : Transfer}
    (resolved : request.resolve order fresh transfer cloud = some (later, answer)) :
    later.firestore = request.apply fresh cloud.firestore :=
  (Request.resolve_firestore resolved).1

/-- A write that did not succeed changed nothing. -/
private theorem same_of_failed {cloud later : Cloud} {order : List DocumentReference} {fresh : String}
    {transfer : Transfer}
    (resolved : request.resolve order fresh transfer cloud = some (later, answer))
    (failed : request.succeeded answer = false) : later.firestore = cloud.firestore := by
  cases request with
  | setData reference data =>
    obtain ⟨rfl, rfl⟩ := Prod.mk.inj (Option.some.inj resolved)
    cases failed
  | updateData reference fields =>
    simp only [Request.resolve] at resolved
    split at resolved
    · obtain ⟨rfl, rfl⟩ := Prod.mk.inj (Option.some.inj resolved)
      rfl
    · obtain ⟨rfl, rfl⟩ := Prod.mk.inj (Option.some.inj resolved)
      cases failed
  | delete reference =>
    obtain ⟨rfl, rfl⟩ := Prod.mk.inj (Option.some.inj resolved)
    cases failed
  | addDocument collection data =>
    simp only [Request.resolve] at resolved
    split_ifs at resolved
    obtain ⟨rfl, rfl⟩ := Prod.mk.inj (Option.some.inj resolved)
    cases failed
  | _ => exact (Request.resolve_firestore resolved).1

/-- A request that is no write leaves the documents alone. -/
theorem same_of_reads {cloud later : Cloud} {order : List DocumentReference} {fresh : String}
    {transfer : Transfer}
    (resolved : request.resolve order fresh transfer cloud = some (later, answer))
    (reads : request.writes = false) : later.firestore = cloud.firestore := by
  rw [apply_of_succeeded resolved]
  cases request with
  | setData | updateData | delete | addDocument => cases reads
  | _ => rfl

/-- Serving a typed request keeps the documents those of the records. -/
private theorem written_serve (kept : Written records state) (typed : request.Typed)
    (served : (cloud.recorded Request.succeeded).serve choice state request = some (next, answer)) :
    Written records next := by
  obtain ⟨changes, logged, represents⟩ := kept
  obtain ⟨resolved, recorded⟩ := recorded_serve served
  by_cases counts : (request.succeeded answer && request.writes) = true
  · obtain ⟨succeeded, writes⟩ := Bool.and_eq_true_iff.mp counts
    rcases serve_cases resolved with ⟨-, error, transfer, rfl⟩ | ⟨order, fresh, transfer, resolved⟩
    · rw [Request.succeeded_failed] at succeeded
      cases succeeded
    · obtain ⟨change, rfl⟩ := typed writes
      refine ⟨changes ++ [(change, fresh)], ?_, ?_⟩
      · rw [recorded, written_append, if_pos counts, logged, List.map_append]
        rfl
      · rw [apply_of_succeeded resolved, Records.after, List.foldl_append]
        exact change.represents_apply represents
  · refine ⟨changes, ?_, ?_⟩
    · rw [recorded, written_append, if_neg counts, List.append_nil, logged]
    · have same : next.store.firestore = state.store.firestore := by
        rcases serve_cases resolved with ⟨same, -⟩ | ⟨order, fresh, transfer, resolved⟩
        · rw [same]
        · rcases Bool.eq_false_or_eq_true (request.succeeded answer) with succeeded | failed
          · apply same_of_reads resolved
            simpa [succeeded] using counts
          · exact same_of_failed resolved failed
      rwa [same]

/-- The documents stay those of some records. -/
theorem represents_serve {before after : Cloud} {reply : request.Response} (kept :
      ∃ records : Records, records.Represents before.firestore) (typed : request.Typed)
    (served : cloud.serve choice before request = some (after, reply)) :
    ∃ records : Records, records.Represents after.firestore := by
  obtain ⟨records, represents⟩ := kept
  rcases serve_cases served with ⟨rfl, -⟩ | ⟨order, fresh, transfer, resolved⟩
  · exact ⟨records, represents⟩
  rcases Bool.eq_false_or_eq_true request.writes with writes | reads
  · obtain ⟨change, rfl⟩ := typed writes
    refine ⟨change.apply fresh records, ?_⟩
    rw [apply_of_succeeded resolved]
    exact change.represents_apply represents
  · exact ⟨records, same_of_reads resolved reads ▸ represents⟩

section Typed

variable {S : Type} {invariant : S → Prop} {evolves : S → S → Prop} {refl : ∀ state, evolves state state}
  {trans : ∀ first second third, evolves first second → evolves second third → evolves first third}

/-- A policy that says nothing at all. -/
def policy (S : Type) : Policy S :=
  .free (fun _ => True) (fun _ => True) (fun _ _ => True) (fun _ => True) fun _ _ _ => True

theorem governs (state : S) (app : App) : (policy S).Governs state app := by
  refine ⟨fun _ _ => trivial, fun _ _ => ⟨⟨trivial, trivial⟩, trivial⟩, fun _ _ => trivial,
    fun entry _ => ?_⟩
  cases entry.object <;>
    simp [Policy.object, Policy.hasUser, Policy.hasPost, Policy.hasNotification, policy, Policy.free]

/-- Every write is that of a change of the records, and the state evolves accordingly. -/
def contract (ι : Type) (invariant : S → Prop) (evolves : S → S → Prop)
    (refl : ∀ state, evolves state state)
    (trans : ∀ first second third, evolves first second → evolves second third →
      evolves first third) : Contract firebase S App ι where
  invariant := invariant
  evolves := evolves
  holds _ _ _ := True
  allows _ _ request := request.Typed
  opens _ _ _ := True
  replies _ _ _ := True
  reports _ _ _ := True
  mayTrap := True
  refl := refl
  trans := trans _ _ _
  holds_mono _ _ := trivial
  allows_mono _ := id
  opens_mono _ _ := trivial

private theorem policy_reads : (policy S).Reads (contract ι invariant evolves refl trans) client := by
  refine Policy.free_reads (fun _ known => known) (fun state app => ?_) (fun _ request reads => ?_)
    (fun _ _ => trivial) (fun _ => trivial) fun _ _ _ => trivial
  · exact iff_of_true trivial (governs state app)
  · intro writes
    rw [reads] at writes
    cases writes

private theorem policy_registers :
    (policy S).Registers (contract ι invariant evolves refl trans) client where
  toReads := policy_reads
  created _ := trivial
  signed_in _ := trivial
  signed_in_with _ := trivial
  register {_ uid profileImage} _ _ email fullname username _ :=
    ⟨.saveUser uid ⟨email, fullname, profileImage, username⟩, rfl⟩

private theorem typed_put (mark : Mark) (present : Bool) :
    (Request.put mark.reference present).Typed :=
  fun _ => ⟨.put mark present, rfl⟩

private theorem policy_writes :
    (policy S).Writes (contract ι invariant evolves refl trans) client where
  toReads := policy_reads
  like_counter {_ id _ _} _ likes _ _ := ⟨.setLikes id likes, rfl⟩
  like {_ uid id _ _} _ _ present :=
    ⟨typed_put (.postLike id uid) present, typed_put (.userLike uid id) present⟩
  edge {_ uid other} _ _ _ present :=
    ⟨typed_put (.following uid other) present, typed_put (.follower other uid) present⟩
  edge_notified {_ uid other _} _ _ present :=
    ⟨typed_put (.following uid other) present, typed_put (.follower other uid) present⟩
  feed {_ uid _ _} _ _ document _ present := typed_put (.userFeed uid document.documentID) present
  notify_follow {_ _ other user} _ _ _ _ _ timestamp _ :=
    ⟨.addNotification other ⟨user.uid, user.profileImage, user.username, .follow, timestamp⟩, rfl⟩
  notify_post {_ _ post user type} _ _ _ _ shows _ timestamp _ := by
    cases type with
    | follow => exact (shows rfl).elim
    | like =>
      exact ⟨.addNotification post.ownerUid ⟨user.uid, user.profileImage, user.username,
        .like post.postId post.imageUrl, timestamp⟩, rfl⟩
    | comment =>
      exact ⟨.addNotification post.ownerUid ⟨user.uid, user.profileImage, user.username,
        .comment post.postId post.imageUrl, timestamp⟩, rfl⟩
  comment {_ post user} _ _ text timestamp _ :=
    ⟨.addComment post.postId
      ⟨user.uid, text, user.username, user.profileImage, post.ownerUid, timestamp⟩, rfl⟩
  upload {_ uid user} _ caption timestamp imageUrl _ :=
    ⟨.addPost ⟨caption, timestamp, 0, imageUrl, uid, user.username, user.profileImage⟩, rfl⟩
  save {_ uid profileImage} _ _ email fullname username _ :=
    ⟨.saveUser uid ⟨email, fullname, profileImage, username⟩, rfl⟩
  picture {_ uid profileImage} _ _ _ := ⟨.setProfileImage uid profileImage, rfl⟩
  owner_image _ _ document _ profileImage _ :=
    ⟨.setOwnerProfileImage document.documentID profileImage, rfl⟩

variable {B : Backend firebase} [DecidableEq ι] {net final : Network B App ι ι}
  {events : List (Event B ι AppAction)} {invariant : B.Store → Prop}
  {evolves : B.Store → B.Store → Prop} {refl : ∀ state, evolves state state}
  {trans : ∀ first second third, evolves first second → evolves second third → evolves first third}

/-- The contract holds along every run. -/
theorem sound_run (lawful : B.Lawful (contract ι invariant evolves refl trans) fun _ => True)
    (sound : net.Sound (contract ι invariant evolves refl trans) id)
    (run : Run (fun net event next => net.event? AppAction.perform event = some next) net events
      final) : final.Sound (contract ι invariant evolves refl trans) id ∧
        evolves net.store final.store := by
  have all : Run (fun net event next => True ∧ net.event? AppAction.perform event = some next) net
      events final :=
    run.mono fun taken => ⟨trivial, taken⟩
  refine Policy.sound_run (fun _ => policy_registers) (fun _ => policy_writes) (fun _ _ => trivial)
    (fun _ _ _ => trivial) lawful (fun signal _ => ?_)
    (fun _ action _ => action.pictured_of_forall fun _ => trivial) sound all
  cases signal <;> trivial

/-- It does from an idle network. -/
theorem sound_of_run
    (lawful : B.Lawful (contract ι invariant evolves refl trans) fun _ => True)
    (kept : invariant net.store) (idle : net.flight = []) (quiet : net.listeners = [])
    (run : Run (fun net event next => net.event? AppAction.perform event = some next) net events
      final) : final.Sound (contract ι invariant evolves refl trans) id := by
  refine (sound_run lawful ?_ run).1
  exact ⟨kept, fun _ _ => trivial, fun _ _ _ => trivial, by simp [idle], by simp [quiet]⟩

end Typed

section Recording

/-- The documents are those of the records. -/
def recording (ι : Type) (records : Records) : Contract firebase (Recorded firebase Cloud) App ι :=
  contract ι (Written records) (fun _ _ => True) (fun _ => trivial) fun _ _ _ _ _ => trivial

private theorem lawful :
    (cloud.recorded Request.succeeded).Lawful (recording ι records) fun _ => True where
  serve _ kept typed served := ⟨written_serve kept typed served, trivial, trivial⟩
  publish _ _ _ _ := trivial

variable [DecidableEq ι] {net final : Network (cloud.recorded Request.succeeded) App ι ι}
  {events : List (Event (cloud.recorded Request.succeeded) ι AppAction)}

private theorem recording_of_run (represents : records.Represents net.store.store.firestore)
    (fresh : net.store.served = []) (idle : net.flight = []) (quiet : net.listeners = [])
    (run : Run (fun net event next => net.event? AppAction.perform event = some next) net events
      final) : final.Sound (recording ι records) id :=
  sound_of_run lawful ⟨[], by rw [fresh]; rfl, represents⟩ idle quiet run

/-- In every run of any number of devices, every write in flight is that of a change of the
records, and the documents are those of the records after the writes that succeeded. -/
theorem documents_written (represents : records.Represents net.store.store.firestore)
    (fresh : net.store.served = []) (idle : net.flight = []) (quiet : net.listeners = [])
    (run : Run (fun net event next => net.event? AppAction.perform event = some next) net events
      final) :
    (∀ pending ∈ final.flight, pending.call.request.Typed) ∧ Written records final.store := by
  have sound := recording_of_run represents fresh idle quiet run
  exact ⟨fun pending member => (sound.flight pending member).1, sound.store⟩

section Example

/-- One device that nobody is signed in to, over an empty backend. -/
def start : Network (cloud.recorded Request.succeeded) App Unit Unit where
  store := ⟨{}, []⟩
  clients _ := some .signedOut

/-- A sign-in with Google makes the account `u`, which then shares a photo as the post `p`. -/
def sharing : List (Event (cloud.recorded Request.succeeded) Unit AppAction) :=
  .act () (.auth (.loginOnTapGoogle 0 ⟨"g"⟩ ⟨"u@x", "u", none⟩)) ::
    drain [Choice.drawing "u"] ++ drain [Choice.drawing ""] ++ drain [Choice.drawing ""] ++
    [.act () (.user (.tabsDidFinishPicking ⟨some [0]⟩)), .act () (.user (.uploadOnTapShare 5))] ++
    drain [Choice.drawing ("gs://" ++ storageBucket ++ "/photo")] ++ drain [Choice.drawing ""] ++
    drain [Choice.drawing "p"]

/-- The account and the post are made by two writes. -/
private theorem shared_post : ∃ final,
    Run (fun net event next => net.event? AppAction.perform event = some next) start sharing final ∧
      (written final.store.served).length = 2 ∧ .post "p" ∈ final.store.store.firestore := by
  have completes : (replay? (Network.event? AppAction.perform) start sharing).any (fun final =>
      decide ((written final.store.served).length = 2 ∧
        .post "p" ∈ final.store.store.firestore)) = true := by
    decide +kernel
  exact exists_run_of_replay? completes

end Example

/-- Both writes of a device that registers and shares a photo are changes of the records. -/
theorem documents_written_shared : ∃ final,
    Run (fun net event next => net.event? AppAction.perform event = some next) start sharing final ∧
      (written final.store.served).length = 2 ∧ Written .empty final.store := by
  obtain ⟨final, run, both, -⟩ := shared_post
  exact ⟨final, run, both, (documents_written Records.represents_empty rfl rfl rfl run).2⟩

section Decoding

/-- Every stored document decodes, at any time, to a record that makes just that document, under
the id that it names; only the owner of a comment's post is not decoded. -/
structure Decodes (store : Firestore) : Prop where
  user : ∀ {uid data}, store.lookup (.user uid) = some data →
    (User.ofDictionary data).uid = uid ∧ (User.ofDictionary data).record.data uid = data
  post : ∀ {id data}, store.lookup (.post id) = some data → ∀ now,
    (Post.ofDictionary now id data).record.data = data
  comment : ∀ {post id data}, store.lookup (.comment post id) = some data → ∀ now,
    ((Comment.ofDictionary now data).record (data.string "postOwnerId")).data = data
  notification : ∀ {receiver id data}, store.lookup (.notification receiver id) = some data →
    ∀ now, (Notification.ofDictionary now data).id = id ∧
      (Notification.ofDictionary now data).record.data id = data

theorem decodes_of_represents {store : Firestore} (represents : records.Represents store) :
    Decodes store := by
  constructor
  · intro uid data stored
    obtain ⟨record, -, rfl⟩ := Option.map_eq_some_iff.mp ((represents _).symm.trans stored)
    exact ⟨record.uid_ofDictionary uid, by rw [record.ofDictionary_record]⟩
  · intro id data stored now
    obtain ⟨record, -, rfl⟩ := Option.map_eq_some_iff.mp ((represents _).symm.trans stored)
    rw [record.ofDictionary_record]
  · intro post id data stored now
    obtain ⟨record, -, rfl⟩ := Option.map_eq_some_iff.mp ((represents _).symm.trans stored)
    have owner : record.data.string "postOwnerId" = record.postOwnerId := by
      simp [CommentRecord.data, Dictionary.ofList, Dictionary.string, List.lookup_cons]
    rw [owner, record.ofDictionary_record]
  · intro receiver id data stored now
    obtain ⟨record, -, rfl⟩ := Option.map_eq_some_iff.mp ((represents _).symm.trans stored)
    exact ⟨record.id_ofDictionary now id, by rw [record.ofDictionary_record]⟩

/-- In every state that any number of devices reach, stored documents decode without loss. -/
theorem documents_decode (represents : records.Represents net.store.store.firestore)
    (fresh : net.store.served = []) (idle : net.flight = []) (quiet : net.listeners = [])
    (run : Run (fun net event next => net.event? AppAction.perform event = some next) net events
      final) : Decodes final.store.store.firestore := by
  obtain ⟨changes, -, represents⟩ := (recording_of_run represents fresh idle quiet run).store
  exact decodes_of_represents represents

/-- The post that was shared decodes. -/
theorem documents_decode_shared : ∃ final,
    Run (fun net event next => net.event? AppAction.perform event = some next) start sharing final ∧
      .post "p" ∈ final.store.store.firestore ∧ Decodes final.store.store.firestore := by
  obtain ⟨final, run, -, present⟩ := shared_post
  exact ⟨final, run, present, documents_decode Records.represents_empty rfl rfl rfl run⟩

/-- A query for a collection lists the ids that its documents name, each once. -/
private theorem nodup_of_names {store : Firestore} {query : Query} {order : List DocumentReference}
    {documents : List Document} {named : Document → String}
    (answered : query.answer? store order = some documents)
    (names : ∀ id data, store.lookup (query.collection.document id) = some data →
      named ⟨id, data⟩ = id) : (documents.map named).Nodup := by
  have same : documents.map named = documents.map Document.documentID := by
    apply List.map_congr_left
    intro document listed
    obtain ⟨reference, ⟨parent, -⟩, stored, id⟩ := (Query.mem_answer? answered document).mp listed
    apply names document.documentID document.data
    rwa [← parent, ← id, reference.parent_document]
  rw [same]
  exact Query.answer?_nodup answered

/-- In every such state, no user is fetched twice, and no notification: the rows that answers to
come can decode to differ in their ids. -/
theorem rows_distinct (represents : records.Represents net.store.store.firestore)
    (fresh : net.store.served = []) (idle : net.flight = []) (quiet : net.listeners = [])
    (run : Run (fun net event next => net.event? AppAction.perform event = some next) net events
      final) {order : List DocumentReference} {documents : List Document} :
    (({ collection := .users } : Query).answer? final.store.store.firestore order = some documents →
      (documents.map fun document => (User.ofDictionary document.data).uid).Nodup) ∧
    ∀ receiver, ({ collection := .userNotifications receiver, orderBy := some "timestamp" } :
        Query).answer? final.store.store.firestore order = some documents → ∀ now,
      (documents.map fun document => (Notification.ofDictionary now document.data).id).Nodup := by
  have decodes := documents_decode represents fresh idle quiet run
  constructor
  · intro answered
    exact nodup_of_names answered fun uid data stored => (decodes.user stored).1
  · intro receiver answered now
    exact nodup_of_names answered fun id data stored => (decodes.notification stored now).1

/-- The new account is listed once. -/
theorem rows_distinct_shared : ∃ final,
    Run (fun net event next => net.event? AppAction.perform event = some next) start sharing final ∧
      ∃ documents, ({ collection := .users } : Query).answer? final.store.store.firestore
          [.user "u"] = some documents ∧
        (documents.map fun document => (User.ofDictionary document.data).uid).Nodup := by
  have completes : (replay? (Network.event? AppAction.perform) start sharing).any (fun final =>
      decide ((({ collection := .users } : Query).answer? final.store.store.firestore
        [.user "u"]).isSome = true)) = true := by
    decide +kernel
  obtain ⟨final, run, answered⟩ := exists_run_of_replay? completes
  obtain ⟨documents, answered⟩ := Option.isSome_iff_exists.mp answered
  exact ⟨final, run, documents, answered,
    (rows_distinct Records.represents_empty rfl rfl rfl run).1 answered⟩

end Decoding

end Recording

end TypedStore

end InstagramClone
