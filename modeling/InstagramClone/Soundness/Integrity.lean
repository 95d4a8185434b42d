import InstagramClone.Discipline.Controllers

/-! # The database the app keeps

Started empty and written by the app only, the database refers to nothing that it does not hold:
every account named in a document has a record, every post has its document, and a notification
tells of somebody else's like, comment or follow.
-/

namespace InstagramClone.Integrity

open Async PostService

variable {ι : Type}

/-- The stored post has this owner and image. -/
def Post (store : Firestore) (id : PostId) (owner : Uid) (image : String) : Prop :=
  ∃ data, store.lookup (.post id) = some data ∧ data "ownerUid" = some (.string owner) ∧
    data "imageUrl" = some (.string image)

/-- What a notification of this type says of a post of its receiver. -/
def Mentions (store : Firestore) (receiver : Uid) (data : Dictionary) : NotificationType → Prop
  | .follow => data "postId" = none
  | .like | .comment => ∃ post image, data "postId" = some (.string post) ∧
      data "postImage" = some (.string image) ∧ Post store post receiver image

/-- What a stored document refers to. -/
def Valid (store : Firestore) : DocumentReference → Dictionary → Prop
  | .user uid, data => uid ≠ "" ∧ data "uid" = some (.string uid)
  | .post id, data => id ≠ "" ∧ ∃ owner image, data "ownerUid" = some (.string owner) ∧
      data "imageUrl" = some (.string image) ∧ .user owner ∈ store
  | .comment post _, data => .post post ∈ store ∧
      ∃ author, data "uid" = some (.string author) ∧ .user author ∈ store
  | .notification receiver _, data => ∃ author type, data "uid" = some (.string author) ∧
      .user author ∈ store ∧ author ≠ receiver ∧ data "type" = some (.int type.rawValue) ∧
      Mentions store receiver data type
  | .following uid other, _ | .follower other uid, _ =>
    uid ≠ other ∧ .user uid ∈ store ∧ .user other ∈ store
  | .userFeed uid post, _ | .userLike uid post, _ | .postLike post uid, _ =>
    .user uid ∈ store ∧ .post post ∈ store

/-- Every stored document refers to stored documents. -/
def Consistent (store : Firestore) : Prop :=
  ∀ reference data, store.lookup reference = some data → Valid store reference data

/-- Records stay, and so do posts with their owner and image. -/
structure Grows (before after : Firestore) : Prop where
  users : ∀ {uid}, .user uid ∈ before → .user uid ∈ after
  posts : ∀ {id data}, before.lookup (.post id) = some data →
    ∃ later, after.lookup (.post id) = some later ∧ later "ownerUid" = data "ownerUid" ∧
      later "imageUrl" = data "imageUrl"

namespace Grows

variable {first second third : Firestore}

private theorem refl (store : Firestore) : Grows store store :=
  ⟨id, fun stored => ⟨_, stored, rfl, rfl⟩⟩

private theorem trans (left : Grows first second) (right : Grows second third) :
    Grows first third := by
  refine ⟨fun present => right.users (left.users present), fun stored => ?_⟩
  obtain ⟨middle, still, owner, image⟩ := left.posts stored
  obtain ⟨last, stays, again, shown⟩ := right.posts still
  exact ⟨last, stays, again.trans owner, shown.trans image⟩

private theorem mem_post (grows : Grows first second) {id : PostId} (present : .post id ∈ first) :
    .post id ∈ second := by
  obtain ⟨data, stored⟩ := Finmap.mem_iff.mp present
  obtain ⟨later, still, -⟩ := grows.posts stored
  exact Finmap.mem_of_lookup_eq_some still

private theorem post (grows : Grows first second) {id : PostId} {owner : Uid} {image : String}
    (known : Post first id owner image) : Post second id owner image := by
  obtain ⟨data, stored, owned, shown⟩ := known
  obtain ⟨later, still, sameOwner, sameImage⟩ := grows.posts stored
  exact ⟨later, still, sameOwner.trans owned, sameImage.trans shown⟩

private theorem valid (grows : Grows first second) {reference : DocumentReference} {data : Dictionary}
    (valid : Valid first reference data) : Valid second reference data := by
  cases reference with
  | user uid => exact valid
  | post id =>
    obtain ⟨named, owner, image, owned, shown, known⟩ := valid
    exact ⟨named, owner, image, owned, shown, grows.users known⟩
  | comment post id =>
    obtain ⟨known, author, written, recorded⟩ := valid
    exact ⟨grows.mem_post known, author, written, grows.users recorded⟩
  | notification receiver id =>
    obtain ⟨author, type, written, recorded, apart, typed, mentions⟩ := valid
    refine ⟨author, type, written, grows.users recorded, apart, typed, ?_⟩
    cases type with
    | follow => exact mentions
    | like | comment =>
      obtain ⟨post, image, named, shown, known⟩ := mentions
      exact ⟨post, image, named, shown, grows.post known⟩
  | following uid other | follower other uid =>
    exact ⟨valid.1, grows.users valid.2.1, grows.users valid.2.2⟩
  | userFeed uid post | userLike uid post | postLike post uid =>
    exact ⟨grows.users valid.1, grows.mem_post valid.2⟩

end Grows

/-- The request keeps every later database consistent, and lets it grow only. -/
def Preserves (store : Firestore) (request : Request) : Prop :=
  ∀ later, Grows store later → Consistent later → ∀ fresh, request.Draws fresh later →
    Grows later (request.apply fresh later) ∧ Consistent (request.apply fresh later)

section Preserves

variable {store : Firestore} {reference : DocumentReference} {data : Dictionary}

/-- A document is written that is valid afterwards, and nothing that is relied on is lost. -/
private theorem insert_preserves (consistent : Consistent store)
    (grows : Grows store (store.insert reference data))
    (valid : Valid (store.insert reference data) reference data) :
    Grows store (store.insert reference data) ∧ Consistent (store.insert reference data) := by
  refine ⟨grows, fun other found stored => ?_⟩
  rw [Firestore.lookup_set] at stored
  split_ifs at stored with same
  · obtain rfl := Option.some.inj stored
    rw [same]
    exact valid
  · exact grows.valid (consistent other found stored)

/-- Writing a document that is no post keeps records and posts. -/
private theorem grows_insert (apart : ∀ id, reference ≠ .post id) :
    Grows store (store.insert reference data) := by
  refine ⟨fun present => Finmap.mem_insert.mpr (.inr present), fun {id found} stored => ?_⟩
  exact ⟨found, by simp [Ne.symm (apart id), stored], rfl, rfl⟩

/-- An entry that is neither a record nor a post is put or deleted. -/
private theorem put_preserves {present : Bool} (record : ∀ uid, reference ≠ .user uid)
    (apart : ∀ id, reference ≠ .post id)
    (valid : ∀ later, Grows store later → Valid later reference .empty) :
    Preserves store (.put reference present) := by
  intro later grows consistent fresh _
  cases present with
  | true =>
    have kept : Grows later (later.insert reference .empty) := grows_insert apart
    exact insert_preserves consistent kept (valid _ (grows.trans kept))
  | false =>
    have kept : Grows later (later.erase reference) := by
      refine ⟨fun {uid} present => Finmap.mem_erase.mpr ⟨Ne.symm (record uid), present⟩,
        fun {id found} stored => ?_⟩
      exact ⟨found, by simp [Ne.symm (apart id), stored], rfl, rfl⟩
    refine ⟨kept, fun other found stored => kept.valid (consistent other found ?_)⟩
    simp only [Request.put, Request.apply, Firestore.lookup_delete] at stored
    split_ifs at stored
    exact stored

/-- A new document is valid where it is added. -/
private theorem add_preserves {collection : CollectionReference} {fields : String → Dictionary}
    (posts : collection = .posts → ∀ later id, Grows store later → id ≠ "" →
      Valid later (.post id) (fields id))
    (others : collection ≠ .posts → ∀ later id, Grows store later →
      Valid later (collection.document id) (fields id)) :
    Preserves store (.addDocument collection fields) := by
  intro later grows consistent fresh draws
  by_cases inPosts : collection = .posts
  · subst inPosts
    have absent : .post fresh ∉ later := fun present =>
      draws.2 (.post fresh) (Finmap.mem_keys.mpr present)
        (by simp [DocumentReference.ids, DocumentReference.documentID])
    have kept : Grows later (later.insert (.post fresh) (fields fresh)) := by
      refine ⟨fun present => Finmap.mem_insert.mpr (.inr present), fun {id found} stored => ?_⟩
      have other : DocumentReference.post id ≠ .post fresh := by
        intro same
        rw [same] at stored
        exact absent (Finmap.mem_of_lookup_eq_some stored)
      exact ⟨found, by rw [Firestore.lookup_set, if_neg other, stored], rfl, rfl⟩
    exact insert_preserves consistent kept (posts rfl _ fresh (grows.trans kept) draws.1)
  · have apart (id : PostId) : collection.document fresh ≠ .post id := by
      intro same
      have parents := congrArg DocumentReference.parent same
      rw [CollectionReference.document_parent] at parents
      exact inPosts parents
    have kept : Grows later (later.insert (collection.document fresh) (fields fresh)) :=
      grows_insert apart
    exact insert_preserves consistent kept (others inPosts _ fresh (grows.trans kept))

/-- A field that nothing relies on is updated. -/
private theorem update_preserves {key : String} {value : Value}
    (free : key ≠ "uid" ∧ key ≠ "ownerUid" ∧
      key ≠ "imageUrl") (target : (∃ uid, reference = .user uid) ∨ ∃ id, reference = .post id) :
    Preserves store (.updateData reference (.ofList [(key, value)])) := by
  intro later grows consistent fresh _
  have same (field : String) (stays : field = "uid" ∨ field = "ownerUid" ∨ field = "imageUrl")
      (old : Dictionary) : old.updating (.ofList [(key, value)]) field = old field := by
    refine Dictionary.updating_of_ne old value ?_
    rcases stays with rfl | rfl | rfl
    · exact free.1.symm
    · exact free.2.1.symm
    · exact free.2.2.symm
  cases stored : later.lookup reference with
  | none =>
    simp only [Request.apply, stored]
    exact ⟨.refl later, consistent⟩
  | some old =>
    have valid := consistent reference old stored
    simp only [Request.apply, stored]
    rcases target with ⟨uid, rfl⟩ | ⟨id, rfl⟩
    · refine insert_preserves consistent (grows_insert (by simp)) ⟨valid.1, ?_⟩
      rw [same "uid" (.inl rfl)]
      exact valid.2
    · have kept : Grows later (later.insert (.post id) (old.updating (.ofList [(key, value)]))) := by
        refine ⟨fun present => Finmap.mem_insert.mpr (.inr present), fun {other found} there => ?_⟩
        by_cases here : other = id
        · subst here
          obtain rfl : old = found := Option.some.inj (stored.symm.trans there)
          exact ⟨_, by simp, same _ (.inr (.inl rfl)) old, same _ (.inr (.inr rfl)) old⟩
        · exact ⟨found, by simp [here, there], rfl, rfl⟩
      obtain ⟨named, owner, image, owned, shown, known⟩ := valid
      refine insert_preserves consistent kept ⟨named, owner, image, ?_, ?_, kept.users known⟩
      · rw [same "ownerUid" (.inr (.inl rfl))]
        exact owned
      · rw [same "imageUrl" (.inr (.inr rfl))]
        exact shown

/-- A record that names its account is written. -/
private theorem record_preserves {uid : Uid} (named : uid ≠ "")
    (names : data "uid" = some (.string uid)) :
    Preserves store (.setData (.user uid) data) := fun _ _ consistent _ _ =>
  insert_preserves consistent (grows_insert (by simp)) ⟨named, names⟩

private theorem read_preserves {request : Request} (reads : request.writes = false) :
    Preserves store request := by
  intro later _ consistent fresh _
  have same : request.apply fresh later = later := by
    cases request <;> first | rfl | cases reads
  rw [same]
  exact ⟨.refl later, consistent⟩

private theorem Preserves.mono {request : Request} {later : Firestore}
    (preserves : Preserves store request) (grows : Grows store later) :
    Preserves later request := fun last beyond =>
  preserves last (grows.trans beyond)

end Preserves

/-- What a device may hold that is a session of the given account, or registers accounts: what is
held refers to stored documents, by non-empty ids. -/
def policy (account : Option Uid) : Policy Cloud where
  signed store current := current ≠ "" ∧
    ∀ uid ∈ account, current = uid ∧ .user uid ∈ store.firestore
  mine current := ∀ uid ∈ account, current = uid
  user store uid := uid ≠ "" ∧ .user uid ∈ store.firestore
  own store current := current ≠ "" ∧ .user current ∈ store.firestore ∧ ∀ uid ∈ account, current = uid
  signs store user := .user user.uid ∈ store.firestore ∧ ∀ uid ∈ account, user.uid = uid
  uploads store current _ := .user current ∈ store.firestore
  stored store id := id ≠ "" ∧ .post id ∈ store.firestore
  post store id owner image := id ≠ "" ∧ owner ≠ "" ∧ .user owner ∈ store.firestore ∧
    Post store.firestore id owner image
  notification store author type post := author ≠ "" ∧ .user author ∈ store.firestore ∧
    (∀ uid ∈ account, author ≠ uid) ∧
    (type ≠ .follow → post.getD "" ≠ "" ∧ .post (post.getD "") ∈ store.firestore)
  path id := id ≠ ""

private theorem policy_mono (account : Option Uid) :
    (policy account).Mono fun before after => Grows before.firestore after.firestore where
  signed_mono grows known := ⟨known.1, fun uid same =>
    ⟨(known.2 uid same).1, grows.users (known.2 uid same).2⟩⟩
  user_mono grows known := ⟨known.1, grows.users known.2⟩
  own_mono grows known := ⟨known.1, grows.users known.2.1, known.2.2⟩
  signs_mono grows known := ⟨grows.users known.1, known.2⟩
  uploads_mono grows known := grows.users known
  stored_mono grows known := ⟨known.1, grows.mem_post known.2⟩
  post_mono grows known := ⟨known.1, known.2.1, grows.users known.2.2.1, grows.post known.2.2.2⟩
  notification_mono grows known := ⟨known.1, grows.users known.2.1, known.2.2.1, fun apart =>
    ⟨(known.2.2.2 apart).1, grows.mem_post (known.2.2.2 apart).2⟩⟩

/-- The contract of all devices: requests name documents by non-empty ids and preserve the
database, and answers tell about a consistent one. -/
def contract (account : ι → Option Uid) : Contract firebase Cloud App ι where
  invariant store := Consistent store.firestore ∧ ∀ account ∈ store.accounts, account.uid ≠ ""
  evolves before after := Grows before.firestore after.firestore
  holds client store app := (policy (account client)).Governs store app
  allows _ store request := (∀ id ∈ request.ids, id ≠ "") ∧ Preserves store.firestore request
  opens _ _ topic := ∀ id ∈ topic.collection.ids, id ≠ ""
  replies store request answer := (Consistent store.firestore ∧
    ∀ account ∈ store.accounts, account.uid ≠ "") ∧ request.Answers store answer
  reports store topic event := Consistent store.firestore ∧
    ∀ changes, event = .ok changes → ∃ unsent,
      (∀ request ∈ unsent, Preserves store.firestore request) ∧
        Reports store.firestore unsent topic changes
  mayTrap := True
  refl store := .refl store.firestore
  trans := .trans
  holds_mono grows valid := (policy_mono _).governs_mono grows valid
  allows_mono grows allowed := ⟨allowed.1, allowed.2.mono grows⟩
  opens_mono _ opened := opened

theorem lawful (account : ι → Option Uid) :
    cloud.Lawful (contract account) fun choice => choice.succeeds = true where
  serve := by
    intro choice client store request next answer succeeds invariant allowed served
    obtain ⟨order, fresh, transfer, resolved⟩ := serve_succeeds succeeds served
    obtain ⟨applied, draws⟩ := Request.resolve_firestore resolved
    obtain ⟨grows, consistent⟩ := allowed.2 _ (.refl _) invariant.1 fresh draws
    rw [← applied] at grows consistent
    have still : (contract account).invariant next := by
      refine ⟨consistent, fun account member => ?_⟩
      rcases Request.resolve_accounts resolved account member with member | named
      · exact invariant.2 account member
      · exact named
    exact ⟨still, grows, still, Request.resolve_answers resolved⟩
  publish := by
    intro choice store unsent cursor topic event seen _ invariant allowed published
    refine ⟨invariant.1, ?_⟩
    rintro changes rfl
    refine ⟨unsent, fun request member => ?_, publish_reports published⟩
    obtain ⟨_, preserves⟩ := allowed request member
    exact preserves.2

section Reads

variable {store : Cloud}

private theorem string_eq {data : Dictionary} {key text : String}
    (field : data key = some (.string text)) :
    data.string key = text := by
  simp [Dictionary.string, field]

/-- The documents of an answer are stored, and refer to stored documents. -/
private theorem valid_of_answers (consistent : Consistent store.firestore) {query : Query}
    {documents : List Document}
    (answers : Request.Answers store (.getDocuments query) (.ok documents)) {document : Document}
    (listed : document ∈ documents) :
    store.firestore.lookup (query.collection.document document.documentID) = some document.data ∧
      Valid store.firestore (query.collection.document document.documentID) document.data := by
  obtain ⟨found, same, members⟩ := answers
  obtain rfl := Except.ok.inj same
  obtain ⟨reference, selected, stored, id⟩ := (members document).mp listed
  have path : query.collection.document document.documentID = reference := by
    rw [← id, ← selected.1, reference.parent_document]
  rw [path]
  exact ⟨stored, consistent reference _ stored⟩

private theorem post_of_valid {id : PostId} {data : Dictionary} (account : Option Uid)
    (consistent : Consistent store.firestore)
    (stored : store.firestore.lookup (.post id) = some data) :
    (policy account).post store id (data.string "ownerUid") (data.string "imageUrl") := by
  obtain ⟨named, owner, image, owned, shown, known⟩ := consistent _ _ stored
  rw [string_eq owned, string_eq shown]
  obtain ⟨record, recorded⟩ := Finmap.mem_iff.mp known
  exact ⟨named, (consistent _ _ recorded).1, known, data, stored, owned, shown⟩

private theorem user_of_valid {uid : Uid} {data : Dictionary} (account : Option Uid)
    (consistent : Consistent store.firestore)
    (stored : store.firestore.lookup (.user uid) = some data) :
    data.string "uid" = uid ∧ (policy account).user store uid := by
  obtain ⟨named, names⟩ := consistent _ _ stored
  exact ⟨string_eq names, named, Finmap.mem_of_lookup_eq_some stored⟩

/-- A stored account has a non-empty id. -/
theorem named_of_mem (consistent : Consistent store.firestore) {uid : Uid}
    (present : .user uid ∈ store.firestore) : uid ≠ "" := by
  obtain ⟨data, stored⟩ := Finmap.mem_iff.mp present
  exact (consistent _ _ stored).1

private theorem stored_of_mem (consistent : Consistent store.firestore) {id : PostId}
    (present : .post id ∈ store.firestore) : id ≠ "" ∧ .post id ∈ store.firestore := by
  obtain ⟨data, stored⟩ := Finmap.mem_iff.mp present
  exact ⟨(consistent _ _ stored).1, present⟩

variable {account : ι → Option Uid} {client : ι}

private theorem policy_reads : (policy (account client)).Reads (contract account) client where
  toMono := policy_mono _
  holds_iff _ _ := Iff.rfl
  signed_mine known := fun uid same => (known.2 uid same).1
  mine_own mine known := ⟨known.1, known.2, mine⟩
  post_owner known := ⟨known.2.1, known.2.2.1⟩
  notification_author known := ⟨known.1, known.2.1⟩
  notification_post known := known.2.2.2
  signed_path known := known.1
  user_path known := known.1
  stored_path known := known.1
  post_path known := known.1
  allows reads paths := ⟨paths, read_preserves reads⟩
  opens paths := paths
  user_read := by
    rintro store uid data ⟨⟨consistent, -⟩, answer⟩
    obtain ⟨names, known⟩ := user_of_valid (account client) consistent (Except.ok.inj answer).symm
    rw [names]
    exact ⟨known, fun signed => ⟨known.1, known.2, fun mine same => (signed.2 mine same).1⟩⟩
  users_read := by
    rintro store documents ⟨⟨consistent, -⟩, answers⟩ document listed
    obtain ⟨names, known⟩ := user_of_valid (account client) consistent
      (valid_of_answers consistent answers listed).1
    rw [names]
    exact known
  post_read := by
    rintro store id data ⟨⟨consistent, -⟩, answer⟩
    exact post_of_valid _ consistent (Except.ok.inj answer).symm
  posts_read := by
    rintro store uid documents ⟨⟨consistent, -⟩, answers⟩ document listed
    exact post_of_valid _ consistent (valid_of_answers consistent answers listed).1
  feeds_read := by
    rintro store uid documents ⟨⟨consistent, -⟩, answers⟩ document listed
    exact stored_of_mem consistent (valid_of_answers consistent answers listed).2.2
  notifications_read := by
    rintro store uid documents ⟨⟨consistent, -⟩, answers⟩ signed document listed now
    obtain ⟨author, type, written, recorded, apart, typed, mentions⟩ :=
      (valid_of_answers consistent answers listed).2
    have decoded : (Notification.ofDictionary now document.data).type = type := by
      simp [Notification.ofDictionary, Dictionary.int, typed]
    refine ⟨?_, ?_, fun mine same => ?_, fun apart => ?_⟩
    · rw [show (Notification.ofDictionary now document.data).uid = author from string_eq written]
      exact named_of_mem consistent recorded
    · rw [show (Notification.ofDictionary now document.data).uid = author from string_eq written]
      exact recorded
    · rw [show (Notification.ofDictionary now document.data).uid = author from string_eq written,
        ← (signed.2 mine same).1]
      exact apart
    · have post : ∃ post image, document.data "postId" = some (.string post) ∧
          document.data "postImage" = some (.string image) ∧ Post store.firestore post uid image := by
        cases type with
        | follow => exact (apart decoded).elim
        | like | comment => exact mentions
      obtain ⟨post, image, named, -, data, stored, -⟩ := post
      rw [show (Notification.ofDictionary now document.data).postId = some post from
        congrArg some (string_eq named)]
      exact stored_of_mem consistent (Finmap.mem_of_lookup_eq_some stored)
  comments_reported := by
    rintro store post changes ⟨consistent, reports⟩ change listed added
    obtain ⟨unsent, preserves, reports⟩ := reports changes rfl
    obtain ⟨author, written, recorded⟩ : ∃ author,
        change.document.data "uid" = some (.string author) ∧ .user author ∈ store.firestore := by
      rcases reports change listed added with stored | ⟨data, member, drawn, unused, same⟩
      · exact (consistent _ _ stored).2
      · -- a comment that the device has still to send: its author is stored once it is, and is no
        -- comment
        obtain ⟨-, later⟩ := preserves _ member _ (.refl _) consistent _ ⟨drawn, unused⟩
        obtain ⟨-, author, written, recorded⟩ :=
          later (.comment post change.document.documentID) change.document.data (by
            simp [Request.apply, CollectionReference.document, same])
        refine ⟨author, written, ?_⟩
        simpa [Request.apply, CollectionReference.document] using recorded
    rw [string_eq written]
    exact ⟨named_of_mem consistent recorded, recorded⟩

/-- Registering devices may write the record of any account. -/
theorem policy_registers (registers : account client = none) :
    (policy (account client)).Registers (contract account) client where
  toReads := policy_reads
  created := by
    rintro store email password uid ⟨⟨-, named⟩, answer⟩
    obtain ⟨account, member, rfl⟩ := answer uid rfl
    exact ⟨named account member, by simp [registers]⟩
  signed_in := by
    rintro store email password uid ⟨⟨-, named⟩, answer⟩
    obtain ⟨account, member, rfl⟩ := answer uid rfl
    exact ⟨named account member, by simp [registers]⟩
  signed_in_with := by
    rintro store credential uid ⟨⟨-, named⟩, answer⟩
    obtain ⟨account, member, rfl⟩ := answer uid rfl
    exact ⟨named account member, by simp [registers]⟩
  register := by
    rintro store uid profileImage ⟨named, -⟩ - email fullname username
    refine ⟨?_, record_preserves named rfl⟩
    simpa [Request.ids, DocumentReference.ids, DocumentReference.parent, CollectionReference.ids,
      DocumentReference.documentID] using named

variable {uid : Uid}

/-- An entry under two ids, of an account and of a post or account that are stored. -/
private theorem entry_allowed {reference : DocumentReference} {present : Bool}
    (named : ∀ id ∈ reference.ids, id ≠ "") (record : ∀ uid, reference ≠ .user uid)
    (apart : ∀ id, reference ≠ .post id)
    (valid : ∀ later, Grows store.firestore later → Valid later reference .empty) :
    (contract account).allows client store (.put reference present) := by
  refine ⟨?_, put_preserves record apart valid⟩
  cases present <;> exact named

private theorem edge_allowed {current other : Uid} {present : Bool} (mine : current ≠ "")
    (recorded : .user current ∈ store.firestore) (theirs : (policy (account client)).user store other)
    (apart : other ≠ current) :
    (contract account).allows client store (.put (.following current other) present) ∧
      (contract account).allows client store (.put (.follower other current) present) := by
  have valid (later : Firestore) (grows : Grows store.firestore later) :
      current ≠ other ∧ .user current ∈ later ∧ .user other ∈ later :=
    ⟨apart.symm, grows.users recorded, grows.users theirs.2⟩
  constructor
  · refine entry_allowed ?_ (by simp) (by simp) valid
    simpa [DocumentReference.ids, DocumentReference.parent, CollectionReference.ids,
      DocumentReference.documentID] using ⟨mine, theirs.1⟩
  · refine entry_allowed ?_ (by simp) (by simp) valid
    simpa [DocumentReference.ids, DocumentReference.parent, CollectionReference.ids,
      DocumentReference.documentID] using ⟨theirs.1, mine⟩

/-- Sessions may write what the app's code writes. -/
theorem policy_writes (session : account client = some uid) :
    (policy (account client)).Writes (contract account) client where
  toReads := policy_reads
  like_counter := by
    rintro store id owner image ⟨named, -⟩ likes -
    refine ⟨?_, update_preserves (by decide) (.inr ⟨id, rfl⟩)⟩
    simpa [Request.ids, DocumentReference.ids, DocumentReference.parent, CollectionReference.ids,
      DocumentReference.documentID] using named
  like := by
    rintro store current id owner image signed ⟨named, -, -, data, stored, -⟩ present
    have recorded := (signed.2 uid session).2
    rw [← (signed.2 uid session).1] at recorded
    have valid (later : Firestore) (grows : Grows store.firestore later) :
        .user current ∈ later ∧ .post id ∈ later :=
      ⟨grows.users recorded, grows.mem_post (Finmap.mem_of_lookup_eq_some stored)⟩
    constructor
    · refine entry_allowed ?_ (by simp) (by simp) valid
      simpa [DocumentReference.ids, DocumentReference.parent, CollectionReference.ids,
        DocumentReference.documentID] using ⟨named, signed.1⟩
    · refine entry_allowed ?_ (by simp) (by simp) valid
      simpa [DocumentReference.ids, DocumentReference.parent, CollectionReference.ids,
        DocumentReference.documentID] using ⟨signed.1, named⟩
  edge := by
    rintro store current other signed theirs apart present
    have recorded := (signed.2 uid session).2
    rw [← (signed.2 uid session).1] at recorded
    exact edge_allowed signed.1 recorded theirs apart
  edge_notified := by
    rintro store current other post signed ⟨named, theirs, apart, -⟩ present
    have recorded := (signed.2 uid session).2
    rw [← (signed.2 uid session).1] at recorded
    refine edge_allowed signed.1 recorded ⟨named, theirs⟩ ?_
    rw [(signed.2 uid session).1]
    exact apart uid session
  feed := by
    rintro store current other documents signed ⟨⟨consistent, -⟩, answers⟩ document listed present
    have recorded := (signed.2 uid session).2
    rw [← (signed.2 uid session).1] at recorded
    obtain ⟨stored, valid⟩ := valid_of_answers consistent answers listed
    refine entry_allowed ?_ (by simp) (by simp) fun later grows =>
      ⟨grows.users recorded, grows.mem_post (Finmap.mem_of_lookup_eq_some stored)⟩
    simpa [DocumentReference.ids, DocumentReference.parent, CollectionReference.ids,
      DocumentReference.documentID] using ⟨signed.1, valid.1⟩
  notify_follow := by
    rintro store current other user signed theirs apart ⟨recorded, mine⟩ - timestamp
    refine ⟨by simpa [Request.ids, CollectionReference.ids] using theirs.1,
      add_preserves (by simp) fun _ later id grows => ?_⟩
    refine ⟨user.uid, .follow, rfl, grows.users recorded, ?_, rfl, rfl⟩
    rw [mine uid session, ← (signed.2 uid session).1]
    exact apart.symm
  notify_post := by
    rintro store current post user type signed ⟨known, -⟩ apart ⟨recorded, mine⟩ shows - timestamp
    refine ⟨by simpa [Request.ids, CollectionReference.ids] using known.2.1,
      add_preserves (by simp) fun _ later id grows => ?_⟩
    refine ⟨user.uid, type, rfl, grows.users recorded, ?_, rfl, ?_⟩
    · rw [mine uid session, ← (signed.2 uid session).1]
      exact apart.symm
    · cases type with
      | follow => exact (shows rfl).elim
      | like | comment => exact ⟨post.postId, post.imageUrl, rfl, rfl, grows.post known.2.2.2⟩
  comment := by
    rintro store post user ⟨⟨named, -, -, data, stored, -⟩, -⟩ ⟨recorded, -⟩ text timestamp
    refine ⟨by simpa [Request.ids, CollectionReference.ids] using named,
      add_preserves (by simp) fun _ later id grows => ?_⟩
    exact ⟨grows.mem_post (Finmap.mem_of_lookup_eq_some stored), user.uid, rfl, grows.users recorded⟩
  upload := by
    rintro store current user recorded caption timestamp imageUrl
    refine ⟨by simp [Request.ids, CollectionReference.ids],
      add_preserves (fun _ later id grows named => ?_) (by simp)⟩
    exact ⟨named, current, imageUrl, rfl, rfl, grows.users recorded⟩
  save := by
    rintro store current profileImage signed - email fullname username
    refine ⟨?_, record_preserves signed.1 rfl⟩
    simpa [Request.ids, DocumentReference.ids, DocumentReference.parent, CollectionReference.ids,
      DocumentReference.documentID] using signed.1
  picture := by
    rintro store current profileImage signed -
    refine ⟨?_, update_preserves (by decide) (.inl ⟨current, rfl⟩)⟩
    simpa [Request.ids, DocumentReference.ids, DocumentReference.parent, CollectionReference.ids,
      DocumentReference.documentID] using signed.1
  owner_image := by
    rintro store current documents _ ⟨⟨consistent, -⟩, answers⟩ document listed profileImage
    have valid := (valid_of_answers consistent answers listed).2
    refine ⟨?_, update_preserves (by decide) (.inr ⟨document.documentID, rfl⟩)⟩
    simpa [Request.ids, DocumentReference.ids, DocumentReference.parent, CollectionReference.ids,
      DocumentReference.documentID] using valid.1

end Reads

end InstagramClone.Integrity
