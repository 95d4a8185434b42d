import Mathlib.Data.Finmap
import Mathlib.Data.Finset.Dedup
import Mathlib.Data.Finset.Filter
import Mathlib.Data.Set.Card

/-! # Firestore documents, paths and queries

Documents are string-keyed dictionaries at the paths the app uses, each path shape one
constructor. The database is a finite map from paths to dictionaries. A query answers with the
matching documents, each once: in an arbitrary order, or sorted when the query orders them.
-/

namespace InstagramClone

abbrev Uid := String

abbrev PostId := String

structure Timestamp where
  seconds : ℤ
  nanoseconds : ℕ
deriving DecidableEq, Repr

/-- Chronological order at full precision, as the server sorts. -/
def Timestamp.notAfter (first second : Timestamp) : Bool :=
  first.seconds < second.seconds ||
    (first.seconds == second.seconds && first.nanoseconds ≤ second.nanoseconds)

/-- The field types the app writes. -/
inductive Value where
  | string (text : String)
  | int (number : ℤ)
  | timestamp (time : Timestamp)
deriving DecidableEq, Repr

/-- `[String: Any]`, with `none` at absent keys. -/
abbrev Dictionary := String → Option Value

namespace Dictionary

def ofList (fields : List (String × Value)) : Dictionary := fun key => fields.lookup key

/-- `[:]` -/
def empty : Dictionary := fun _ => none

/-- `dictionary[key] as? String ?? ""` -/
def string (dictionary : Dictionary) (key : String) : String :=
  match dictionary key with
  | some (.string text) => text
  | _ => ""

/-- `dictionary[key] as? Int ?? 0` -/
def int (dictionary : Dictionary) (key : String) : ℤ :=
  match dictionary key with
  | some (.int number) => number
  | _ => 0

/-- `dictionary[key] as? Timestamp ?? Timestamp(date: Date())`, with the clock passed in. -/
def timestamp (dictionary : Dictionary) (key : String) (now : Timestamp) : Timestamp :=
  match dictionary key with
  | some (.timestamp time) => time
  | _ => now

/-- The dictionary after `updateData`: the given fields replace stored ones, the rest stay. -/
def updating (stored fields : Dictionary) : Dictionary := fun key => (fields key).or (stored key)

theorem updating_self (stored : Dictionary) (key : String) (value : Value) :
    stored.updating (ofList [(key, value)]) key = some value := by
  simp [updating, ofList]

theorem updating_of_ne (stored : Dictionary) {key other : String} (value : Value)
    (apart : other ≠ key) : stored.updating (ofList [(key, value)]) other = stored other := by
  have absent : (other == key) = false := beq_false_of_ne apart
  simp [updating, ofList, List.lookup_cons, absent]

end Dictionary

/-- The document paths of the app. -/
inductive DocumentReference where
  /-- `User/{uid}` -/
  | user (uid : Uid)
  /-- `User/{uid}/feeds/{post}` -/
  | userFeed (uid : Uid) (post : PostId)
  /-- `User/{uid}/likes/{post}` -/
  | userLike (uid : Uid) (post : PostId)
  /-- `Following/{uid}/user-following/{followed}` -/
  | following (uid followed : Uid)
  /-- `Follower/{uid}/user-followers/{follower}` -/
  | follower (uid follower : Uid)
  /-- `Post/{id}` -/
  | post (id : PostId)
  /-- `Post/{post}/likes/{uid}` -/
  | postLike (post : PostId) (uid : Uid)
  /-- `Post/{post}/comments/{id}` -/
  | comment (post : PostId) (id : String)
  /-- `Notification/{uid}/user-notifications/{id}` -/
  | notification (uid : Uid) (id : String)
deriving DecidableEq, Repr

/-- The collections these documents belong to. -/
inductive CollectionReference where
  | users
  | userFeeds (uid : Uid)
  | userLikes (uid : Uid)
  | userFollowing (uid : Uid)
  | userFollowers (uid : Uid)
  | posts
  | postLikes (post : PostId)
  | comments (post : PostId)
  | userNotifications (uid : Uid)
deriving DecidableEq, Repr

namespace DocumentReference

def parent : DocumentReference → CollectionReference
  | user _ => .users
  | userFeed uid _ => .userFeeds uid
  | userLike uid _ => .userLikes uid
  | following uid _ => .userFollowing uid
  | follower uid _ => .userFollowers uid
  | post _ => .posts
  | postLike id _ => .postLikes id
  | comment id _ => .comments id
  | notification uid _ => .userNotifications uid

def documentID : DocumentReference → String
  | user id | userFeed _ id | userLike _ id | following _ id | follower _ id
  | post id | postLike _ id | comment _ id | notification _ id => id

end DocumentReference

namespace CollectionReference

/-- `collection.document(id)` -/
def document : CollectionReference → String → DocumentReference
  | users, id => .user id
  | userFeeds uid, id => .userFeed uid id
  | userLikes uid, id => .userLike uid id
  | userFollowing uid, id => .following uid id
  | userFollowers uid, id => .follower uid id
  | posts, id => .post id
  | postLikes post, id => .postLike post id
  | comments post, id => .comment post id
  | userNotifications uid, id => .notification uid id

/-- The ids passed to `document(_:)` on the way to the collection. -/
def ids : CollectionReference → List String
  | users | posts => []
  | userFeeds uid | userLikes uid | userFollowing uid | userFollowers uid
  | userNotifications uid => [uid]
  | postLikes post | comments post => [post]

@[simp] theorem document_parent (collection : CollectionReference) (id : String) :
    (collection.document id).parent = collection := by
  cases collection <;> rfl

@[simp] theorem document_documentID (collection : CollectionReference) (id : String) :
    (collection.document id).documentID = id := by
  cases collection <;> rfl

end CollectionReference

/-- The ids passed to `document(_:)` along the path. -/
def DocumentReference.ids (reference : DocumentReference) : List String :=
  reference.parent.ids ++ [reference.documentID]

@[simp] theorem DocumentReference.parent_document (reference : DocumentReference) :
    reference.parent.document reference.documentID = reference := by
  cases reference <;> rfl

/-- Paths of one collection differ in their last id. -/
private theorem DocumentReference.eq_of_parent {first second : DocumentReference}
    (parents : first.parent = second.parent) (ids : first.documentID = second.documentID) :
    first = second := by
  rw [← first.parent_document, ← second.parent_document, parents, ids]

abbrev Firestore := Finmap fun _ : DocumentReference => Dictionary

/-- A document as a query snapshot delivers it. -/
structure Document where
  documentID : String
  data : Dictionary

/-- `whereField(_:isEqualTo:)` and `order(by:descending: true)` over one collection. -/
structure Query where
  collection : CollectionReference
  whereField : Option (String × Value) := none
  orderBy : Option String := none
deriving DecidableEq

namespace Firestore

/-- The auto-id stands in no path of the database. -/
def Unused (store : Firestore) (id : String) : Prop := ∀ reference ∈ store.keys, id ∉ reference.ids

instance (store : Firestore) (id : String) : Decidable (store.Unused id) :=
  inferInstanceAs (Decidable (∀ reference ∈ store.keys, id ∉ reference.ids))

@[simp] theorem lookup_set (store : Firestore) (written read : DocumentReference)
    (data : Dictionary) : (store.insert written data).lookup read =
      if read = written then some data else store.lookup read := by
  split_ifs with same
  · rw [same, Finmap.lookup_insert]
  · exact Finmap.lookup_insert_of_ne store same

@[simp] theorem lookup_delete (store : Firestore) (erased read : DocumentReference) :
    (store.erase erased).lookup read = if read = erased then none else store.lookup read := by
  split_ifs with same
  · rw [same, Finmap.lookup_erase]
  · exact Finmap.lookup_erase_ne same

/-- The documents of a collection. -/
def references (store : Firestore) (collection : CollectionReference) :
    Finset DocumentReference :=
  store.keys.filter fun reference => reference.parent = collection

/-- The number of documents in a collection. -/
def count (store : Firestore) (collection : CollectionReference) : ℕ :=
  (store.references collection).card

theorem mem_references {store : Firestore} {collection : CollectionReference}
    {reference : DocumentReference} :
    reference ∈ store.references collection ↔ reference ∈ store ∧ reference.parent = collection := by
  rw [references, Finset.mem_filter, Finmap.mem_keys]

/-- A new document adds one to its collection. -/
theorem count_set {store : Firestore} {reference : DocumentReference} (absent : reference ∉ store)
    (data : Dictionary) :
    count (store.insert reference data) reference.parent = store.count reference.parent + 1 := by
  have grows : references (store.insert reference data) reference.parent =
      insert reference (store.references reference.parent) := by
    ext other
    rw [Finset.mem_insert, mem_references, mem_references, Finmap.mem_insert]
    constructor
    · rintro ⟨rfl | member, parent⟩
      · exact .inl rfl
      · exact .inr ⟨member, parent⟩
    · rintro (rfl | ⟨member, parent⟩)
      · exact ⟨.inl rfl, rfl⟩
      · exact ⟨.inr member, parent⟩
  rw [count, grows, Finset.card_insert_of_notMem fun member => absent (mem_references.mp member).1]
  rfl

/-- Deleting a document takes one from its collection. -/
theorem count_delete {store : Firestore} {reference : DocumentReference}
    (present : reference ∈ store) :
    count (store.erase reference) reference.parent + 1 = store.count reference.parent := by
  have shrinks : references (store.erase reference) reference.parent =
      (store.references reference.parent).erase reference := by
    ext other
    rw [Finset.mem_erase, mem_references, mem_references, Finmap.mem_erase]
    tauto
  rw [count, shrinks, Finset.card_erase_add_one (mem_references.mpr ⟨present, rfl⟩)]
  rfl

/-- Stores with the same documents in a collection have the same number of them. -/
theorem count_congr {first second : Firestore} {collection : CollectionReference}
    (same : ∀ reference, reference.parent = collection →
      (reference ∈ first ↔ reference ∈ second)) : first.count collection = second.count collection := by
  have equal : first.references collection = second.references collection := by
    ext reference
    rw [mem_references, mem_references]
    exact and_congr_left fun parent => same reference parent
  rw [count, count, equal]

end Firestore

namespace Query

/-- The document at this path is one of the query's results. -/
def Selects (query : Query) (store : Firestore) (reference : DocumentReference) : Prop :=
  reference.parent = query.collection ∧
    (∀ filter ∈ query.whereField,
      (store.lookup reference).bind (fun data => data filter.1) = some filter.2) ∧
    ∀ field ∈ query.orderBy, ((store.lookup reference).bind (fun data => data field)).isSome

instance (query : Query) (store : Firestore) (reference : DocumentReference) :
    Decidable (query.Selects store reference) :=
  inferInstanceAs (Decidable (reference.parent = query.collection ∧
    (∀ filter ∈ query.whereField,
      (store.lookup reference).bind (fun data => data filter.1) = some filter.2) ∧
    ∀ field ∈ query.orderBy, ((store.lookup reference).bind (fun data => data field)).isSome))

/-- Newest first by the ordering field, where the query has one. -/
def Sorted (query : Query) (documents : List Document) : Prop :=
  ∀ field ∈ query.orderBy, documents.Pairwise fun first second =>
    ((second.data.timestamp field ⟨0, 0⟩).notAfter (first.data.timestamp field ⟨0, 0⟩)) = true

instance (query : Query) (documents : List Document) : Decidable (query.Sorted documents) :=
  inferInstanceAs (Decidable (∀ field ∈ query.orderBy, documents.Pairwise fun first second =>
    ((second.data.timestamp field ⟨0, 0⟩).notAfter (first.data.timestamp field ⟨0, 0⟩)) = true))

/-- The stored documents at the listed paths. -/
def read (store : Firestore) (order : List DocumentReference) : List Document :=
  order.filterMap fun reference =>
    (store.lookup reference).map fun data => ⟨reference.documentID, data⟩

/-- The answer that lists the results in the given order, when that order is a legal one. -/
def answer? (query : Query) (store : Firestore) (order : List DocumentReference) :
    Option (List Document) :=
  if order.Nodup ∧ order.toFinset = store.keys.filter (query.Selects store) ∧
      query.Sorted (read store order) then
    some (read store order)
  else none

/-- An answer contains exactly the stored documents that the query selects. -/
theorem mem_answer? {query : Query} {store : Firestore} {order : List DocumentReference}
    {documents : List Document} (answered : query.answer? store order = some documents)
    (document : Document) : document ∈ documents ↔
      ∃ reference, query.Selects store reference ∧
        store.lookup reference = some document.data ∧
        reference.documentID = document.documentID := by
  unfold answer? at answered
  split_ifs at answered with legal
  obtain rfl := Option.some.inj answered
  have listed (reference : DocumentReference) :
      reference ∈ order ↔ reference ∈ store ∧ query.Selects store reference := by
    rw [← List.mem_toFinset, legal.2.1, Finset.mem_filter, Finmap.mem_keys]
  simp only [read, List.mem_filterMap, Option.map_eq_some_iff, listed]
  constructor
  · rintro ⟨reference, ⟨_, selected⟩, data, stored, rfl⟩
    exact ⟨reference, selected, stored, rfl⟩
  · rintro ⟨reference, selected, stored, sameID⟩
    refine ⟨reference, ⟨Finmap.mem_of_lookup_eq_some stored, selected⟩, _, stored, ?_⟩
    rw [sameID]

/-- The ids in an answer are those of the selected documents, as paths of the collection. -/
theorem mem_answer?_ids {query : Query} {store : Firestore} {order : List DocumentReference}
    {documents : List Document} (answered : query.answer? store order = some documents)
    (id : String) : id ∈ documents.map Document.documentID ↔
      query.collection.document id ∈ store ∧
        query.Selects store (query.collection.document id) := by
  simp only [List.mem_map, mem_answer? answered]
  constructor
  · rintro ⟨document, ⟨reference, selected, stored, sameID⟩, rfl⟩
    have same : query.collection.document document.documentID = reference := by
      rw [← sameID, ← selected.1, DocumentReference.parent_document]
    rw [same]
    exact ⟨Finmap.mem_of_lookup_eq_some stored, selected⟩
  · rintro ⟨present, selected⟩
    obtain ⟨data, stored⟩ := Finmap.mem_iff.mp present
    exact ⟨⟨id, data⟩, ⟨_, selected, stored, by simp⟩, rfl⟩

/-- A document of an answer is stored under its id. -/
theorem lookup_answer? {query : Query} {store : Firestore} {order : List DocumentReference}
    {documents : List Document} (answered : query.answer? store order = some documents)
    {document : Document} (member : document ∈ documents) :
    store.lookup (query.collection.document document.documentID) = some document.data := by
  obtain ⟨reference, selected, stored, id⟩ := (mem_answer? answered document).mp member
  rw [← id, ← selected.1, reference.parent_document]
  exact stored

/-- An answer lists each document once. -/
theorem answer?_nodup {query : Query} {store : Firestore} {order : List DocumentReference}
    {documents : List Document} (answered : query.answer? store order = some documents) :
    (documents.map Document.documentID).Nodup := by
  unfold answer? at answered
  split_ifs at answered with legal
  obtain rfl := Option.some.inj answered
  have inCollection : ∀ reference ∈ order, reference.parent = query.collection := by
    intro reference member
    have selected := List.mem_toFinset.mpr member
    rw [legal.2.1, Finset.mem_filter] at selected
    exact selected.2.1
  have each : (read store order).map Document.documentID =
      (order.filter fun reference => (store.lookup reference).isSome).map
        DocumentReference.documentID := by
    clear legal inCollection
    induction order with
    | nil => rfl
    | cons reference rest ih =>
      cases stored : store.lookup reference <;> simpa [read, stored] using ih
  rw [each]
  refine List.Nodup.map_on ?_ (legal.1.filter _)
  intro first firstIn second secondIn same
  refine DocumentReference.eq_of_parent ?_ same
  rw [inCollection first (List.mem_filter.mp firstIn).1,
    inCollection second (List.mem_filter.mp secondIn).1]

/-- A query for a whole collection answers with as many documents as there are. -/
theorem length_answer? {collection : CollectionReference} {store : Firestore}
    {order : List DocumentReference} {documents : List Document}
    (answered : ({ collection } : Query).answer? store order = some documents) :
    documents.length = {id | collection.document id ∈ store}.ncard := by
  have ids : {id | collection.document id ∈ store} =
      ((documents.map Document.documentID).toFinset : Set String) := by
    ext id
    rw [Set.mem_ofPred_eq, Finset.mem_coe, List.mem_toFinset, mem_answer?_ids answered]
    simp [Selects]
  rw [ids, Set.ncard_coe_finset, List.toFinset_card_of_nodup (answer?_nodup answered),
    List.length_map]

/-- How many documents a query selects. -/
def selected (query : Query) (store : Firestore) : ℕ :=
  (store.keys.filter (query.Selects store)).card

private theorem length_read {store : Firestore} {order : List DocumentReference}
    (stored : ∀ reference ∈ order, reference ∈ store) : (read store order).length = order.length := by
  induction order with
  | nil => rfl
  | cons reference rest ih =>
    obtain ⟨data, found⟩ := Finmap.mem_iff.mp (stored reference (List.mem_cons_self ..))
    have tail := ih fun other member => stored other (List.mem_cons_of_mem _ member)
    rw [read] at tail ⊢
    rw [List.filterMap_cons_some (by rw [found]; rfl), List.length_cons, List.length_cons, tail]

/-- An answer has as many documents as the query selects. -/
theorem length_eq_selected {query : Query} {store : Firestore} {order : List DocumentReference}
    {documents : List Document} (answered : query.answer? store order = some documents) :
    documents.length = query.selected store := by
  unfold answer? at answered
  split_ifs at answered with legal
  obtain rfl := Option.some.inj answered
  have stored (reference : DocumentReference) (member : reference ∈ order) : reference ∈ store := by
    rw [← List.mem_toFinset, legal.2.1, Finset.mem_filter, Finmap.mem_keys] at member
    exact member.1
  rw [length_read stored, selected, ← legal.2.1, List.toFinset_card_of_nodup legal.1]

/-- A query without conditions selects a whole collection. -/
theorem selected_collection (store : Firestore) (collection : CollectionReference) :
    ({ collection } : Query).selected store = store.count collection := by
  rw [selected, Firestore.count, Firestore.references]
  congr 1
  apply Finset.filter_congr
  intro reference _
  simp [Selects]

end Query

end InstagramClone
