import InstagramClone.API.PostService
import InstagramClone.Async.Completion
import InstagramClone.Soundness.FeedOrder

/-! # The list of all posts and the list of a user's posts

The server sorts all posts by their full timestamps. The posts of one user arrive in any order and
are sorted on the device by whole seconds, which keeps the order of arrival within a second. The two
lists agree, whatever order the server chooses, exactly if no two posts of the user are of one
second.
-/

namespace InstagramClone

open Async

namespace PostListings

open FeedOrder

/-- A client that keeps the list it is delivered. -/
structure Listing where
  now : Timestamp
  posts : Option (List Post) := none

instance : Device Listing where
  currentUser _ := none
  setCurrentUser _ listing := listing
  now := Listing.now
  googleProfile _ := none

/-- Keep the delivered list. -/
def keep (posts : List Post) : Code Listing :=
  .update (fun listing => { listing with posts := some posts }) .done

/-- The service may deliver this list when nothing else happens and nothing fails. -/
def Delivers (store : Cloud) (fetch : (List Post → Code Listing) → Code Listing)
    (posts : List Post) : Prop :=
  ∃ now, ∃ final : Network cloud Listing Unit Unit,
    ((Network.lone store ⟨now, none⟩ []).launch id () (fetch keep)).Completes id
      (fun signal => succeeds signal = true) final ∧
    final.clients () = some ⟨now, some posts⟩

variable {store : Cloud} {uid : Uid} {query : Query} {posts : List Post} {post : Post}
  {documents : List Document} {now : Timestamp}

section Answers

/-- A service that asks one query and delivers what it makes of the answer. -/
private theorem delivers_iff {fetch : (List Post → Code Listing) → Code Listing}
    {arrange : Timestamp → List Document → List Post}
    (asks : ∀ completion, fetch completion = Code.call (.getDocuments query) fun
      | .error _ => .done
      | .ok documents => Code.withTimestamp fun now => completion (arrange now documents)) :
    Delivers store fetch posts ↔ ∃ now order documents,
      query.answer? store.firestore order = some documents ∧ posts = arrange now documents := by
  constructor
  · rintro ⟨now, final, completes, kept⟩
    rw [asks] at completes
    obtain ⟨index, choice, later, answer, allowed, served, completes⟩ :=
      completes.launch_call (Code.run_call ..)
    obtain ⟨order, fresh, transfer, resolved⟩ := serve_succeeds allowed served
    obtain ⟨documents, answered, same⟩ := Option.map_eq_some_iff.mp resolved
    obtain ⟨rfl, rfl⟩ := Prod.mk.inj same
    have ran : (Code.withTimestamp fun now => keep (arrange now documents)).run ⟨now, none⟩ =
        ⟨some ⟨now, some (arrange now documents)⟩, [], []⟩ := rfl
    obtain rfl := completes.launch_idle ran
    have same := (Listing.mk.inj (Option.some.inj kept)).2
    exact ⟨now, order, documents, answered, (Option.some.inj same).symm⟩
  · rintro ⟨now, order, documents, answered, rfl⟩
    have ran : (Code.withTimestamp fun now => keep (arrange now documents)).run ⟨now, none⟩ =
        ⟨some ⟨now, some (arrange now documents)⟩, [], []⟩ := rfl
    refine ⟨now, .lone store ⟨now, some (arrange now documents)⟩ [], ?_, rfl⟩
    rw [asks, Network.lone_launch (Code.run_call ..)]
    have served : cloud.serve (.answer order "") store (.getDocuments query) =
        some (store, .ok documents) := by
      change (query.answer? store.firestore order).map _ = _
      rw [answered]
      rfl
    refine Network.completes_lone_single served rfl rfl ⟨[], ?_, ?_⟩
    · rw [Network.lone_launch ran]
      exact .nil _
    · rfl

private theorem delivers_fetchPosts_iff : Delivers store PostService.fetchPosts posts ↔
    ∃ now order documents, Query.answer? { collection := .posts, orderBy := some "timestamp" }
      store.firestore order = some documents ∧ posts = PostService.decode now documents := by
  refine delivers_iff fun completion => congrArg (Code.call _) ?_
  funext answer
  cases answer <;> rfl

/-- The device's order of a user's posts, by whole seconds. -/
def notEarlier (first second : Post) : Bool := first.timestamp.seconds ≥ second.timestamp.seconds

theorem notEarlier_trans (first second third : Post) (one : notEarlier first second = true)
    (other : notEarlier second third = true) : notEarlier first third = true := by
  simp only [notEarlier, decide_eq_true_eq] at one other ⊢
  omega

theorem notEarlier_total (first second : Post) :
    (notEarlier first second || notEarlier second first) = true := by
  simp only [notEarlier, Bool.or_eq_true, decide_eq_true_eq]
  omega

private theorem delivers_fetchPostsForUser_iff :
    Delivers store (PostService.fetchPostsForUser uid) posts ↔
      ∃ now order documents,
        (PostService.ownedBy uid).answer? store.firestore order = some documents ∧
          posts = (PostService.decode now documents).mergeSort notEarlier := by
  refine delivers_iff fun completion => congrArg (Code.call _) ?_
  funext answer
  cases answer <;> rfl

end Answers

section Stored

/-- Every post has an owner and a time of its own. -/
structure Timed (store : Firestore) : Prop where
  fields : ∀ id data, store.lookup (.post id) = some data →
    ∃ owner time, data "ownerUid" = some (.string owner) ∧ data "timestamp" = some (.timestamp time)
  distinct : ∀ first second one other time, store.lookup (.post first) = some one →
    store.lookup (.post second) = some other → one "timestamp" = some (.timestamp time) →
    other "timestamp" = some (.timestamp time) → first = second

/-- No two posts of the user are of one second. -/
def SecondsApart (store : Firestore) (uid : Uid) : Prop :=
  ∀ first second one other earlier later, store.lookup (.post first) = some one →
    store.lookup (.post second) = some other → one "ownerUid" = some (.string uid) →
    other "ownerUid" = some (.string uid) → one "timestamp" = some (.timestamp earlier) →
    other "timestamp" = some (.timestamp later) → earlier.seconds = later.seconds → first = second

/-- The post as it is stored. -/
def Stored (store : Firestore) (post : Post) : Prop :=
  ∃ data time, store.lookup (.post post.postId) = some data ∧
    data "timestamp" = some (.timestamp time) ∧ post = Post.ofDictionary time post.postId data

/-- The clock does not matter for a post with a time. -/
private theorem ofDictionary_timestamp {data : Dictionary} {time : Timestamp}
    (timed : data "timestamp" = some (.timestamp time)) (now : Timestamp) (id : PostId) :
    Post.ofDictionary now id data = Post.ofDictionary time id data := by
  simp [Post.ofDictionary, Dictionary.timestamp, timed]

private theorem timestamp_ofDictionary {data : Dictionary} {time : Timestamp}
    (timed : data "timestamp" = some (.timestamp time)) (now : Timestamp) (id : PostId) :
    (Post.ofDictionary now id data).timestamp = time := by
  simp [Post.ofDictionary, Dictionary.timestamp, timed]

private theorem ownerUid_ofDictionary {data : Dictionary} {owner : Uid}
    (owned : data "ownerUid" = some (.string owner)) (now : Timestamp) (id : PostId) :
    (Post.ofDictionary now id data).ownerUid = owner := by
  simp [Post.ofDictionary, Dictionary.string, owned]

/-- The fields of a stored post are those of its document. -/
private theorem Stored.fields (timed : Timed store.firestore) (stored : Stored store.firestore post) :
    ∃ data, store.firestore.lookup (.post post.postId) = some data ∧
      data "ownerUid" = some (.string post.ownerUid) ∧
      data "timestamp" = some (.timestamp post.timestamp) := by
  obtain ⟨data, time, found, fixed, formed⟩ := stored
  obtain ⟨owner, _, owned, -⟩ := timed.fields _ _ found
  refine ⟨data, found, ?_, ?_⟩
  · rw [formed, ownerUid_ofDictionary owned]
    exact owned
  · rw [formed, timestamp_ofDictionary fixed]
    exact fixed

/-- The id decides a stored post. -/
private theorem Stored.ext_id {first second : Post} (one : Stored store.firestore first)
    (other : Stored store.firestore second) (same : first.postId = second.postId) :
    first = second := by
  obtain ⟨data, time, found, fixed, formed⟩ := one
  obtain ⟨data', time', found', fixed', formed'⟩ := other
  rw [same, found'] at found
  obtain rfl := Option.some.inj found
  rw [fixed'] at fixed
  obtain ⟨⟩ := fixed
  rw [formed, same, ← formed']

private theorem Stored.decode_read (stored : Stored store.firestore post)
    (rest : List DocumentReference) :
    PostService.decode now (Query.read store.firestore (.post post.postId :: rest)) =
      post :: PostService.decode now (Query.read store.firestore rest) := by
  obtain ⟨data, time, found, fixed, formed⟩ := stored
  have read : Query.read store.firestore (.post post.postId :: rest) =
      ⟨post.postId, data⟩ :: Query.read store.firestore rest := by
    simp [Query.read, found, DocumentReference.documentID]
  rw [read, PostService.decode, List.map_cons, ofDictionary_timestamp fixed, ← formed]
  rfl

/-- No two stored posts are of one time. -/
private theorem Stored.ext_time (timed : Timed store.firestore) {first second : Post}
    (one : Stored store.firestore first) (other : Stored store.firestore second)
    (same : first.timestamp = second.timestamp) : first = second := by
  obtain ⟨data, found, -, fixed⟩ := one.fields timed
  obtain ⟨data', found', -, fixed'⟩ := other.fields timed
  exact one.ext_id other (timed.distinct _ _ data data' _ found found' fixed (same ▸ fixed'))

/-- A document of an answer about posts has a time. -/
private theorem timed_of_mem (timed : Timed store.firestore) {order : List DocumentReference}
    (answered : query.answer? store.firestore order = some documents)
    (all : query.collection = .posts) {document : Document} (member : document ∈ documents) :
    ∃ time, document.data "timestamp" = some (.timestamp time) ∧
      store.firestore.lookup (.post document.documentID) = some document.data ∧
      query.Selects store.firestore (.post document.documentID) := by
  obtain ⟨reference, selected, stored, id⟩ := (Query.mem_answer? answered document).mp member
  have path : reference = .post document.documentID := by
    rw [← id, ← reference.parent_document, selected.1, all]
    rfl
  subst path
  obtain ⟨_, time, -, fixed⟩ := timed.fields _ _ stored
  exact ⟨time, fixed, stored, selected⟩

/-- The documents of an answer, decoded, are the stored posts that the query selects. -/
private theorem mem_decode_iff (timed : Timed store.firestore) {order : List DocumentReference}
    (answered : query.answer? store.firestore order = some documents)
    (all : query.collection = .posts) : post ∈ PostService.decode now documents ↔
      Stored store.firestore post ∧ query.Selects store.firestore (.post post.postId) := by
  rw [PostService.decode, List.mem_map]
  constructor
  · rintro ⟨document, member, rfl⟩
    obtain ⟨time, fixed, stored, selected⟩ := timed_of_mem timed answered all member
    exact ⟨⟨_, time, stored, fixed, ofDictionary_timestamp fixed now _⟩, selected⟩
  · rintro ⟨⟨data, time, stored, fixed, formed⟩, selected⟩
    refine ⟨⟨post.postId, data⟩, (Query.mem_answer? answered _).mpr ⟨_, selected, stored, rfl⟩, ?_⟩
    rw [ofDictionary_timestamp fixed]
    exact formed.symm

private theorem nodup_decode {order : List DocumentReference}
    (answered : query.answer? store.firestore order = some documents) :
    (PostService.decode now documents).Nodup := by
  refine List.Nodup.of_map Post.postId ?_
  rw [PostService.decode, List.map_map]
  exact Query.answer?_nodup answered

/-- The query for all posts selects every stored post. -/
private theorem selects_all (stored : Stored store.firestore post) :
    Query.Selects { collection := .posts, orderBy := some "timestamp" } store.firestore
      (.post post.postId) := by
  obtain ⟨data, time, stored, fixed, -⟩ := stored
  refine ⟨rfl, nofun, ?_⟩
  rintro _ ⟨⟩
  simp [stored, fixed]

/-- The query for the posts of a user selects the stored ones that the user owns. -/
private theorem selects_owned_iff (timed : Timed store.firestore)
    (stored : Stored store.firestore post) :
    (PostService.ownedBy uid).Selects store.firestore (.post post.postId) ↔ post.ownerUid = uid := by
  obtain ⟨data, found, owned, -⟩ := stored.fields timed
  simp [Query.Selects, PostService.ownedBy, found, owned, DocumentReference.parent]

end Stored

section Sorting

/-- The time the server sorts a stored document by. -/
def timeAt (store : Firestore) (reference : DocumentReference) : Timestamp :=
  ((store.lookup reference).getD .empty).timestamp "timestamp" ⟨0, 0⟩

/-- The server may list the first document before the second. -/
def notOlder (store : Firestore) (first second : DocumentReference) : Bool :=
  (timeAt store second).notAfter (timeAt store first)

private theorem notAfter_trans {first second third : Timestamp} (one : first.notAfter second = true)
    (other : second.notAfter third = true) : first.notAfter third = true := by
  simp only [Timestamp.notAfter, Bool.or_eq_true, Bool.and_eq_true, decide_eq_true_eq,
    beq_iff_eq] at one other ⊢
  omega

private theorem notOlder_trans (store : Firestore) (first second third : DocumentReference)
    (one : notOlder store first second = true) (other : notOlder store second third = true) :
    notOlder store first third = true :=
  notAfter_trans other one

private theorem notAfter_total (first second : Timestamp) :
    first.notAfter second = true ∨ second.notAfter first = true := by
  simp only [Timestamp.notAfter, Bool.or_eq_true, Bool.and_eq_true, decide_eq_true_eq, beq_iff_eq]
  omega

private theorem notOlder_total (store : Firestore) (first second : DocumentReference) :
    (notOlder store first second || notOlder store second first) = true := by
  rw [Bool.or_eq_true]
  exact notAfter_total _ _

private theorem notAfter_antisymm {first second : Timestamp} (one : first.notAfter second = true)
    (other : second.notAfter first = true) : first = second := by
  obtain ⟨seconds, nanoseconds⟩ := first
  obtain ⟨seconds', nanoseconds'⟩ := second
  simp only [Timestamp.notAfter, Bool.or_eq_true, Bool.and_eq_true, decide_eq_true_eq,
    beq_iff_eq] at one other
  rw [Timestamp.mk.injEq]
  omega

/-- The documents of an answer stand in the order that the query asks for. -/
private theorem sorted_answer {order : List DocumentReference}
    (answered : query.answer? store.firestore order = some documents) : query.Sorted documents := by
  unfold Query.answer? at answered
  split_ifs at answered with legal
  obtain rfl := Option.some.inj answered
  exact legal.2.2

/-- The server has an answer to every query that sorts by time. -/
private theorem exists_answer_sorted (collection : CollectionReference) (store : Firestore) :
    ∃ order documents,
      Query.answer? { collection, orderBy := some "timestamp" } store order = some documents := by
  let query : Query := { collection, orderBy := some "timestamp" }
  let selected := (store.keys.filter (query.Selects store)).toList
  let order := selected.mergeSort (notOlder store)
  have sorted : order.Pairwise fun first second => notOlder store first second :=
    List.pairwise_mergeSort (notOlder_trans store) (notOlder_total store) selected
  have perm : order.Perm selected := List.mergeSort_perm selected (notOlder store)
  refine ⟨order, Query.read store order, if_pos ⟨?_, ?_, ?_⟩⟩
  · exact perm.nodup_iff.mpr (Finset.nodup_toList _)
  · rw [List.toFinset_eq_of_perm _ _ perm, Finset.toList_toFinset]
  · rintro _ ⟨⟩
    refine List.pairwise_filterMap.mpr (sorted.imp ?_)
    rintro first second later _ found _ found'
    obtain ⟨data, stored, rfl⟩ := Option.map_eq_some_iff.mp found
    obtain ⟨data', stored', rfl⟩ := Option.map_eq_some_iff.mp found'
    simpa [notOlder, timeAt, stored, stored'] using later

/-- A query without an order answers in any order. -/
private theorem answer_unsorted {store : Firestore} (unsorted : query.orderBy = none)
    {order : List DocumentReference} (nodup : order.Nodup)
    (selected : order.toFinset = store.keys.filter (query.Selects store)) :
    query.answer? store order = some (Query.read store order) := by
  refine if_pos ⟨nodup, selected, ?_⟩
  rw [Query.Sorted, unsorted]
  rintro _ ⟨⟩

/-- A finite set can be listed with any two of its members first. -/
private theorem exists_listing {set : Finset DocumentReference} {first second : DocumentReference}
    (one : first ∈ set) (other : second ∈ set) (apart : first ≠ second) :
    ∃ rest, (first :: second :: rest).Nodup ∧ (first :: second :: rest).toFinset = set := by
  refine ⟨((set.erase first).erase second).toList, ?_, ?_⟩
  · simp [apart, Finset.nodup_toList]
  · rw [List.toFinset_cons, List.toFinset_cons, Finset.toList_toFinset,
      Finset.insert_erase (Finset.mem_erase.mpr ⟨apart.symm, other⟩), Finset.insert_erase one]

/-- Posts with times of their own that do not get younger get older. -/
private theorem pairwise_newer (timed : Timed store.firestore) (nodup : posts.Nodup)
    (stored : ∀ post ∈ posts, Stored store.firestore post)
    (sorted : posts.Pairwise fun first second =>
      second.timestamp.notAfter first.timestamp = true) : posts.Pairwise Newer := by
  refine (sorted.and nodup).imp_of_mem ?_
  rintro first second one other ⟨older, apart⟩
  by_contra newer
  rw [Newer, Bool.not_eq_false] at newer
  exact apart ((stored first one).ext_time timed (stored second other)
    (notAfter_antisymm newer older))

end Sorting

section Agreement

/-- The list of all posts is the stored posts, newest first. -/
private theorem all_listed (timed : Timed store.firestore)
    (delivers : Delivers store PostService.fetchPosts posts) :
    posts.Pairwise Newer ∧ ∀ post, post ∈ posts ↔ Stored store.firestore post := by
  obtain ⟨now, order, documents, answered, rfl⟩ := delivers_fetchPosts_iff.mp delivers
  have members (post : Post) : post ∈ PostService.decode now documents ↔
      Stored store.firestore post := by
    rw [mem_decode_iff timed answered rfl]
    exact ⟨And.left, fun stored => ⟨stored, selects_all stored⟩⟩
  refine ⟨pairwise_newer timed (nodup_decode answered) (fun post => (members post).mp) ?_, members⟩
  rw [PostService.decode, List.pairwise_map]
  refine (sorted_answer answered _ rfl).imp_of_mem ?_
  intro first second one other older
  obtain ⟨_, fixed, -⟩ := timed_of_mem timed answered rfl one
  obtain ⟨_, fixed', -⟩ := timed_of_mem timed answered rfl other
  rw [timestamp_ofDictionary fixed, timestamp_ofDictionary fixed']
  simpa [Dictionary.timestamp, fixed, fixed'] using older

/-- The list of a user's posts is the stored posts of the user, by seconds. -/
private theorem mine_listed (timed : Timed store.firestore)
    (delivers : Delivers store (PostService.fetchPostsForUser uid) posts) :
    posts.Nodup ∧ (posts.Pairwise fun first second => notEarlier first second = true) ∧
      ∀ post, post ∈ posts ↔ Stored store.firestore post ∧ post.ownerUid = uid := by
  obtain ⟨now, order, documents, answered, rfl⟩ := delivers_fetchPostsForUser_iff.mp delivers
  have perm := List.mergeSort_perm (PostService.decode now documents) notEarlier
  refine ⟨perm.nodup_iff.mpr (nodup_decode answered),
    List.pairwise_mergeSort notEarlier_trans notEarlier_total _, fun post => ?_⟩
  rw [perm.mem_iff, mem_decode_iff timed answered rfl]
  exact and_congr_right fun stored => selects_owned_iff timed stored

/-- Posts of one user that do not get younger by the second get older. -/
private theorem pairwise_newer_of_apart (apart : SecondsApart store.firestore uid)
    (nodup : posts.Nodup) (stored : ∀ post ∈ posts, Stored store.firestore post ∧ post.ownerUid = uid)
    (timed : Timed store.firestore)
    (sorted : posts.Pairwise fun first second => notEarlier first second = true) :
    posts.Pairwise Newer := by
  refine (sorted.and nodup).imp_of_mem ?_
  rintro first second one other ⟨later, different⟩
  obtain ⟨stored₁, owned₁⟩ := stored first one
  obtain ⟨stored₂, owned₂⟩ := stored second other
  have seconds : first.timestamp.seconds ≠ second.timestamp.seconds := by
    intro same
    obtain ⟨data, found, owned, fixed⟩ := stored₁.fields timed
    obtain ⟨data', found', owned', fixed'⟩ := stored₂.fields timed
    rw [owned₁] at owned
    rw [owned₂] at owned'
    exact different (stored₁.ext_id stored₂
      (apart _ _ data data' _ _ found found' owned owned' fixed fixed' same))
  simp only [notEarlier, decide_eq_true_eq] at later
  simp only [Newer, Timestamp.notAfter, Bool.or_eq_false_iff, decide_eq_false_iff_not,
    Bool.and_eq_false_iff, beq_eq_false_iff_ne]
  omega

/-- Of two posts of a user and a second, the device may list the older one first. -/
private theorem older_first (timed : Timed store.firestore) {older newer : Post}
    (stored : Stored store.firestore older) (stored' : Stored store.firestore newer)
    (owned : older.ownerUid = uid) (owned' : newer.ownerUid = uid)
    (same : older.timestamp.seconds = newer.timestamp.seconds) (different : older ≠ newer) :
    ∃ mine, Delivers store (PostService.fetchPostsForUser uid) mine ∧
      [older, newer].Sublist mine := by
  have apart : DocumentReference.post older.postId ≠ .post newer.postId := fun paths =>
    different (stored.ext_id stored' (DocumentReference.post.inj paths))
  have chosen {post : Post} (stored : Stored store.firestore post) (owned : post.ownerUid = uid) :
      .post post.postId ∈
        store.firestore.keys.filter ((PostService.ownedBy uid).Selects store.firestore) := by
    obtain ⟨data, found, -⟩ := stored.fields timed
    rw [Finset.mem_filter, Finmap.mem_keys]
    exact ⟨Finmap.mem_of_lookup_eq_some found, (selects_owned_iff timed stored).mpr owned⟩
  obtain ⟨rest, nodup, listed⟩ := exists_listing (chosen stored owned) (chosen stored' owned') apart
  have answered := answer_unsorted rfl nodup listed
  have decoded : [older, newer].Sublist (PostService.decode ⟨0, 0⟩
      (Query.read store.firestore (.post older.postId :: .post newer.postId :: rest))) := by
    rw [stored.decode_read, stored'.decode_read]
    exact ((List.nil_sublist _).cons_cons _).cons_cons _
  refine ⟨_, delivers_fetchPostsForUser_iff.mpr ⟨⟨0, 0⟩, _, _, answered, rfl⟩, ?_⟩
  refine List.pair_sublist_mergeSort notEarlier_trans notEarlier_total ?_ decoded
  simp [notEarlier, same]

/-- If the lists agree then no post of the user is older than another by less than a second. -/
private theorem eq_of_agree (timed : Timed store.firestore)
    (agree : ∀ all mine, Delivers store PostService.fetchPosts all →
      Delivers store (PostService.fetchPostsForUser uid) mine →
        mine = all.filter fun post => post.ownerUid = uid) {older newer : Post}
    (stored : Stored store.firestore older) (stored' : Stored store.firestore newer)
    (owned : older.ownerUid = uid) (owned' : newer.ownerUid = uid)
    (same : older.timestamp.seconds = newer.timestamp.seconds)
    (before : older.timestamp.notAfter newer.timestamp = true) : older = newer := by
  by_contra different
  obtain ⟨mine, delivers, listed⟩ := older_first timed stored stored' owned owned' same different
  obtain ⟨order, documents, answered⟩ := exists_answer_sorted .posts store.firestore
  have delivers' := delivers_fetchPosts_iff.mpr ⟨⟨0, 0⟩, order, documents, answered, rfl⟩
  obtain ⟨sorted, -⟩ := all_listed timed delivers'
  rw [agree _ _ delivers' delivers] at listed
  have newest := List.pairwise_pair.mp (sorted.sublist (listed.trans List.filter_sublist))
  rw [Newer, before] at newest
  contradiction

/-- The two lists agree exactly if no two posts of the user are of one second. -/
theorem listings_agree_iff (timed : Timed store.firestore) :
    (∀ all mine, Delivers store PostService.fetchPosts all →
      Delivers store (PostService.fetchPostsForUser uid) mine →
        mine = all.filter fun post => post.ownerUid = uid) ↔
      SecondsApart store.firestore uid := by
  constructor
  · intro agree first second one other earlier later found found' owned owned' fixed fixed' same
    have stored : Stored store.firestore (Post.ofDictionary earlier first one) :=
      ⟨one, earlier, found, fixed, rfl⟩
    have stored' : Stored store.firestore (Post.ofDictionary later second other) :=
      ⟨other, later, found', fixed', rfl⟩
    have seconds : (Post.ofDictionary earlier first one).timestamp.seconds =
        (Post.ofDictionary later second other).timestamp.seconds := by
      rw [timestamp_ofDictionary fixed, timestamp_ofDictionary fixed', same]
    have owner := ownerUid_ofDictionary owned earlier first
    have owner' := ownerUid_ofDictionary owned' later second
    obtain before | before := notAfter_total
      (Post.ofDictionary earlier first one).timestamp
      (Post.ofDictionary later second other).timestamp
    · exact congrArg Post.postId
        (eq_of_agree timed agree stored stored' owner owner' seconds before)
    · exact congrArg Post.postId
        (eq_of_agree timed agree stored' stored owner' owner seconds.symm before).symm
  · intro apart all mine delivers delivers'
    obtain ⟨sorted, members⟩ := all_listed timed delivers
    obtain ⟨nodup, later, members'⟩ := mine_listed timed delivers'
    have sorted' := pairwise_newer_of_apart apart nodup (fun post => (members' post).mp) timed later
    refine sorted'.eq_of_mem_iff (sorted.filter _) fun post => ?_
    rw [members', List.mem_filter, members, decide_eq_true_eq]

/-- A post of the account "u". -/
def shot (time : Timestamp) : Dictionary :=
  .ofList [("ownerUid", .string "u"), ("timestamp", .timestamp time)]

/-- Two posts of one account. -/
def shots (first second : Timestamp) : Cloud where
  firestore := (Finmap.insert (.post "a") (shot first) ∅).insert (.post "b") (shot second)

private theorem lookup_shots {first second : Timestamp} {id : PostId} {data : Dictionary}
    (stored : (shots first second).firestore.lookup (.post id) = some data) :
    id = "a" ∧ data = shot first ∨ id = "b" ∧ data = shot second := by
  rw [shots, Firestore.lookup_set, Firestore.lookup_set] at stored
  split_ifs at stored with newer older
  · exact .inr ⟨DocumentReference.post.inj newer, (Option.some.inj stored).symm⟩
  · exact .inl ⟨DocumentReference.post.inj older, (Option.some.inj stored).symm⟩
  · cases stored

@[simp] theorem timestamp_shot (time : Timestamp) :
    shot time "timestamp" = some (.timestamp time) := rfl

private theorem timed_shots {first second : Timestamp} (apart : first ≠ second) :
    Timed (shots first second).firestore where
  fields id data stored := by
    obtain ⟨rfl, rfl⟩ | ⟨rfl, rfl⟩ := lookup_shots stored
    · exact ⟨"u", first, rfl, rfl⟩
    · exact ⟨"u", second, rfl, rfl⟩
  distinct one other data data' time stored stored' fixed fixed' := by
    obtain ⟨rfl, rfl⟩ | ⟨rfl, rfl⟩ := lookup_shots stored <;>
      obtain ⟨rfl, rfl⟩ | ⟨rfl, rfl⟩ := lookup_shots stored' <;> simp_all

/-- Posts a second apart are listed alike. -/
theorem listings_agree_shots : Timed (shots ⟨1, 5000⟩ ⟨2, 0⟩).firestore ∧
    ∀ all mine, Delivers (shots ⟨1, 5000⟩ ⟨2, 0⟩) PostService.fetchPosts all →
      Delivers (shots ⟨1, 5000⟩ ⟨2, 0⟩) (PostService.fetchPostsForUser "u") mine →
        mine = all.filter fun post => post.ownerUid = "u" := by
  have timed : Timed (shots ⟨1, 5000⟩ ⟨2, 0⟩).firestore := timed_shots (by decide)
  refine ⟨timed, (listings_agree_iff timed).mpr ?_⟩
  intro one other data data' time time' stored stored' _ _ fixed fixed' same
  obtain ⟨rfl, rfl⟩ | ⟨rfl, rfl⟩ := lookup_shots stored <;>
    obtain ⟨rfl, rfl⟩ | ⟨rfl, rfl⟩ := lookup_shots stored' <;>
    rw [timestamp_shot, Option.some.injEq, Value.timestamp.injEq] at fixed fixed' <;>
    subst fixed fixed' <;>
    exact absurd same (by decide)

/-- Two posts of one second: the device may list the older one first. -/
theorem listings_disagree : Timed (shots ⟨1, 5000⟩ ⟨1, 7000⟩).firestore ∧
    ¬ ∀ all mine, Delivers (shots ⟨1, 5000⟩ ⟨1, 7000⟩) PostService.fetchPosts all →
      Delivers (shots ⟨1, 5000⟩ ⟨1, 7000⟩) (PostService.fetchPostsForUser "u") mine →
        mine = all.filter fun post => post.ownerUid = "u" := by
  have timed : Timed (shots ⟨1, 5000⟩ ⟨1, 7000⟩).firestore := timed_shots (by decide)
  have older : Stored (shots ⟨1, 5000⟩ ⟨1, 7000⟩).firestore
      (Post.ofDictionary ⟨1, 5000⟩ "a" (shot ⟨1, 5000⟩)) :=
    ⟨shot ⟨1, 5000⟩, ⟨1, 5000⟩, rfl, rfl, rfl⟩
  have newer : Stored (shots ⟨1, 5000⟩ ⟨1, 7000⟩).firestore
      (Post.ofDictionary ⟨1, 7000⟩ "b" (shot ⟨1, 7000⟩)) :=
    ⟨shot ⟨1, 7000⟩, ⟨1, 7000⟩, rfl, rfl, rfl⟩
  refine ⟨timed, fun agree => ?_⟩
  have same := eq_of_agree timed agree older newer rfl rfl rfl rfl
  exact absurd (congrArg Post.postId same) (by decide)

end Agreement

end PostListings

end InstagramClone
