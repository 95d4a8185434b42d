import InstagramClone.Soundness.FeedWork
import Mathlib.Data.List.Sort

/-! # The order of the posts in a feed

The posts of a load stand in the order of their arrival, and whichever load delivers last is shown.
While no earlier load interferes with the last one, whose posts arrive newest first, and a refresh
has something to deliver, the feed depends on the store alone: it shows the existing posts newest
first.
-/

namespace InstagramClone

open Async

namespace FeedOrder

open FeedWork

section Order

/-- Strictly later, at full precision. -/
def Newer (first second : Post) : Prop := first.timestamp.notAfter second.timestamp = false

instance : DecidableRel Newer := fun _ _ => inferInstanceAs (Decidable (_ = _))

private theorem not_newer_self (post : Post) : ¬ Newer post post := by
  simp [Newer, Timestamp.notAfter]

private theorem not_newer_of_newer {first second : Post} (newer : Newer first second) :
    ¬ Newer second first := by
  simp only [Newer, Timestamp.notAfter, Bool.or_eq_false_iff, decide_eq_false_iff_not,
    Bool.and_eq_false_iff, beq_eq_false_iff_ne] at newer ⊢
  omega

instance : Std.Irrefl Newer := ⟨not_newer_self⟩

instance : Std.Antisymm Newer := ⟨fun _ _ newer older => absurd older (not_newer_of_newer newer)⟩

/-- An existing post of the feed, as it is stored and with its flag. -/
def Entry (currentUid : Uid) (now : Timestamp) (store : Cloud) (post : Post) : Prop :=
  .userFeed currentUid post.postId ∈ store.firestore ∧
    ∃ data, store.firestore.lookup (.post post.postId) = some data ∧
      post = { Post.ofDictionary now post.postId data with
        didLike := store.has (.userLike currentUid post.postId) }

/-- The existing posts of the feed, newest first. -/
structure NewestFirst (currentUid : Uid) (now : Timestamp) (store : Cloud) (posts : List Post) :
    Prop where
  sorted : posts.Pairwise Newer
  complete : ∀ post, post ∈ posts ↔ Entry currentUid now store post

variable {currentUid : Uid} {now : Timestamp} {store : Cloud}

/-- What the store holds decides the list. -/
private theorem NewestFirst.unique {first second : List Post}
    (one : NewestFirst currentUid now store first) (other : NewestFirst currentUid now store second) :
    first = second :=
  one.sorted.eq_of_mem_iff other.sorted fun post => (one.complete post).trans (other.complete post).symm

end Order

section Step

/-- The feed is loaded, or the store changes by other hands. -/
inductive Input where
  | refresh (action : LoadAction)
  | change (store : Cloud)

inductive FeedEvent where
  | input (input : Input)
  | signal (signal : Signal cloud)

def FeedEvent.input? : FeedEvent → Option Input
  | input taken => some taken
  | signal _ => none

/-- What happens to a run besides the order of its signals. -/
def inputs (events : List FeedEvent) : List Input := events.filterMap FeedEvent.input?

/-- A network with the number of loads. -/
structure Loads where
  net : Network cloud App ℕ Unit
  calls : ℕ := 0

/-- One step: a load, a change of the store, or a signal without a failure, in any order. -/
def feedStep? (page : Ref) (loads : Loads) : FeedEvent → Option Loads
  | .input (.refresh action) =>
    some ⟨loads.net.launch host loads.calls (action.perform page), loads.calls + 1⟩
  | .input (.change store) => some { loads with net := { loads.net with store := store } }
  | .signal signal =>
    if succeeds signal then
      (loads.net.signal? host signal).map fun next => { loads with net := next }
    else none

/-- A load will deliver a list: the feed is empty, or one of its posts exists. -/
def Delivers (currentUid : Uid) (store : Cloud) : Prop :=
  (∀ reference ∈ store.firestore.keys, reference.parent ≠ .userFeeds currentUid) ∨
    ∃ reference ∈ store.firestore.keys, reference.parent = .userFeeds currentUid ∧
      .post reference.documentID ∈ store.firestore

instance (currentUid : Uid) (store : Cloud) : Decidable (Delivers currentUid store) :=
  inferInstanceAs (Decidable (_ ∨ _))

def clock (net : Network cloud App ℕ Unit) : Timestamp := (net.clients ()).elim ⟨0, 0⟩ App.now

/-- The existing post that the request in flight fetches. -/
def fetched? (now : Timestamp) (store : Cloud) (pending : Pending firebase App ℕ) : Option Post :=
  match pending.call.request with
  | .getDocument (.post id) => (store.firestore.lookup (.post id)).map (Post.ofDictionary now id)
  | _ => none

/-- The answer hands over a list, or does not say what the store says about a like. -/
def interferes (store : Cloud) : Pending firebase App ℕ → Bool
  | ⟨_, ⟨.getDocuments _, _⟩, some (.error _)⟩ => true
  | ⟨_, ⟨.getDocuments _, _⟩, some (.ok documents)⟩ => documents.isEmpty
  | ⟨_, ⟨.getDocument (.post _), _⟩, some (.ok snapshot)⟩ => snapshot.isSome
  | ⟨_, ⟨.getDocument (.userLike uid postId), _⟩, some (.ok snapshot)⟩ =>
    snapshot.isSome != store.has (.userLike uid postId)
  | ⟨_, ⟨.getDocument (.userLike ..), _⟩, some (.error _)⟩ => true
  | _ => false

/-- The request asks for the entries of a feed. -/
def queries (pending : Pending firebase App ℕ) : Bool :=
  match pending.call.request with
  | .getDocuments _ => true
  | _ => false

/-- Once the query of the last load was answered, earlier loads do not interfere. -/
def Undisturbed (loads : Loads) (index : ℕ) : Prop :=
  ∀ mine ∈ loads.net.flight[index]?.toList, mine.origin + 1 < loads.calls →
    interferes loads.net.store mine = true →
      ∃ other ∈ loads.net.flight, other.origin + 1 = loads.calls ∧ queries other = true

/-- A post that arrives for the last load is newer than those still being fetched for it. -/
def Newest (loads : Loads) (index : ℕ) : Prop :=
  ∀ mine ∈ loads.net.flight[index]?.toList, mine.origin + 1 = loads.calls →
    ∀ post ∈ fetched? (clock loads.net) loads.net.store mine,
      ∀ other ∈ loads.net.flight.eraseIdx index, other.origin = mine.origin →
        ∀ older ∈ fetched? (clock loads.net) loads.net.store other, Newer post older

instance (loads : Loads) (index : ℕ) : Decidable (Undisturbed loads index) :=
  inferInstanceAs (Decidable (∀ mine ∈ loads.net.flight[index]?.toList, _ → _ →
    ∃ other ∈ loads.net.flight, _ ∧ _))

instance (loads : Loads) (index : ℕ) : Decidable (Newest loads index) :=
  inferInstanceAs (Decidable (∀ mine ∈ loads.net.flight[index]?.toList, _ → ∀ post ∈ _,
    ∀ other ∈ loads.net.flight.eraseIdx index, _ → ∀ older ∈ _, Newer post older))

/-- A load delivers a list or starts on an empty feed with nothing in flight, earlier loads do not
interfere with the last one, and its posts arrive newest first. -/
def Clean (currentUid : Uid) (page : Ref) (loads : Loads) : FeedEvent → Prop
  | .input (.refresh _) => Delivers currentUid loads.net.store ∨
      loads.net.flight.isEmpty = true ∧ shown page loads.net = []
  | .input (.change _) => True
  | .signal (.deliver index) => Undisturbed loads index ∧ Newest loads index
  | .signal _ => True

instance (currentUid : Uid) (page : Ref) (loads : Loads) (event : FeedEvent) :
    Decidable (Clean currentUid page loads event) :=
  match event with
  | .input (.refresh _) => inferInstanceAs (Decidable (_ ∨ _ ∧ _))
  | .input (.change _) => inferInstanceAs (Decidable True)
  | .signal (.deliver _) => inferInstanceAs (Decidable (_ ∧ _))
  | .signal (.serve ..) => inferInstanceAs (Decidable True)
  | .signal (.notify ..) => inferInstanceAs (Decidable True)

end Step

section Last

variable {currentUid : Uid} {page list : Ref} {now : Timestamp} {store : Cloud} {app later : App}
  {work before after : List (Posted (Job.call currentUid page))} {load : ℕ} {posts : List Post}
  {feed : FeedController}

/-- All requests in flight are of the load. -/
def Alone (load : ℕ) (work : List (Posted (Job.call currentUid page))) : Prop :=
  ∀ posted ∈ work, posted.job.load = load

/-- How the last load stands: its posts are newest first and newer than those it still fetches, and
once its query was answered the feed shows its list, or a post will arrive. -/
structure Last (currentUid : Uid) (page : Ref) (now : Timestamp) (store : Cloud) (app : App)
    (work : List (Posted (Job.call currentUid page))) (load : ℕ) (list : Ref) (posts : List Post)
    (feed : FeedController) : Prop where
  captured : app.find? (List Post) list = some posts
  found : app.find? FeedController page = some feed
  progress : Progress now store work load posts
  sorted : posts.Pairwise Newer
  ahead : ∀ post ∈ posts, ∀ id ∈ fetching load work,
    ∀ data, store.firestore.lookup (.post id) = some data →
      Newer post (Post.ofDictionary now id data)
  stage : asking load work = 1 ∧ (Delivers currentUid store ∨ Alone load work ∧ feed.posts = []) ∨
    asking load work = 0 ∧
      (feed.posts.map mark.clear = posts ∧
          mark.Awaits (truth currentUid store) (Checked work) feed.posts ∨
        posts = [] ∧ ∃ id ∈ fetching load work, .post id ∈ store.firestore)

private theorem Last.serve {job : Job} {answer}
    (last : Last currentUid page now store app (before ++ ⟨job, none⟩ :: after) load list posts feed)
    (answered : Right store (⟨job, some answer⟩ : Posted (Job.call currentUid page))) :
    Last currentUid page now store app (before ++ ⟨job, some answer⟩ :: after) load list posts
      feed := by
  have jobs : (before ++ (⟨job, some answer⟩ : Posted (Job.call currentUid page)) :: after).map
      Posted.job = (before ++ ⟨job, none⟩ :: after).map Posted.job := by simp
  have alone (alone : Alone load (before ++ (⟨job, none⟩ : Posted (Job.call currentUid page)) ::
      after)) : Alone load (before ++ (⟨job, some answer⟩ : Posted (Job.call currentUid page)) ::
        after) :=
    forall_served alone (alone ⟨job, none⟩ (by simp))
  refine ⟨last.captured, last.found, last.progress.serve answered, last.sorted, ?_, ?_⟩
  · rw [fetching, jobs]
    exact last.ahead
  · rw [asking, fetching, jobs]
    refine last.stage.imp ?_ ?_
    · rintro ⟨asks, rest⟩
      exact ⟨asks, rest.imp_right (And.imp_left alone)⟩
    · rintro ⟨asks, rest⟩
      refine ⟨asks, rest.imp_left (And.imp_right fun awaits => ?_)⟩
      exact awaits.mono fun _ => Underway.serve

/-- A load begins, and the feed shows what it showed before. -/
private theorem Last.fetch (found : app.find? FeedController page = some feed)
    (early : ∀ posted ∈ work, posted.job.load ≠ load)
    (clean : Delivers currentUid store ∨ work = [] ∧ feed.posts = []) :
    Last currentUid page now store (app.add (Instance.inject ([] : List Post)) false)
      (work ++ issue (Job.call currentUid page) [.feeds load app.objects.length]) load
      app.objects.length [] feed := by
  have progress : Progress now store (work ++ issue (Job.call currentUid page)
      [.feeds load app.objects.length]) load [] := Progress.start _ early
  have asks : asking load (work ++ issue (Job.call currentUid page)
      [.feeds load app.objects.length]) = 1 := by
    obtain ⟨asks, -⟩ | ⟨none, -⟩ := progress.stage
    · exact asks
    · simp [asking, Job.asks] at none
  refine ⟨App.find?_add_new app ([] : List Post) false, App.find?_add found _ _, progress, .nil,
    by simp, .inl ⟨asks, clean.imp_right ?_⟩⟩
  rintro ⟨rfl, empty⟩
  refine ⟨fun posted member => ?_, empty⟩
  obtain rfl := List.mem_singleton.mp member
  rfl

/-- What an earlier load does leaves the last one where it is, if that is still at its query or
what it does is to set a flag that is right. -/
private theorem Last.skip {posted : Posted (Job.call currentUid page)} {jobs : List Job}
    (last : Last currentUid page now store app (before ++ posted :: after) load list posts feed)
    (apart : posted.job.load ≠ load) (mine : ∀ job ∈ jobs, job.load = posted.job.load)
    (shows : Shows page posted.job app later) (other : list ∉ posted.job.list?)
    (quiet : asking load (before ++ posted :: after) = 0 → (∀ load id, posted.job ≠ .like load id) ∧
        later = app ∨
      ∃ origin id snapshot, posted = ⟨.like origin id, some (.ok snapshot)⟩ ∧
        snapshot.isSome = store.has (.userLike currentUid id) ∧
        later = display page (mark.assign id snapshot.isSome feed.posts) app) :
    ∃ feed, Last currentUid page now store later
      (before ++ after ++ issue (Job.call currentUid page) jobs) load list posts feed := by
  have ended := Job.apart apart
  have issued (job) (member : job ∈ jobs) : job.asks load = false ∧ job.fetches? load = none :=
    Job.apart (by rw [mine job member]; exact apart)
  have captured : later.find? (List Post) list = some posts := by
    rw [shows.list_other other, last.captured]
  have progress := last.progress.skip ended issued
  have ahead := last.ahead
  rw [← fetching_rest ended issued] at ahead
  obtain ⟨asks, delivers | ⟨alone, -⟩⟩ | ⟨asks, showing⟩ := last.stage
  · obtain ⟨showing, found⟩ := shows.find?_feed last.found
    refine ⟨_, captured, found, progress, last.sorted, ahead, .inl ⟨?_, .inl delivers⟩⟩
    rw [asking_rest ended issued, asks]
  · exact absurd (alone posted (by simp)) apart
  have later_asks := (asking_rest ended issued).trans asks
  obtain ⟨unchecked, rfl⟩ | ⟨origin, id, snapshot, rfl, right, rfl⟩ := quiet asks
  · refine ⟨feed, captured, last.found, progress, last.sorted, ahead, .inr ⟨later_asks, ?_⟩⟩
    rw [fetching_rest ended issued]
    refine showing.imp_left fun ⟨shown, awaits⟩ => ⟨shown, awaits.mono fun id checked => ?_⟩
    exact (checked.rest fun ⟨load, same⟩ => unchecked load id same).append _
  · refine ⟨_, captured, find?_display last.found _, progress, last.sorted, ahead,
      .inr ⟨later_asks, ?_⟩⟩
    rw [fetching_rest ended issued]
    refine showing.imp_left fun ⟨shown, awaits⟩ => ⟨Flag.map_clear_assign.trans shown, ?_⟩
    have nodup := last.progress.nodup
    rw [← shown, List.map_map] at nodup
    exact (awaits_assign awaits nodup right).mono fun id checked => checked.append _

/-- A list of the last load is handed over. -/
private theorem last_hand {shorter : List Post} (found : app.find? FeedController page = some feed)
    (captured : app.find? (List Post) list = some shorter)
    (progress : Progress now store (work ++ issue (Job.call currentUid page) (checks load posts)) load
      posts)
    (asks : asking load (work ++ issue (Job.call currentUid page) (checks load posts)) = 0)
    (sorted : posts.Pairwise Newer)
    (ahead : ∀ post ∈ posts, ∀ id ∈ fetching load work,
      ∀ data, store.firestore.lookup (.post id) = some data →
        Newer post (Post.ofDictionary now id data)) :
    Last currentUid page now store (hand page list posts app)
      (work ++ issue (Job.call currentUid page) (checks load posts)) load list posts
      { feed with posts } := by
  have fetches : fetching load (work ++ issue (Job.call currentUid page) (checks load posts)) =
      fetching load work := by
    have none : (checks load posts).filterMap (Job.fetches? load) = [] :=
      List.filterMap_eq_nil_iff.mpr fun job member => (Job.apart_of_checks member load).2
    simp [fetching, none]
  refine ⟨find?_hand_list captured posts, find?_hand_page found posts, progress, sorted,
    by rw [fetches]; exact ahead, .inr ⟨asks, .inl ⟨progress.cleared, progress.awaits work⟩⟩⟩

/-- A load that delivers and whose feed is not empty has an existing post to fetch. -/
private theorem exists_fetching (progress : Progress now store work load [])
    (asks : asking load work = 0) (delivers : Delivers currentUid store) {id : PostId}
    (entry : .userFeed currentUid id ∈ store.firestore) :
    ∃ id ∈ fetching load work, .post id ∈ store.firestore := by
  obtain empty | ⟨reference, member, parent, present⟩ := delivers
  · exact absurd rfl (empty (.userFeed currentUid id) (Finmap.mem_keys.mpr entry))
  have path : reference = .userFeed currentUid reference.documentID := by
    rw [← reference.parent_document, parent]
    rfl
  obtain ⟨asked, -⟩ | ⟨-, -, -, all⟩ := progress.stage
  · omega
  · have listed := all reference.documentID (path ▸ Finmap.mem_keys.mp member) present
    exact ⟨reference.documentID, by simpa using listed, present⟩

/-- The callback of a job of the load runs, issues jobs of its load and list, and leaves the load on
its way. -/
def Last.Goes (currentUid : Uid) (page : Ref) (now : Timestamp) (store : Cloud) (app : App)
    (rest : List (Posted (Job.call currentUid page))) (load : ℕ) (list : Ref) (job : Job)
    (answer : (job.call currentUid page).request.Response) : Prop :=
  ∃ (later : App) (jobs : List Job) (posts : List Post) (feed : FeedController),
    ((job.call currentUid page).callback answer).run app =
      ⟨some later, jobs.map (Job.call currentUid page), []⟩ ∧
    (∀ other ∈ jobs, other.load = job.load ∧ ∀ list ∈ other.list?, list ∈ job.list?) ∧
    Shows page job app later ∧ Last currentUid page now store later
      (rest ++ issue (Job.call currentUid page) jobs) load list posts feed

/-- The entries arrive. -/
private theorem Last.feeds {order : List DocumentReference} {documents : List Document}
    (last : Last currentUid page now store app
      (before ++ ⟨.feeds load list, some (.ok documents)⟩ :: after) load list posts feed)
    (signedIn : app.currentUser = some currentUid) (all : feed.post = none)
    (answered : ({ collection := .userFeeds currentUid } : Query).answer? store.firestore order =
      some documents) : Last.Goes currentUid page now store app (before ++ after) load list
        (.feeds load list) (.ok documents) := by
  obtain ⟨rfl, asks, progress⟩ := last.progress.feeds answered
  cases documents with
  | nil =>
    exact ⟨_, _, _, _, feeds_run_nil signedIn last.found all last.captured,
      by rintro _ ⟨⟩, .hand rfl [], last_hand last.found last.captured progress asks .nil (by simp)⟩
  | cons document documents =>
    refine ⟨_, _, [], feed, feeds_run_cons document documents, fun other member => ?_, .rest,
      last.captured, last.found, progress, .nil, by simp, .inr ⟨asks, ?_⟩⟩
    · obtain ⟨document, -, rfl⟩ := List.mem_map.mp member
      exact ⟨rfl, fun _ => id⟩
    obtain ⟨-, delivers | ⟨-, empty⟩⟩ | ⟨none, -⟩ := last.stage
    · have entry := (Query.mem_answer?_ids answered document.documentID).mp (by simp)
      exact .inr ⟨rfl, exists_fetching progress asks delivers entry.1⟩
    · exact .inl ⟨by simp [empty], by simp [empty, Flag.Awaits]⟩
    · simp [asking, Job.asks] at none

private theorem mem_fetching_rest {posted : Posted (Job.call currentUid page)} {id : PostId}
    (fetched : id ∈ fetching load (before ++ after)) :
    id ∈ fetching load (before ++ posted :: after) :=
  ((((List.sublist_cons_self posted after).append_left before).map _).filterMap _).subset fetched

/-- A post turns out not to exist. -/
private theorem Last.gone {postId : PostId}
    (last : Last currentUid page now store app
      (before ++ ⟨.post load list postId, some (.ok none)⟩ :: after) load list posts feed)
    (absent : store.firestore.lookup (.post postId) = none) :
    Last.Goes currentUid page now store app (before ++ after) load list (.post load list postId)
      (.ok none) := by
  have split : fetching load (before ++
      (⟨.post load list postId, some (.ok none)⟩ : Posted (Job.call currentUid page)) :: after) =
        fetching load before ++ postId :: fetching load after := by
    simp [fetching, Job.fetches?]
  refine ⟨app, [], posts, feed, rfl, by simp, .rest, ?_⟩
  rw [issue_nil, List.append_nil]
  refine ⟨last.captured, last.found, last.progress.gone, last.sorted,
    fun post member id fetched => last.ahead post member id (mem_fetching_rest fetched), ?_⟩
  have none : asking load (before ++
      (⟨.post load list postId, some (.ok none)⟩ : Posted (Job.call currentUid page)) :: after) =
        0 := by
    obtain ⟨-, idle, -⟩ | ⟨none, -⟩ := last.progress.stage
    · simp [split] at idle
    · exact none
  have asks : asking load (before ++ after) = 0 := by simpa [asking, Job.asks] using none
  obtain ⟨asked, -⟩ | ⟨-, ⟨shown, awaits⟩ | ⟨empty, id, fetched, present⟩⟩ := last.stage
  · omega
  · refine .inr ⟨asks, .inl ⟨shown, awaits.mono fun id checked => checked.rest (by simp)⟩⟩
  · refine .inr ⟨asks, .inr ⟨empty, id, ?_, present⟩⟩
    have apart : id ≠ postId := by
      rintro rfl
      exact absurd present (Finmap.lookup_eq_none.mp absent)
    rw [split] at fetched
    simpa [fetching, apart] using fetched

/-- A post arrives. It is newer than those that the load still fetches. -/
private theorem Last.post {postId : PostId} {data : Dictionary}
    (last : Last currentUid page now store app
      (before ++ ⟨.post load list postId, some (.ok (some data))⟩ :: after) load list posts feed)
    (signedIn : app.currentUser = some currentUid) (clock : app.now = now) (all : feed.post = none)
    (stored : store.firestore.lookup (.post postId) = some data)
    (newest : ∀ other ∈ fetching load (before ++ after),
      ∀ older, store.firestore.lookup (.post other) = some older →
        Newer (Post.ofDictionary now postId data) (Post.ofDictionary now other older)) :
    Last.Goes currentUid page now store app (before ++ after) load list (.post load list postId)
      (.ok (some data)) := by
  have issued (job) (member : job ∈ checks load (posts ++ [Post.ofDictionary now postId data])) :=
    Job.apart_of_checks member load
  have progress := last.progress.post issued
  have asks := (progress.stage.resolve_left (by simp)).1
  have fetches : postId ∈ fetching load (before ++
      (⟨.post load list postId, some (.ok (some data))⟩ : Posted (Job.call currentUid page)) ::
        after) := by
    simp [fetching, Job.fetches?]
  obtain rfl := clock
  refine ⟨_, _, _, _, post_run signedIn last.found all last.captured postId data,
    fun other member => ?_, .hand rfl _, last_hand last.found last.captured progress asks ?_ ?_⟩
  · obtain ⟨post, -, rfl⟩ := List.mem_map.mp member
    exact ⟨rfl, by rintro _ ⟨⟩⟩
  · refine List.pairwise_append.mpr ⟨last.sorted, List.pairwise_singleton .., ?_⟩
    intro post member arrived only
    obtain rfl := List.mem_singleton.mp only
    exact last.ahead post member postId fetches data stored
  · intro post member id fetched older present
    rcases List.mem_append.mp member with member | member
    · exact last.ahead post member id (mem_fetching_rest fetched) older present
    · obtain rfl := List.mem_singleton.mp member
      exact newest id fetched older present

/-- The answer to a check arrives. -/
private theorem Last.like {postId : PostId}
    (last : Last currentUid page now store app (before ++ ⟨.like load postId,
      some (.ok (store.firestore.lookup (.userLike currentUid postId)))⟩ :: after) load list posts
      feed) : Last.Goes currentUid page now store app (before ++ after) load list (.like load postId)
        (.ok (store.firestore.lookup (.userLike currentUid postId))) := by
  have issued : ∀ job ∈ ([] : List Job), job.asks load = false ∧ job.fetches? load = none := by simp
  have asks : asking load (before ++ after ++ issue (Job.call currentUid page) []) = asking load
      (before ++ (⟨.like load postId, some (.ok (store.firestore.lookup
        (.userLike currentUid postId)))⟩ : Posted (Job.call currentUid page)) :: after) :=
    asking_rest ⟨rfl, rfl⟩ issued
  have fetches : fetching load (before ++ after ++ issue (Job.call currentUid page) []) =
      fetching load (before ++ (⟨.like load postId, some (.ok (store.firestore.lookup
        (.userLike currentUid postId)))⟩ : Posted (Job.call currentUid page)) :: after) :=
    fetching_rest ⟨rfl, rfl⟩ issued
  refine ⟨_, [], posts, _, like_run last.found load postId _, by simp, .display _, ?_,
    find?_display last.found _, last.progress.skip ⟨rfl, rfl⟩ issued, last.sorted, ?_, ?_⟩
  · exact (App.find?_modify_other (fun _ => rfl) ..).trans last.captured
  · rw [fetches]
    exact last.ahead
  rw [asks, fetches, issue_nil, List.append_nil]
  obtain ⟨asked, clean⟩ | ⟨none, ⟨shown, awaits⟩ | waits⟩ := last.stage
  · refine .inl ⟨asked, clean.imp_right fun cleared => ⟨fun posted member => ?_, ?_⟩⟩
    · exact cleared.1 posted (mem_rest member)
    · rw [cleared.2]
      rfl
  · refine .inr ⟨none, .inl ⟨Flag.map_clear_assign.trans shown, ?_⟩⟩
    refine awaits_assign awaits ?_ (isSome_lookup ..)
    have nodup := last.progress.nodup
    rw [← shown, List.map_map] at nodup
    exact nodup
  · exact .inr ⟨none, .inr waits⟩

/-- A job of the last load ends. -/
private theorem Last.deliver {job : Job} {answer}
    (last : Last currentUid page now store app (before ++ ⟨job, some answer⟩ :: after) load list posts
      feed)
    (signedIn : app.currentUser = some currentUid) (clock : app.now = now) (all : feed.post = none)
    (mine : job.load = load) (place : ∀ ref ∈ job.list?, ref = list)
    (newest : ∀ id ∈ job.fetches? load, ∀ data, store.firestore.lookup (.post id) = some data →
      ∀ other ∈ fetching load (before ++ after),
        ∀ older, store.firestore.lookup (.post other) = some older →
          Newer (Post.ofDictionary now id data) (Post.ofDictionary now other older)) :
    Last.Goes currentUid page now store app (before ++ after) load list job answer := by
  have right : Right store (⟨job, some answer⟩ : Posted (Job.call currentUid page)) :=
    last.progress.right _ (by simp) mine
  cases job with
  | feeds origin ref =>
    obtain rfl := place ref rfl
    obtain rfl : origin = load := mine
    obtain ⟨order, documents, answered, rfl⟩ := right answer rfl
    exact last.feeds signedIn all answered
  | post origin ref postId =>
    obtain rfl := place ref rfl
    obtain rfl : origin = load := mine
    cases stored : store.firestore.lookup (.post postId) with
    | none =>
      obtain rfl : answer = .ok none := (right answer rfl).trans (by rw [stored])
      exact last.gone stored
    | some data =>
      obtain rfl : answer = .ok (some data) := (right answer rfl).trans (by rw [stored])
      exact last.post signedIn clock all stored (newest postId (by simp [Job.fetches?]) data stored)
  | like origin postId =>
    obtain rfl : origin = load := mine
    obtain rfl := right answer rfl
    exact last.like

/-- With nothing in flight the feed shows the existing posts of the last load, newest first. -/
private theorem Last.newestFirst (last : Last currentUid page now store app [] load list posts feed) :
    NewestFirst currentUid now store feed.posts := by
  obtain ⟨asks, -⟩ | ⟨-, ⟨shown, awaits⟩ | ⟨-, id, fetched, -⟩⟩ := last.stage
  · cases asks
  · have sorted := last.sorted
    rw [← shown, List.pairwise_map] at sorted
    have flags (post) (member : post ∈ feed.posts) :
        post.didLike = store.has (.userLike currentUid post.postId) :=
      awaits.settled (by simp [Checked]) member
    have entry (post) (member : post ∈ feed.posts) : Entry currentUid now store post := by
      obtain ⟨entry, data, stored, decoded⟩ := last.progress.listed (mark.clear post)
        (shown ▸ List.mem_map_of_mem member)
      refine ⟨entry, data, stored, ?_⟩
      have restored : { mark.clear post with didLike := post.didLike } = post := rfl
      rw [← restored, flags post member, decoded]
      rfl
    refine ⟨sorted, fun post => ⟨entry post, ?_⟩⟩
    rintro ⟨listed, data, stored, decoded⟩
    have present := (last.progress.complete rfl post.postId).mpr
      ⟨listed, Finmap.mem_of_lookup_eq_some stored⟩
    rw [← shown, List.map_map] at present
    obtain ⟨other, member, same⟩ := List.mem_map.mp present
    obtain ⟨-, otherData, otherStored, otherDecoded⟩ := entry other member
    have same : other.postId = post.postId := same
    rw [same] at otherStored otherDecoded
    obtain rfl := Option.some.inj (stored.symm.trans otherStored)
    rwa [decoded, ← otherDecoded]
  · cases fetched

end Last

section Sequence

variable {currentUid : Uid} {page : Ref} {now : Timestamp} {store : Cloud} {app : App}
  {work before after : List (Posted (Job.call currentUid page))} {lists : List Ref} {fresh : Prop}

/-- The loads so far, of which the last one stands as it should while the store is as it was when
it began. -/
structure Sequence (currentUid : Uid) (page : Ref) (now : Timestamp) (fresh : Prop) (store : Cloud)
    (app : App) (work : List (Posted (Job.call currentUid page))) (lists : List Ref) : Prop where
  signedIn : app.currentUser = some currentUid
  clock : app.now = now
  captures : Lists app work lists
  feed : ∃ feed, app.find? FeedController page = some feed ∧ feed.post = none
  last : fresh → ∃ (load : ℕ) (list : Ref) (posts : List Post) (feed : FeedController),
    lists.length = load + 1 ∧ lists[load]? = some list ∧
      Last currentUid page now store app work load list posts feed

private theorem Sequence.serve {job : Job} {choice : Choice} {later : Cloud} {answer}
    (sequence : Sequence currentUid page now fresh store app (before ++ ⟨job, none⟩ :: after) lists)
    (succeeds : choice.succeeds = true)
    (served : cloud.serve choice store (job.call currentUid page).request = some (later, answer)) :
    later = store ∧
    Sequence currentUid page now fresh store app (before ++ ⟨job, some answer⟩ :: after) lists := by
  obtain ⟨rfl, answered⟩ := right_serve succeeds served
  refine ⟨rfl, sequence.signedIn, sequence.clock, sequence.captures.serve, sequence.feed,
    fun begun => ?_⟩
  obtain ⟨load, list, posts, feed, count, placed, last⟩ := sequence.last begun
  exact ⟨load, list, posts, feed, count, placed, last.serve answered⟩

/-- A job ends as its callback says, while the last load stands as it should. -/
private theorem Sequence.of_shows {posted : Posted (Job.call currentUid page)} {jobs : List Job}
    {later : App}
    (sequence : Sequence currentUid page now fresh store app (before ++ posted :: after) lists)
    (shows : Shows page posted.job app later)
    (mine : ∀ job ∈ jobs, job.load = posted.job.load ∧ ∀ list ∈ job.list?, list ∈ posted.job.list?)
    (last : fresh → ∃ (load : ℕ) (list : Ref) (posts : List Post) (feed : FeedController),
      lists.length = load + 1 ∧ lists[load]? = some list ∧ Last currentUid page now store later
        (before ++ after ++ issue (Job.call currentUid page) jobs) load list posts feed) :
    Sequence currentUid page now fresh store later
      (before ++ after ++ issue (Job.call currentUid page) jobs) lists := by
  obtain ⟨feed, found, all⟩ := sequence.feed
  obtain ⟨posts, showing⟩ := shows.find?_feed found
  refine ⟨shows.currentUser.trans sequence.signedIn, shows.now.trans sequence.clock,
    sequence.captures.rest mine fun list member => ?_, ⟨_, showing, all⟩, last⟩
  exact shows.captured (sequence.captures.captured list member)

/-- An answer that does not interfere changes nothing on the device but a flag, which it sets right. -/
private theorem quiet_run {job : Job} {answer} {feed : FeedController}
    (found : app.find? FeedController page = some feed)
    (quiet : interferes store ((⟨job, some answer⟩ : Posted (Job.call currentUid page)).pending
      Job.load) = false) :
    ∃ (later : App) (jobs : List Job), ((job.call currentUid page).callback answer).run app =
        ⟨some later, jobs.map (Job.call currentUid page), []⟩ ∧
      (∀ other ∈ jobs, other.load = job.load ∧ ∀ list ∈ other.list?, list ∈ job.list?) ∧
      Shows page job app later ∧ ((∀ load id, job ≠ .like load id) ∧ later = app ∨
        ∃ origin id snapshot, (⟨job, some answer⟩ : Posted (Job.call currentUid page)) =
            ⟨.like origin id, some (.ok snapshot)⟩ ∧
          snapshot.isSome = store.has (.userLike currentUid id) ∧
          later = display page (mark.assign id snapshot.isSome feed.posts) app) := by
  cases job with
  | feeds load list =>
    match answer with
    | .error _ => cases quiet
    | .ok [] => cases quiet
    | .ok (document :: documents) =>
      refine ⟨app, _, feeds_run_cons document documents, fun other member => ?_, .rest,
        .inl ⟨nofun, rfl⟩⟩
      obtain ⟨document, -, rfl⟩ := List.mem_map.mp member
      exact ⟨rfl, fun _ => id⟩
  | post load list postId =>
    match answer with
    | .error _ => exact ⟨app, [], rfl, nofun, .rest, .inl ⟨nofun, rfl⟩⟩
    | .ok none => exact ⟨app, [], rfl, nofun, .rest, .inl ⟨nofun, rfl⟩⟩
    | .ok (some data) => cases quiet
  | like load postId =>
    match answer with
    | .error _ => cases quiet
    | .ok snapshot =>
      have right : snapshot.isSome = store.has (.userLike currentUid postId) := by
        simpa [interferes, Posted.pending, Job.call] using quiet
      exact ⟨_, [], like_run found load postId snapshot, nofun, .display _,
        .inr ⟨load, postId, snapshot, rfl, right, rfl⟩⟩

private theorem Sequence.deliver {job : Job} {answer}
    (sequence : Sequence currentUid page now fresh store app (before ++ ⟨job, some answer⟩ :: after)
      lists)
    (undisturbed : ∀ load, lists.length = load + 1 → job.load < load →
      interferes store ((⟨job, some answer⟩ : Posted (Job.call currentUid page)).pending Job.load) =
          true →
        asking load (before ++ (⟨job, some answer⟩ : Posted (Job.call currentUid page)) :: after) ≠ 0)
    (newest : ∀ load, lists.length = load + 1 →
      ∀ id ∈ job.fetches? load, ∀ data, store.firestore.lookup (.post id) = some data →
        ∀ other ∈ fetching load (before ++ after),
          ∀ older, store.firestore.lookup (.post other) = some older →
            Newer (Post.ofDictionary now id data) (Post.ofDictionary now other older)) :
    ∃ (later : App) (jobs : List Job), ((job.call currentUid page).callback answer).run app =
        ⟨some later, jobs.map (Job.call currentUid page), []⟩ ∧
      (∀ other ∈ jobs, other.load = job.load) ∧
      Sequence currentUid page now fresh store later
        (before ++ after ++ issue (Job.call currentUid page) jobs) lists := by
  obtain ⟨feed, found, all⟩ := sequence.feed
  obtain ⟨bound, placed⟩ : job.load < lists.length ∧
      ∀ list ∈ job.list?, lists[job.load]? = some list :=
    sequence.captures.placed ⟨job, some answer⟩ (by simp)
  by_cases current : fresh ∧ job.load + 1 = lists.length
  · obtain ⟨begun, current⟩ := current
    obtain ⟨load, list, posts, showing, count, here, last⟩ := sequence.last begun
    obtain rfl := Option.some.inj (found.symm.trans last.found)
    obtain rfl : job.load = load := by omega
    obtain ⟨later, jobs, posts, feed, ran, mine, shows, last⟩ := last.deliver sequence.signedIn
      sequence.clock all rfl (fun ref member => Option.some.inj ((placed ref member).symm.trans here))
      (newest _ count)
    refine ⟨later, jobs, ran, fun other member => (mine other member).1,
      sequence.of_shows shows mine fun _ => ⟨_, list, posts, feed, count, here, last⟩⟩
  · have captured (list) (member : list ∈ job.list?) :
        ∃ posts, app.find? (List Post) list = some posts :=
      sequence.captures.captured list (List.mem_of_getElem? (placed list member))
    have other_load {load : ℕ} {list : Ref} (here : lists[load]? = some list)
        (apart : job.load ≠ load) : list ∉ job.list? :=
      fun member => apart (sequence.captures.unique (placed list member) here)
    by_cases quiet : interferes store
        ((⟨job, some answer⟩ : Posted (Job.call currentUid page)).pending Job.load) = true
    · obtain ⟨later, jobs, ran, mine, shows⟩ :=
        callback_run sequence.signedIn found all captured answer
      refine ⟨later, jobs, ran, fun other member => (mine other member).1,
        sequence.of_shows shows mine fun begun => ?_⟩
      obtain ⟨load, list, posts, feed, count, here, last⟩ := sequence.last begun
      have apart : job.load ≠ load := fun same => current ⟨begun, by omega⟩
      have asks := undisturbed load count (by omega) quiet
      obtain ⟨feed, skipped⟩ := last.skip apart (fun other member => (mine other member).1) shows
        (other_load here apart) fun none => absurd none asks
      exact ⟨load, list, posts, feed, count, here, skipped⟩
    · obtain ⟨later, jobs, ran, mine, shows, rest⟩ := quiet_run found (Bool.not_eq_true _ ▸ quiet)
      refine ⟨later, jobs, ran, fun other member => (mine other member).1,
        sequence.of_shows shows mine fun begun => ?_⟩
      obtain ⟨load, list, posts, showing, count, here, last⟩ := sequence.last begun
      obtain rfl := Option.some.inj (found.symm.trans last.found)
      have apart : job.load ≠ load := fun same => current ⟨begun, by omega⟩
      obtain ⟨feed, skipped⟩ := last.skip apart (fun other member => (mine other member).1) shows
        (other_load here apart) fun _ => rest
      exact ⟨load, list, posts, feed, count, here, skipped⟩

private theorem Sequence.refresh (sequence : Sequence currentUid page now fresh store app work lists)
    {feed : FeedController} (found : app.find? FeedController page = some feed)
    (clean : Delivers currentUid store ∨ work = [] ∧ feed.posts = []) :
    Sequence currentUid page now True store (app.add (Instance.inject ([] : List Post)) false)
      (work ++ issue (Job.call currentUid page) [.feeds lists.length app.objects.length])
      (lists ++ [app.objects.length]) := by
  obtain ⟨_, same, all⟩ := sequence.feed
  obtain rfl := Option.some.inj (same.symm.trans found)
  have early (posted) (member : posted ∈ work) : posted.job.load ≠ lists.length :=
    ne_of_lt (sequence.captures.placed posted member).1
  exact ⟨sequence.signedIn, sequence.clock, sequence.captures.fetch,
    ⟨_, App.find?_add found _ _, all⟩,
    fun _ => ⟨lists.length, app.objects.length, [], _, by simp, by simp, Last.fetch found early clean⟩⟩

private theorem Sequence.change (sequence : Sequence currentUid page now fresh store app work lists)
    (later : Cloud) : Sequence currentUid page now False later app work lists :=
  ⟨sequence.signedIn, sequence.clock, sequence.captures, sequence.feed, False.elim⟩

private theorem Sequence.mono {earlier : Prop}
    (sequence : Sequence currentUid page now fresh store app work lists) (still : earlier → fresh) :
    Sequence currentUid page now earlier store app work lists :=
  ⟨sequence.signedIn, sequence.clock, sequence.captures, sequence.feed,
    fun begun => sequence.last (still begun)⟩

end Sequence

section Run

variable {currentUid : Uid} {page : Ref} {now : Timestamp} {store : Cloud}
  {start : Network cloud App ℕ Unit} {loads next : Loads} {events : List FeedEvent} {fresh : Prop}

/-- The last of the inputs is a refresh. -/
def EndsWithRefresh (inputs : List Input) : Prop := ∃ past action, inputs = past ++ [.refresh action]

/-- What is stored after the inputs. -/
def stored (store : Cloud) (inputs : List Input) : Cloud :=
  inputs.foldl (fun store input => match input with
    | .refresh _ => store
    | .change later => later) store

private theorem stored_refresh (store : Cloud) (past : List Input) (action : LoadAction) :
    stored store (past ++ [.refresh action]) = stored store past := by
  simp [stored]

private theorem stored_change (store later : Cloud) (past : List Input) :
    stored store (past ++ [.change later]) = later := by
  simp [stored]

private theorem inputs_append (past : List FeedEvent) (event : FeedEvent) :
    inputs (past ++ [event]) = inputs past ++ event.input?.toList := by
  cases event <;> simp [inputs, FeedEvent.input?]

/-- The session is at work on its loads over this store. -/
def Works (currentUid : Uid) (page : Ref) (now : Timestamp) (fresh : Prop) (store : Cloud)
    (loads : Loads) : Prop :=
  ∃ app, ∃ work : List (Posted (Job.call currentUid page)), ∃ lists,
    loads.net = .working Job.load store app work ∧ loads.calls = lists.length ∧
    Sequence currentUid page now fresh store app work lists

private theorem Works.mono {earlier : Prop} (works : Works currentUid page now fresh store loads)
    (still : earlier → fresh) : Works currentUid page now earlier store loads := by
  obtain ⟨app, work, lists, same, counted, sequence⟩ := works
  exact ⟨app, work, lists, same, counted, sequence.mono still⟩

private theorem Works.refresh (works : Works currentUid page now fresh store loads)
    (action : LoadAction) (clean : Clean currentUid page loads (.input (.refresh action))) :
    Works currentUid page now True store
      ⟨loads.net.launch host loads.calls (action.perform page), loads.calls + 1⟩ := by
  obtain ⟨app, work, lists, same, counted, sequence⟩ := works
  obtain ⟨feed, found, all⟩ := sequence.feed
  have ran : (action.perform page).run app =
      ⟨some (app.add (Instance.inject ([] : List Post)) false),
        [Job.feeds lists.length app.objects.length].map (Job.call currentUid page), []⟩ := by
    cases action <;> exact fetch_run sequence.signedIn found all lists.length
  have clean : Delivers currentUid store ∨ work = [] ∧ feed.posts = [] := by
    simp only [Clean, same] at clean
    rw [shown_working found] at clean
    exact clean.imp_right fun ⟨idle, empty⟩ =>
      ⟨Network.working_idle.mp (List.isEmpty_iff.mp idle), empty⟩
  refine ⟨_, _, _, ?_, ?_, sequence.refresh found clean⟩
  · rw [same, counted]
    exact Network.launch_working ran (by simp [Job.load])
  · simp [counted]

private theorem Works.change (works : Works currentUid page now fresh store loads) (later : Cloud) :
    Works currentUid page now False later
      { loads with net := { loads.net with store := later } } := by
  obtain ⟨app, work, lists, same, counted, sequence⟩ := works
  exact ⟨app, work, lists, by rw [same]; rfl, counted, sequence.change later⟩

variable {app : App} {before after : List (Posted (Job.call currentUid page))} {calls : ℕ}

/-- The request of a job that fetches for the load, when the post exists. -/
private theorem fetched?_pending {job : Job} {load : ℕ} {id : PostId} {data : Dictionary}
    (now : Timestamp) (answer) (fetches : id ∈ job.fetches? load)
    (stored : store.firestore.lookup (.post id) = some data) :
    job.load = load ∧ Post.ofDictionary now id data ∈
      fetched? now store ((⟨job, answer⟩ : Posted (Job.call currentUid page)).pending Job.load) := by
  cases job with
  | post origin list postId =>
    simp only [Job.fetches?, Option.mem_def, Option.ite_none_right_eq_some] at fetches
    obtain ⟨rfl, fetches⟩ := fetches
    obtain rfl := Option.some.inj fetches
    refine ⟨rfl, ?_⟩
    simp [fetched?, Posted.pending, Job.call, stored]
  | _ => cases fetches

private theorem asks_of_queries {posted : Posted (Job.call currentUid page)}
    (queries : queries (posted.pending Job.load) = true) :
    posted.job.asks posted.job.load = true := by
  rcases posted with ⟨job, answer⟩
  cases job with
  | feeds load list => simp [Job.asks, Job.load]
  | _ => cases queries

/-- What a clean delivery says about the jobs. -/
private theorem clean_deliver {job : Job} {answer} (clean : Clean currentUid page
      ⟨.working Job.load store app (before ++ ⟨job, some answer⟩ :: after), calls⟩
      (.signal (.deliver before.length))) :
    (∀ load, calls = load + 1 → job.load < load →
      interferes store ((⟨job, some answer⟩ : Posted (Job.call currentUid page)).pending Job.load) =
          true →
        asking load (before ++ (⟨job, some answer⟩ : Posted (Job.call currentUid page)) :: after) ≠
          0) ∧
    ∀ load, calls = load + 1 →
      ∀ id ∈ job.fetches? load, ∀ data, store.firestore.lookup (.post id) = some data →
        ∀ other ∈ fetching load (before ++ after),
          ∀ older, store.firestore.lookup (.post other) = some older →
            Newer (Post.ofDictionary app.now id data) (Post.ofDictionary app.now other older) := by
  obtain ⟨undisturbed, newest⟩ := clean
  rw [Undisturbed, Network.working_getElem?] at undisturbed
  rw [Newest, Network.working_getElem?, Network.working_eraseIdx] at newest
  constructor
  · rintro load rfl earlier disturbs none
    obtain ⟨other, member, last, asks⟩ :=
      undisturbed _ (Option.mem_toList.mpr rfl) (Nat.succ_lt_succ earlier) disturbs
    obtain ⟨posted, among, rfl⟩ := List.mem_map.mp member
    have asks := asks_of_queries asks
    rw [show posted.job.load = load from Nat.succ.inj last] at asks
    exact List.countP_eq_zero.mp none posted.job (List.mem_map_of_mem among) asks
  · rintro load rfl id fetches data stored other fetched older olderStored
    obtain ⟨_, among, otherFetches⟩ := List.mem_filterMap.mp fetched
    obtain ⟨posted, member, rfl⟩ := List.mem_map.mp among
    obtain ⟨mine, arrives⟩ := fetched?_pending app.now (some answer) fetches stored
    obtain ⟨yours, waits⟩ := fetched?_pending app.now posted.answer otherFetches olderStored
    exact newest _ (Option.mem_toList.mpr rfl) (congrArg (· + 1) mine) _ arrives
      (posted.pending Job.load) (List.mem_map_of_mem member) (yours.trans mine.symm) _ waits

private theorem Works.signal {signal : Signal cloud}
    (works : Works currentUid page now fresh store loads)
    (clean : Clean currentUid page loads (.signal signal)) (allowed : succeeds signal = true)
    {later : Network cloud App ℕ Unit} (taken : loads.net.signal? host signal = some later) :
    Works currentUid page now fresh store { loads with net := later } := by
  rcases loads with ⟨net, calls⟩
  obtain ⟨app, work, lists, rfl, rfl, sequence⟩ := works
  rcases Network.signal_working taken with
    ⟨before, job, after, choice, later, answer, rfl, rfl, served, rfl⟩ |
    ⟨before, job, answer, after, rfl, rfl, rfl⟩
  · obtain ⟨rfl, served⟩ := sequence.serve allowed served
    exact ⟨app, _, lists, rfl, rfl, served⟩
  · obtain ⟨undisturbed, newest⟩ := clean_deliver clean
    rw [sequence.clock] at newest
    obtain ⟨later, jobs, ran, mine, delivered⟩ := sequence.deliver undisturbed newest
    exact ⟨later, _, lists, Network.launch_working ran mine, rfl, delivered⟩

/-- A run that keeps to the condition ends, after a refresh and with nothing in flight, with the
posts that the last refresh was to load, newest first. -/
private theorem newestFirst_of_run {app : App} (opened : Opened currentUid page start)
    (running : start.clients () = some app)
    (run : Run (fun loads event next => Clean currentUid page loads event ∧
      feedStep? page loads event = some next) ⟨start, 0⟩ events loads) :
    loads.net.store = stored start.store (inputs events) ∧
    (EndsWithRefresh (inputs events) → loads.net.flight = [] →
      NewestFirst currentUid app.now loads.net.store (shown page loads.net)) := by
  obtain ⟨_, same, signedIn, empty⟩ := opened.client
  obtain rfl := Option.some.inj (running.symm.trans same)
  have works : Works currentUid page app.now (EndsWithRefresh (inputs events))
      (stored start.store (inputs events)) loads := by
    refine run.history (fun past loads => Works currentUid page app.now (EndsWithRefresh (inputs past))
      (stored start.store (inputs past)) loads) ⟨app, [], [],
        Network.eq_working _ _ running opened.idle opened.quiet, rfl, signedIn, rfl,
        ⟨.nil, by simp, by simp⟩, ⟨_, empty, rfl⟩, by simp [inputs, EndsWithRefresh]⟩ ?_
    rintro past loads event next ⟨clean, taken⟩ works
    rw [inputs_append]
    cases event with
    | input input =>
      cases input with
      | refresh action =>
        obtain rfl := Option.some.inj taken
        have kept : stored start.store (inputs past ++ [.refresh action]) =
            stored start.store (inputs past) := stored_refresh ..
        rw [FeedEvent.input?, Option.toList_some, kept]
        exact (works.refresh action clean).mono fun _ => trivial
      | change later =>
        obtain rfl := Option.some.inj taken
        have changed : stored start.store (inputs past ++ [.change later]) = later :=
          stored_change ..
        rw [FeedEvent.input?, Option.toList_some, changed]
        refine (works.change later).mono ?_
        rintro ⟨earlier, action, same⟩
        cases List.append_inj_right' same rfl
    | signal signal =>
      simp only [feedStep?] at taken
      split_ifs at taken with allowed
      obtain ⟨later, sent, rfl⟩ := Option.map_eq_some_iff.mp taken
      simpa [FeedEvent.input?] using works.signal clean allowed sent
  obtain ⟨later, work, lists, same, counted, sequence⟩ := works
  refine ⟨by rw [same]; rfl, fun begun idle => ?_⟩
  rw [same] at idle
  obtain rfl := Network.working_idle.mp idle
  obtain ⟨load, list, posts, feed, -, -, last⟩ := sequence.last begun
  rw [same, shown_working last.found, Network.working_store]
  exact last.newestFirst

/-- Two runs that keep to the condition, with the same refreshes and changes of the store, end with
the same list: the posts that the last refresh was to load, newest first. -/
theorem orders_agree {first second : List FeedEvent} {firstEnd secondEnd : Loads}
    (opened : Opened currentUid page start)
    (one : Run (fun loads event next => Clean currentUid page loads event ∧
      feedStep? page loads event = some next) ⟨start, 0⟩ first firstEnd)
    (other : Run (fun loads event next => Clean currentUid page loads event ∧
      feedStep? page loads event = some next) ⟨start, 0⟩ second secondEnd)
    (same : inputs first = inputs second) (refreshed : EndsWithRefresh (inputs first))
    (firstIdle : firstEnd.net.flight = []) (secondIdle : secondEnd.net.flight = []) :
    shown page firstEnd.net = shown page secondEnd.net ∧
    NewestFirst currentUid (clock start) (stored start.store (inputs first))
      (shown page firstEnd.net) := by
  obtain ⟨app, running, -⟩ := opened.client
  have now : clock start = app.now := by simp [clock, running]
  obtain ⟨firstStore, firstList⟩ := newestFirst_of_run opened running one
  obtain ⟨secondStore, secondList⟩ := newestFirst_of_run opened running other
  have firstList := firstList refreshed firstIdle
  have secondList := secondList (same ▸ refreshed) secondIdle
  rw [firstStore] at firstList
  rw [secondStore, ← same] at secondList
  rw [now]
  exact ⟨firstList.unique secondList, firstList⟩

section Examples

/-- A feed with posts of these names and times, of which one is liked. -/
def feedOf (posts : List (PostId × ℤ)) (liked : PostId) : Cloud where
  firestore := posts.foldl (fun store post =>
    (store.insert (.userFeed "u" post.1) .empty).insert (.post post.1)
      (.ofList [("timestamp", .timestamp ⟨post.2, 0⟩)])) ((∅ : Firestore).insert
        (.userLike "u" liked) .empty)

def session (store : Cloud) : Network cloud App ℕ Unit where
  store := store
  clients _ := some { currentUser := some "u", objects := [⟨.feed {}, true⟩] }

/-- A feed of one post, and of a newer one beside it. -/
def older : Cloud := feedOf [("a", 1)] "b"

def newer : Cloud := feedOf [("a", 1), ("b", 2)] "b"

/-- The entries of these feeds. -/
def one : Choice := .answer [.userFeed "u" "a"] ""

def two : Choice := .answer [.userFeed "u" "a", .userFeed "u" "b"] ""

/-- The checks of likes of a load of two posts. -/
def answered : List FeedEvent :=
  [.signal (.serve 0 (.drawing "")), .signal (.serve 1 (.drawing "")), .signal (.serve 2 (.drawing "")),
    .signal (.deliver 0), .signal (.deliver 0), .signal (.deliver 0)]

/-- The last load is answered, its newer post first. -/
def ending : List FeedEvent :=
  [.signal (.serve 0 two), .signal (.deliver 0), .signal (.serve 0 (.drawing "")),
    .signal (.serve 1 (.drawing "")), .signal (.deliver 1), .signal (.deliver 0)] ++
    answered

/-- The feed is loaded, and again when there is a newer post. -/
def inTurn : List FeedEvent :=
  [.input (.refresh .viewDidLoad), .signal (.serve 0 one), .signal (.deliver 0),
    .signal (.serve 0 (.drawing "")), .signal (.deliver 0), .signal (.serve 0 (.drawing "")),
    .signal (.deliver 0), .input (.change newer), .input (.refresh .onTapRefresh)] ++ ending

/-- The first load is still under way when the second begins. -/
def overlapping : List FeedEvent :=
  [.input (.refresh .viewDidLoad), .signal (.serve 0 one), .input (.change newer),
    .input (.refresh .onTapRefresh), .signal (.deliver 0), .signal (.serve 1 (.drawing "")),
    .signal (.deliver 1), .signal (.serve 1 (.drawing "")), .signal (.deliver 1)] ++ ending

/-- One run loads, and loads again when there is a newer post; in the other the first load is still
under way then. -/
theorem orders_agree_two :
    ∃ firstEnd secondEnd,
      Run (fun loads event next => Clean "u" 0 loads event ∧ feedStep? 0 loads event = some next)
        ⟨session older, 0⟩ inTurn firstEnd ∧
      Run (fun loads event next => Clean "u" 0 loads event ∧ feedStep? 0 loads event = some next)
        ⟨session older, 0⟩ overlapping secondEnd ∧
      shown 0 firstEnd.net = shown 0 secondEnd.net ∧
      NewestFirst "u" (clock (session older)) newer (shown 0 firstEnd.net) := by
  have replays (events : List FeedEvent) (completes : (replay? (fun loads event =>
      if Clean "u" 0 loads event then feedStep? 0 loads event else none) ⟨session older, 0⟩ events).any
        (fun loads => decide (loads.net.flight.isEmpty = true)) = true) :
      ∃ ending, Run (fun loads event next => Clean "u" 0 loads event ∧
        feedStep? 0 loads event = some next) ⟨session older, 0⟩ events ending ∧
          ending.net.flight = [] := by
    obtain ⟨ending, run, idle⟩ := exists_legal_run_of_replay? completes
    exact ⟨ending, run, List.isEmpty_iff.mp idle⟩
  obtain ⟨firstEnd, first, firstIdle⟩ := replays inTurn (by decide +kernel)
  obtain ⟨secondEnd, second, secondIdle⟩ := replays overlapping (by decide +kernel)
  obtain ⟨same, list⟩ := orders_agree ⟨rfl, rfl, _, rfl, rfl, rfl⟩ first second rfl
    ⟨[.refresh .viewDidLoad, .change newer], .onTapRefresh, rfl⟩ firstIdle secondIdle
  exact ⟨firstEnd, secondEnd, first, second, same, list⟩

/-- Two posts are loaded, and arrive in the order of these indices. -/
def load (arrivals : List ℕ) : List FeedEvent :=
  [.input (.refresh .viewDidLoad), .signal (.serve 0 two), .signal (.deliver 0),
    .signal (.serve 0 (.drawing "")), .signal (.serve 1 (.drawing ""))] ++
    arrivals.map (fun index => .signal (.deliver index)) ++ answered

/-- Two posts are loaded once. When the older one arrives first it is shown first, and when it
arrives last it is shown last. -/
theorem orders_differ :
    inputs (load [0, 0]) = inputs (load [1, 0]) ∧ EndsWithRefresh (inputs (load [0, 0])) ∧
      ∃ firstEnd secondEnd,
        Run (fun loads event next => feedStep? 0 loads event = some next) ⟨session newer, 0⟩
          (load [0, 0]) firstEnd ∧
        Run (fun loads event next => feedStep? 0 loads event = some next) ⟨session newer, 0⟩
          (load [1, 0]) secondEnd ∧
        firstEnd.net.flight = [] ∧ secondEnd.net.flight = [] ∧
        shown 0 firstEnd.net ≠ shown 0 secondEnd.net ∧
        ¬ NewestFirst "u" (clock (session newer)) newer (shown 0 firstEnd.net) := by
  have one : (replay? (feedStep? 0) ⟨session newer, 0⟩ (load [0, 0])).any (fun loads => decide
      (loads.net.flight.isEmpty = true ∧ (shown 0 loads.net).map Post.postId = ["a", "b"] ∧
        ¬ (shown 0 loads.net).Pairwise Newer)) = true := by
    decide +kernel
  have other : (replay? (feedStep? 0) ⟨session newer, 0⟩ (load [1, 0])).any (fun loads => decide
      (loads.net.flight.isEmpty = true ∧ (shown 0 loads.net).map Post.postId = ["b", "a"])) =
        true := by
    decide +kernel
  obtain ⟨firstEnd, one, firstIdle, firstIds, unsorted⟩ := exists_run_of_replay? one
  obtain ⟨secondEnd, other, secondIdle, secondIds⟩ := exists_run_of_replay? other
  refine ⟨rfl, ⟨[], .viewDidLoad, rfl⟩, firstEnd, secondEnd, one, other,
    List.isEmpty_iff.mp firstIdle, List.isEmpty_iff.mp secondIdle, fun same => ?_, fun list => ?_⟩
  · rw [same, secondIds] at firstIds
    exact absurd firstIds (by decide)
  · exact unsorted list.sorted

end Examples

end Run

end FeedOrder

end InstagramClone
