import InstagramClone.Async.Flags
import InstagramClone.Async.Work
import InstagramClone.Controller.FeedController
import InstagramClone.Soundness.MirroredDocuments

/-! # The work of loading a feed

A load asks for the entries of the feed, then for every post it names. Each post that arrives is
appended to the list of its load, and the feed shows that list anew and checks the likes of all its
posts. The jobs of a load carry its number and the place of its list.
-/

namespace InstagramClone

open Async

namespace FeedWork

inductive Job where
  | feeds (load : ℕ) (list : Ref)
  | post (load : ℕ) (list : Ref) (postId : PostId)
  | like (load : ℕ) (postId : PostId)

/-- `self.posts = posts`, then the likes are checked. -/
def deliver (page : Ref) (posts : List Post) : Code App :=
  .seq (Code.modify page fun feed : FeedController => { feed with posts }) <|
  FeedController.isUserLikedPost page

/-- A fetched post is appended to the captured list, which is then delivered. -/
def arrive (page list : Ref) (post : Post) : Code App :=
  .seq (Code.modify list fun posts : List Post => posts ++ [post]) <|
  Code.withObject list (deliver page)

namespace Job

/-- The load that the job descends from. -/
def load : Job → ℕ
  | feeds load _ | post load .. | like load _ => load

def call (currentUid : Uid) (page : Ref) : Job → Call firebase App
  | feeds _ list => ⟨.getDocuments { collection := .userFeeds currentUid }, fun
      | .error _ => Code.withObject list (deliver page)
      | .ok documents =>
        .seq (if documents.isEmpty then Code.withObject list (deliver page) else .done) <|
        .forEach documents fun document =>
          PostService.fetchPost document.documentID (arrive page list)⟩
  | post _ list postId => ⟨.getDocument (.post postId), fun
      | .ok (some data) => Code.withTimestamp fun now =>
          arrive page list (Post.ofDictionary now postId data)
      | _ => .done⟩
  | like _ postId => ⟨.getDocument (.userLike currentUid postId), fun
      | .ok snapshot => Code.modify page fun feed : FeedController =>
          { feed with posts := FeedController.setDidLike postId snapshot.isSome feed.posts }
      | .error _ => .done⟩

end Job

variable {currentUid : Uid} {page list : Ref} {app : App} {feed : FeedController} {load : ℕ}

section Code

/-- The feed shows these posts. -/
def display (page : Ref) (posts : List Post) (app : App) : App :=
  app.modify page fun feed : FeedController => { feed with posts }

/-- The list of a load holds these posts, and the feed shows them. -/
def hand (page list : Ref) (posts : List Post) (app : App) : App :=
  display page posts (app.modify list fun _ : List Post => posts)

/-- One check for every post. -/
def checks (load : ℕ) (posts : List Post) : List Job :=
  posts.map fun post => .like load post.postId

theorem fetch_run (signedIn : app.currentUser = some currentUid)
    (found : app.find? FeedController page = some feed) (all : feed.post = none) (load : ℕ) :
    (FeedController.fetchPosts page).run app =
      ⟨some (app.add (Instance.inject ([] : List Post)) false),
        [Job.feeds load app.objects.length].map (Job.call currentUid page), []⟩ := by
  simp only [FeedController.fetchPosts, Code.withObject, Program.run_inspect, found, all,
    Option.isNone_none, if_true]
  rw [PostService.fetchFeedPosts, Code.run_withCurrentUser signedIn]
  rfl

/-- The check of one post. -/
private theorem check_run (signedIn : app.currentUser = some currentUid) (load : ℕ) (post : Post) :
    (PostService.isUserLikedPost post fun didLike =>
      Code.modify page fun feed : FeedController =>
        { feed with posts := FeedController.setDidLike post.postId didLike feed.posts }).run app =
      ⟨some app, [(Job.like load post.postId).call currentUid page], []⟩ := by
  rw [PostService.isUserLikedPost, Code.run_withCurrentUser signedIn, Code.run_call, Job.call]
  congr 3
  funext answer
  cases answer <;> rfl

private theorem isUserLikedPost_run (signedIn : app.currentUser = some currentUid)
    (found : app.find? FeedController page = some feed) (all : feed.post = none) (load : ℕ) :
    (FeedController.isUserLikedPost page).run app =
      ⟨some app, (checks load feed.posts).map (Job.call currentUid page), []⟩ := by
  simp only [FeedController.isUserLikedPost, Code.withObject, Program.run_inspect, found, all]
  rw [Program.run_forEach fun post _ => check_run signedIn load post, checks, List.map_map]
  exact congrArg (Effect.mk (some app) · []) (List.flatMap_pure_eq_map ..)

@[simp] theorem find?_display (found : app.find? FeedController page = some feed)
    (posts : List Post) :
    (display page posts app).find? FeedController page = some { feed with posts } := by
  rw [display, App.find?_modify, found]
  rfl

theorem find?_hand_page (found : app.find? FeedController page = some feed) (posts : List Post) :
    (hand page list posts app).find? FeedController page = some { feed with posts } := by
  rw [hand, find?_display]
  rw [App.find?_modify_other fun _ => rfl, found]

theorem find?_hand_list {before : List Post} (captured : app.find? (List Post) list = some before)
    (posts : List Post) : (hand page list posts app).find? (List Post) list = some posts := by
  rw [hand, display, App.find?_modify_other fun _ => rfl, App.find?_modify, captured]
  rfl

theorem find?_hand_other {other : Ref} (apart : other ≠ list) (posts : List Post) :
    (hand page list posts app).find? (List Post) other = app.find? (List Post) other := by
  rw [hand, display, App.find?_modify_other fun _ => rfl, App.find?_modify_of_ne app apart]

theorem captured_hand {other : Ref} (captured : ∃ before, app.find? (List Post) other = some before)
    (posts : List Post) :
    ∃ later, (hand page list posts app).find? (List Post) other = some later := by
  obtain ⟨before, captured⟩ := captured
  by_cases same : other = list
  · subst same
    exact ⟨posts, find?_hand_list captured posts⟩
  · exact ⟨before, by rw [find?_hand_other same, captured]⟩

/-- A delivered list is shown, and all its posts are checked. -/
private theorem deliver_run (signedIn : app.currentUser = some currentUid)
    (found : app.find? FeedController page = some feed) (all : feed.post = none) (load : ℕ)
    (posts : List Post) : (deliver page posts).run app =
      ⟨some (display page posts app), (checks load posts).map (Job.call currentUid page), []⟩ := by
  have still : (display page posts app).currentUser = some currentUid := signedIn
  rw [deliver, Code.modify, Program.update_seq, Program.done_seq, Program.run_update]
  exact isUserLikedPost_run still (find?_display found posts) all load

/-- A post that arrives ends its load's list, which is shown and checked. -/
private theorem arrive_run (signedIn : app.currentUser = some currentUid)
    (found : app.find? FeedController page = some feed) (all : feed.post = none) (load : ℕ)
    {posts : List Post} (captured : app.find? (List Post) list = some posts) (post : Post) :
    (arrive page list post).run app =
      ⟨some (hand page list (posts ++ [post]) app),
        (checks load (posts ++ [post])).map (Job.call currentUid page), []⟩ := by
  have appended : (app.modify list fun posts : List Post => posts ++ [post]).find? (List Post) list =
      some (posts ++ [post]) := by
    rw [App.find?_modify, captured]
    rfl
  have same : (app.modify list fun posts : List Post => posts ++ [post]).find? FeedController page =
      some feed := by
    rw [App.find?_modify_other fun _ => rfl, found]
  have still : (app.modify list fun posts : List Post => posts ++ [post]).currentUser =
      some currentUid := signedIn
  rw [arrive, Code.modify, Program.update_seq, Program.done_seq, Program.run_update,
    Code.withObject, Program.run_inspect]
  simp only [appended]
  have replaced : (app.modify list fun posts : List Post => posts ++ [post]) =
      app.modify list fun _ : List Post => posts ++ [post] := App.modify_congr captured rfl
  rw [hand, ← replaced]
  exact deliver_run still same all load _

/-- A post is asked for under every entry of the feed. -/
private theorem fetches_run (load : ℕ) (documents : List Document) :
    (Program.forEach documents fun document =>
      PostService.fetchPost document.documentID (arrive page list)).run app =
      ⟨some app, (documents.map fun document => Job.post load list document.documentID).map
        (Job.call currentUid page), []⟩ := by
  have each (document : Document) : (PostService.fetchPost document.documentID
      (arrive page list)).run app =
        ⟨some app, [(Job.post load list document.documentID).call currentUid page], []⟩ := by
    rw [PostService.fetchPost, Code.run_call, Job.call]
    congr 3
  rw [Program.run_forEach fun document _ => each document, List.map_map]
  exact congrArg (Effect.mk (some app) · []) (List.flatMap_pure_eq_map ..)

/-- The list of a load whose feed is empty is delivered as it is. -/
theorem feeds_run_nil (signedIn : app.currentUser = some currentUid)
    (found : app.find? FeedController page = some feed) (all : feed.post = none)
    {posts : List Post} (captured : app.find? (List Post) list = some posts) :
    (((Job.feeds load list).call currentUid page).callback (.ok [])).run app =
      ⟨some (hand page list posts app), (checks load posts).map (Job.call currentUid page), []⟩ := by
  have ran := deliver_run signedIn found all load posts
  rw [hand, App.modify_eq_self captured rfl]
  simp only [Job.call, List.isEmpty_nil, if_true, Program.forEach_nil, Program.seq_done,
    Code.withObject, Program.run_inspect, captured]
  exact ran

theorem feeds_run_cons (document : Document) (documents : List Document) :
    (((Job.feeds load list).call currentUid page).callback (.ok (document :: documents))).run app =
      ⟨some app, ((document :: documents).map fun document =>
        Job.post load list document.documentID).map (Job.call currentUid page), []⟩ :=
  fetches_run load (document :: documents)

theorem post_run (signedIn : app.currentUser = some currentUid)
    (found : app.find? FeedController page = some feed) (all : feed.post = none)
    {posts : List Post} (captured : app.find? (List Post) list = some posts) (postId : PostId)
    (data : Dictionary) :
    (((Job.post load list postId).call currentUid page).callback (.ok (some data))).run app =
      ⟨some (hand page list (posts ++ [Post.ofDictionary app.now postId data]) app),
        (checks load (posts ++ [Post.ofDictionary app.now postId data])).map
          (Job.call currentUid page), []⟩ :=
  arrive_run signedIn found all load captured _

end Code

/-- `didLike`, by the id of the post. -/
def mark : Flag Post PostId where
  key := Post.postId
  get := Post.didLike
  set value post := { post with didLike := value }
  key_set _ _ := rfl
  get_set _ _ := rfl
  set_set _ _ _ := rfl

theorem setDidLike_eq : FeedController.setDidLike = mark.assign := rfl

/-- The answer to a check sets the flag of its post, if the feed shows it. -/
theorem like_run (found : app.find? FeedController page = some feed) (load : ℕ) (postId : PostId)
    (snapshot : Option Dictionary) :
    (((Job.like load postId).call currentUid page).callback (.ok snapshot)).run app =
      ⟨some (display page (mark.assign postId snapshot.isSome feed.posts) app), [], []⟩ := by
  have marked : (app.modify page fun feed : FeedController =>
      { feed with posts := FeedController.setDidLike postId snapshot.isSome feed.posts }) =
        display page (mark.assign postId snapshot.isSome feed.posts) app :=
    App.modify_congr found rfl
  rw [← marked]
  rfl

section Progress

namespace Job

variable {job : Job}

/-- The job is the query of the load. -/
def asks (load : ℕ) : Job → Bool
  | feeds other _ => other = load
  | _ => false

/-- The post that the job fetches for the load. -/
def fetches? (load : ℕ) : Job → Option PostId
  | post other _ postId => if other = load then some postId else none
  | _ => none

/-- The list of the job's load, where the job is to fill it. -/
def list? : Job → Option Ref
  | feeds _ list | post _ list _ => some list
  | like .. => none

/-- The job of another load does nothing for this one. -/
theorem apart (other : job.load ≠ load) : job.asks load = false ∧ job.fetches? load = none := by
  cases job <;> simp_all [Job.load, asks, fetches?]

theorem load_of_checks {posts : List Post} (member : job ∈ checks load posts) : job.load = load := by
  obtain ⟨post, -, rfl⟩ := List.mem_map.mp member
  rfl

/-- A check does nothing for any load. -/
theorem apart_of_checks {posts : List Post} {origin : ℕ} (member : job ∈ checks origin posts)
    (load : ℕ) : job.asks load = false ∧ job.fetches? load = none := by
  obtain ⟨post, -, rfl⟩ := List.mem_map.mp member
  exact ⟨rfl, rfl⟩

end Job

variable {now : Timestamp} {store : Cloud} {work : List (Posted (Job.call currentUid page))}

/-- How many queries of the load are under way. -/
def asking (load : ℕ) (work : List (Posted (Job.call currentUid page))) : ℕ :=
  (work.map Posted.job).countP (Job.asks load)

/-- The posts that are being fetched for the load. -/
def fetching (load : ℕ) (work : List (Posted (Job.call currentUid page))) : List PostId :=
  (work.map Posted.job).filterMap (Job.fetches? load)

/-- The answer in flight says what is stored. -/
def Right (store : Cloud) : Posted (Job.call currentUid page) → Prop
  | ⟨.feeds _ _, answer⟩ => ∀ reply ∈ answer, ∃ (order : List DocumentReference)
      (documents : List Document), ({ collection := .userFeeds currentUid } : Query).answer?
        store.firestore order = some documents ∧ reply = Except.ok documents
  | ⟨.post _ _ postId, answer⟩ =>
    ∀ reply ∈ answer, reply = Except.ok (store.firestore.lookup (.post postId))
  | ⟨.like _ postId, answer⟩ =>
    ∀ reply ∈ answer, reply = Except.ok (store.firestore.lookup (.userLike currentUid postId))

/-- Jobs read, and are answered with what is stored. -/
theorem right_serve {job : Job} {choice : Choice} {later : Cloud} {answer}
    (succeeds : choice.succeeds = true)
    (served : cloud.serve choice store (job.call currentUid page).request = some (later, answer)) :
    later = store ∧ Right store (⟨job, some answer⟩ : Posted (Job.call currentUid page)) := by
  obtain ⟨order, fresh, transfer, resolved⟩ := serve_succeeds succeeds served
  cases job with
  | feeds load list =>
    obtain ⟨documents, answered, same⟩ := Option.map_eq_some_iff.mp resolved
    obtain ⟨rfl, rfl⟩ := Prod.mk.inj same
    refine ⟨rfl, ?_⟩
    rintro _ ⟨⟩
    exact ⟨order, documents, answered, rfl⟩
  | post load list postId =>
    obtain ⟨rfl, rfl⟩ := Prod.mk.inj (Option.some.inj resolved)
    refine ⟨rfl, ?_⟩
    rintro _ ⟨⟩
    rfl
  | like load postId =>
    obtain ⟨rfl, rfl⟩ := Prod.mk.inj (Option.some.inj resolved)
    refine ⟨rfl, ?_⟩
    rintro _ ⟨⟩
    rfl

/-- The post is stored as it is, and the feed has an entry for it. -/
structure Listed (currentUid : Uid) (now : Timestamp) (store : Cloud) (post : Post) : Prop where
  entry : .userFeed currentUid post.postId ∈ store.firestore
  stored : ∃ data, store.firestore.lookup (.post post.postId) = some data ∧
    post = Post.ofDictionary now post.postId data

/-- How far a load has come: its query is under way, or else what it fetches and what its list holds
are entries of the feed, each once, and among them every post there is. -/
structure Progress (now : Timestamp) (store : Cloud) (work : List (Posted (Job.call currentUid page)))
    (load : ℕ) (posts : List Post) : Prop where
  right : ∀ posted ∈ work, posted.job.load = load → Right store posted
  listed : ∀ post ∈ posts, Listed currentUid now store post
  stage : asking load work = 1 ∧ fetching load work = [] ∧ posts = [] ∨
    asking load work = 0 ∧ (fetching load work ++ posts.map Post.postId).Nodup ∧
      (∀ id ∈ fetching load work, .userFeed currentUid id ∈ store.firestore) ∧
      ∀ id, .userFeed currentUid id ∈ store.firestore → .post id ∈ store.firestore →
        id ∈ fetching load work ++ posts.map Post.postId

/-- A fetch is not a query. -/
private theorem countP_asks_fetches (load origin : ℕ) (list : Ref) (documents : List Document) :
    (documents.map fun document => Job.post origin list document.documentID).countP
      (Job.asks load) = 0 := by
  rw [List.countP_eq_zero]
  rintro _ member
  obtain ⟨document, -, rfl⟩ := List.mem_map.mp member
  simp [Job.asks]

variable {posts : List Post}

/-- What other loads and checks do leaves a load where it is. -/
theorem Progress.congr {rest : List (Posted (Job.call currentUid page))}
    (progress : Progress now store work load posts)
    (right : ∀ posted ∈ rest, posted.job.load = load → Right store posted)
    (asks : asking load rest = asking load work) (fetches : fetching load rest = fetching load work) :
    Progress now store rest load posts :=
  ⟨right, progress.listed, by rw [asks, fetches]; exact progress.stage⟩

/-- A load begins with its query. -/
theorem Progress.start (list : Ref) (fresh : ∀ posted ∈ work, posted.job.load ≠ load) :
    Progress now store (work ++ issue (Job.call currentUid page) [.feeds load list]) load [] := by
  have none : asking load work = 0 ∧ fetching load work = [] := by
    constructor
    · refine List.countP_eq_zero.mpr fun job member => ?_
      obtain ⟨posted, among, rfl⟩ := List.mem_map.mp member
      simp [(Job.apart (fresh posted among)).1]
    · refine List.filterMap_eq_nil_iff.mpr fun job member => ?_
      obtain ⟨posted, among, rfl⟩ := List.mem_map.mp member
      exact (Job.apart (fresh posted among)).2
  refine ⟨fun posted member mine => ?_, by simp, .inl ⟨?_, ?_, rfl⟩⟩
  · rcases List.mem_append.mp member with member | member
    · exact absurd mine (fresh posted member)
    · rcases posted with ⟨job, answer⟩
      obtain ⟨asked, unanswered⟩ := mem_issue.mp member
      obtain rfl := List.mem_singleton.mp asked
      obtain rfl : answer = Option.none := unanswered
      exact nofun
  · have count := none.1
    rw [asking] at count ⊢
    simp [count, Job.asks]
  · have fetches := none.2
    rw [fetching] at fetches ⊢
    simp [fetches, Job.fetches?]

variable {before after : List (Posted (Job.call currentUid page))}

theorem mem_rest {posted other : Posted (Job.call currentUid page)}
    (member : posted ∈ before ++ after) : posted ∈ before ++ other :: after := by
  simp only [List.mem_append, List.mem_cons] at member ⊢
  tauto

/-- When a job ends, the answers that are in flight stay right. -/
private theorem Progress.right_rest {posted : Posted (Job.call currentUid page)}
    (progress : Progress now store (before ++ posted :: after) load posts) (jobs : List Job) :
    ∀ other ∈ before ++ after ++ issue (Job.call currentUid page) jobs,
      other.job.load = load → Right store other := by
  intro other member mine
  rcases List.mem_append.mp member with member | member
  · exact progress.right other (mem_rest member) mine
  · rcases other with ⟨job, answer⟩
    obtain rfl : answer = none := (mem_issue.mp member).2
    cases job <;> exact nofun

theorem Progress.serve {job : Job} {answer} (progress : Progress now store
      (before ++ ⟨job, none⟩ :: after) load posts)
    (answered : Right store (⟨job, some answer⟩ : Posted (Job.call currentUid page))) :
    Progress now store (before ++ ⟨job, some answer⟩ :: after) load posts := by
  refine progress.congr (fun posted member mine => ?_) (by simp [asking]) (by simp [fetching])
  rcases List.mem_append.mp member with member | member
  · exact progress.right posted (by simp [member]) mine
  rcases List.mem_cons.mp member with rfl | member
  · exact answered
  · exact progress.right posted (by simp [member]) mine

section Rest

variable {posted : Posted (Job.call currentUid page)} {jobs : List Job}

theorem asking_rest (ended : posted.job.asks load = false ∧ posted.job.fetches? load = none)
    (issued : ∀ job ∈ jobs, job.asks load = false ∧ job.fetches? load = none) :
    asking load (before ++ after ++ issue (Job.call currentUid page) jobs) =
      asking load (before ++ posted :: after) := by
  have asks : jobs.countP (Job.asks load) = 0 :=
    List.countP_eq_zero.mpr fun job member => by simp [(issued job member).1]
  simp [asking, ended.1, asks]

theorem fetching_rest (ended : posted.job.asks load = false ∧ posted.job.fetches? load = none)
    (issued : ∀ job ∈ jobs, job.asks load = false ∧ job.fetches? load = none) :
    fetching load (before ++ after ++ issue (Job.call currentUid page) jobs) =
      fetching load (before ++ posted :: after) := by
  have fetches : jobs.filterMap (Job.fetches? load) = [] :=
    List.filterMap_eq_nil_iff.mpr fun job member => (issued job member).2
  simp [fetching, ended.2, fetches]

end Rest

/-- A job that neither asks nor fetches for the load ends, and issues none that does. -/
theorem Progress.skip {posted : Posted (Job.call currentUid page)} {jobs : List Job}
    (progress : Progress now store (before ++ posted :: after) load posts)
    (ended : posted.job.asks load = false ∧ posted.job.fetches? load = none)
    (issued : ∀ job ∈ jobs, job.asks load = false ∧ job.fetches? load = none) :
    Progress now store (before ++ after ++ issue (Job.call currentUid page) jobs) load posts :=
  progress.congr (progress.right_rest jobs) (asking_rest ended issued) (fetching_rest ended issued)

/-- The feed's entries arrive, and a fetch of each begins. -/
theorem Progress.feeds {documents : List Document} {order : List DocumentReference}
    (progress : Progress now store
      (before ++ ⟨.feeds load list, some (.ok documents)⟩ :: after) load posts)
    (answered : ({ collection := .userFeeds currentUid } : Query).answer? store.firestore order =
      some documents) : posts = [] ∧
    asking load (before ++ after ++ issue (Job.call currentUid page)
      (documents.map fun document => .post load list document.documentID)) = 0 ∧
    Progress now store (before ++ after ++ issue (Job.call currentUid page)
      (documents.map fun document => .post load list document.documentID)) load [] := by
  have entries (id : String) : id ∈ documents.map Document.documentID ↔
      .userFeed currentUid id ∈ store.firestore := by
    rw [Query.mem_answer?_ids answered]
    simp [Query.Selects, CollectionReference.document, DocumentReference.parent]
  have nodup := Query.answer?_nodup answered
  obtain ⟨asks, fetches, rfl⟩ | ⟨asks, -⟩ := progress.stage
  swap
  · simp [asking, Job.asks] at asks
  have none : asking load (before ++ after) = 0 := by
    simp only [asking, List.map_append, List.map_cons, List.countP_append, List.countP_cons,
      Job.asks, decide_true, if_true] at asks ⊢
    omega
  have none_later : asking load (before ++ after ++ issue (Job.call currentUid page)
      (documents.map fun document => .post load list document.documentID)) = 0 := by
    rw [asking] at none ⊢
    rw [List.map_append, List.countP_append, jobs_issue, countP_asks_fetches, none]
  have idle : fetching load (before ++ after) = [] := by
    simpa [fetching, Job.fetches?] using fetches
  have begun : fetching load (before ++ after ++ issue (Job.call currentUid page)
      (documents.map fun document => .post load list document.documentID)) =
        documents.map Document.documentID := by
    have each : (documents.map fun document => Job.post load list document.documentID).filterMap
        (Job.fetches? load) = documents.map Document.documentID := by
      simp [Job.fetches?, List.filterMap_map, Function.comp_def]
    rw [fetching, List.map_append, List.filterMap_append, jobs_issue, each]
    rw [fetching] at idle
    rw [idle, List.nil_append]
  refine ⟨rfl, none_later, progress.right_rest _, by simp, .inr ⟨none_later, ?_, ?_, ?_⟩⟩
  · rw [begun]
    simpa using nodup
  · intro id member
    rw [begun] at member
    exact (entries id).mp member
  · intro id entry _
    rw [begun]
    simpa using (entries id).mpr entry

/-- An existing post arrives at the end of the list. -/
theorem Progress.post {postId : PostId} {data : Dictionary} {jobs : List Job}
    (progress : Progress now store
      (before ++ ⟨.post load list postId, some (.ok (some data))⟩ :: after) load posts)
    (issued : ∀ job ∈ jobs, job.asks load = false ∧ job.fetches? load = none) :
    Progress now store (before ++ after ++ issue (Job.call currentUid page) jobs) load
      (posts ++ [Post.ofDictionary now postId data]) := by
  have asks : jobs.countP (Job.asks load) = 0 :=
    List.countP_eq_zero.mpr fun job member => by simp [(issued job member).1]
  have fetches : jobs.filterMap (Job.fetches? load) = [] :=
    List.filterMap_eq_nil_iff.mpr fun job member => (issued job member).2
  have split : fetching load (before ++
      (⟨.post load list postId, some (.ok (some data))⟩ : Posted (Job.call currentUid page)) :: after) =
        fetching load before ++ postId :: fetching load after := by
    simp [fetching, Job.fetches?]
  have later : fetching load (before ++ after ++ issue (Job.call currentUid page) jobs) =
      fetching load before ++ fetching load after := by
    simp [fetching, fetches]
  obtain ⟨-, idle, -⟩ | ⟨none, nodup, entries, all⟩ := progress.stage
  · simp [split] at idle
  have moved : (fetching load before ++ postId :: fetching load after ++ posts.map Post.postId).Perm
      (fetching load before ++ fetching load after ++
        (posts ++ [Post.ofDictionary now postId data]).map Post.postId) := by
    rw [List.map_append, ← List.append_assoc]
    exact (List.perm_middle.append_right _).trans (List.perm_append_singleton ..).symm
  rw [split] at nodup entries all
  refine ⟨progress.right_rest jobs, fun post member => ?_, .inr ⟨?_, ?_, ?_, ?_⟩⟩
  · rcases List.mem_append.mp member with member | member
    · exact progress.listed post member
    · obtain rfl := List.mem_singleton.mp member
      have stored : some data = store.firestore.lookup (.post postId) :=
        Except.ok.inj (progress.right ⟨.post load list postId, some (.ok (some data))⟩ (by simp) rfl
          (.ok (some data)) rfl)
      exact ⟨entries postId (by simp), data, stored.symm, rfl⟩
  · simp only [asking, List.map_append, List.map_cons, List.countP_append, List.countP_cons,
      jobs_issue, asks] at none ⊢
    omega
  · rw [later]
    exact moved.nodup_iff.mp nodup
  · intro id member
    rw [later] at member
    refine entries id ?_
    simp only [List.mem_append, List.mem_cons] at member ⊢
    tauto
  · intro id entry present
    rw [later]
    exact moved.mem_iff.mp (all id entry present)

/-- A post that is gone is not waited for any more. -/
theorem Progress.gone {postId : PostId}
    (progress : Progress now store
      (before ++ ⟨.post load list postId, some (.ok none)⟩ :: after) load posts) :
    Progress now store (before ++ after) load posts := by
  have split : fetching load (before ++
      (⟨.post load list postId, some (.ok none)⟩ : Posted (Job.call currentUid page)) :: after) =
        fetching load before ++ postId :: fetching load after := by
    simp [fetching, Job.fetches?]
  have later : fetching load (before ++ after) = fetching load before ++ fetching load after := by
    simp [fetching]
  have absent : .post postId ∉ store.firestore := by
    have stored : none = store.firestore.lookup (.post postId) :=
      Except.ok.inj (progress.right ⟨.post load list postId, some (.ok none)⟩ (by simp) rfl
        (.ok none) rfl)
    exact Finmap.lookup_eq_none.mp stored.symm
  obtain ⟨-, idle, -⟩ | ⟨none, nodup, entries, all⟩ := progress.stage
  · simp [split] at idle
  rw [split] at nodup entries all
  refine ⟨fun other member mine => progress.right other (mem_rest member) mine, progress.listed,
    .inr ⟨?_, ?_, ?_, ?_⟩⟩
  · simp only [asking, List.map_append, List.map_cons, List.countP_append, List.countP_cons]
      at none ⊢
    omega
  · rw [later]
    have moved : (fetching load before ++ postId :: fetching load after ++
        posts.map Post.postId).Perm (postId :: (fetching load before ++ fetching load after ++
          posts.map Post.postId)) := List.perm_middle.append_right _
    exact (List.nodup_cons.mp (moved.nodup_iff.mp nodup)).2
  · intro id member
    rw [later] at member
    refine entries id ?_
    simp only [List.mem_append, List.mem_cons] at member ⊢
    tauto
  · intro id entry present
    have apart : id ≠ postId := by
      rintro rfl
      exact absent present
    have listed := all id entry present
    rw [later]
    simp only [List.mem_append, List.mem_cons] at listed ⊢
    tauto

/-- The posts of a load are distinct. -/
theorem Progress.nodup (progress : Progress now store work load posts) :
    (posts.map Post.postId).Nodup := by
  obtain ⟨-, -, rfl⟩ | ⟨-, nodup, -⟩ := progress.stage
  · exact List.nodup_nil
  · exact (List.nodup_append.mp nodup).2.1

/-- With nothing in flight, a load has each existing post of the feed. -/
theorem Progress.complete (progress : Progress now store work load posts) (idle : work = [])
    (id : PostId) : id ∈ posts.map Post.postId ↔
      .userFeed currentUid id ∈ store.firestore ∧ .post id ∈ store.firestore := by
  subst idle
  obtain ⟨asks, -⟩ | ⟨-, -, -, all⟩ := progress.stage
  · cases asks
  constructor
  · intro member
    obtain ⟨post, among, rfl⟩ := List.mem_map.mp member
    obtain ⟨entry, data, stored, -⟩ := progress.listed post among
    exact ⟨entry, Finmap.mem_of_lookup_eq_some stored⟩
  · rintro ⟨entry, present⟩
    exact all id entry present

/-- A load's list does not carry flags. -/
theorem Progress.cleared (progress : Progress now store work load posts) :
    posts.map mark.clear = posts := by
  conv_rhs => rw [← List.map_id posts]
  refine List.map_congr_left fun post member => ?_
  obtain ⟨-, data, -, decoded⟩ := progress.listed post member
  rw [decoded]
  rfl

section Flags

/-- The post is liked. -/
def truth (currentUid : Uid) (store : Cloud) (post : Post) : Bool :=
  store.has (.userLike currentUid post.postId)

/-- A check of the post is under way. -/
def Checked (work : List (Posted (Job.call currentUid page))) (id : PostId) : Prop :=
  Underway (fun job => ∃ load, job = .like load id) work

variable {awaiting : List Post} {postId : PostId} {posted : Posted (Job.call currentUid page)}

/-- The posts that a load delivers have no flags yet, and all are checked. -/
theorem Progress.awaits (progress : Progress now store work load posts)
    (rest : List (Posted (Job.call currentUid page))) : mark.Awaits (truth currentUid store)
      (Checked (rest ++ issue (Job.call currentUid page) (checks load posts))) posts := by
  refine Flag.awaits_of_clear (fun post member => ?_) fun post member _ => ?_
  · obtain ⟨-, data, -, decoded⟩ := progress.listed post member
    rw [decoded]
    rfl
  · exact underway_issue (List.mem_map_of_mem member) ⟨load, rfl⟩

/-- The right answer to a check sets the flag that waits for it. -/
theorem awaits_assign {snapshot : Option Dictionary}
    (awaits : mark.Awaits (truth currentUid store) (Checked (before ++
      (⟨.like load postId, some (.ok snapshot)⟩ : Posted (Job.call currentUid page)) :: after)) posts)
    (distinct : (posts.map mark.key).Nodup)
    (right : snapshot.isSome = store.has (.userLike currentUid postId)) :
    mark.Awaits (truth currentUid store) (Checked (before ++ after))
      (mark.assign postId snapshot.isSome posts) := by
  refine awaits.assign distinct (fun _ _ => rfl) (fun post member same => ?_) ?_
  · obtain rfl : post.postId = postId := same
    exact right.symm
  · intro other apart checked
    exact Underway.rest checked fun ⟨load, same⟩ => apart (Job.like.inj same).2.symm

end Flags

section Lists

/-- The captured lists of the loads so far, and where the jobs in flight find theirs. -/
structure Lists (app : App) (work : List (Posted (Job.call currentUid page))) (lists : List Ref) :
    Prop where
  apart : lists.Nodup
  placed : ∀ posted ∈ work, posted.job.load < lists.length ∧
    ∀ list ∈ posted.job.list?, lists[posted.job.load]? = some list
  captured : ∀ list ∈ lists, ∃ posts, app.find? (List Post) list = some posts

variable {lists : List Ref} {later : App}

/-- Each list belongs to one load. -/
theorem Lists.unique (captures : Lists app work lists) {other : ℕ}
    (here : lists[load]? = some list) (there : lists[other]? = some list) : load = other :=
  (List.getElem?_inj (List.getElem?_eq_some_iff.mp here).1 captures.apart).mp (here.trans there.symm)

theorem Lists.serve {job : Job} {answer}
    (captures : Lists app (before ++ ⟨job, none⟩ :: after) lists) :
    Lists app (before ++ (⟨job, some answer⟩ : Posted (Job.call currentUid page)) :: after) lists := by
  refine ⟨captures.apart, fun posted member => ?_, captures.captured⟩
  rcases List.mem_append.mp member with member | member
  · exact captures.placed posted (by simp [member])
  rcases List.mem_cons.mp member with rfl | member
  · exact captures.placed ⟨job, none⟩ (by simp)
  · exact captures.placed posted (by simp [member])

/-- Jobs that descend from a job stand where it stood. -/
theorem Lists.rest {posted : Posted (Job.call currentUid page)} {jobs : List Job}
    (captures : Lists app (before ++ posted :: after) lists)
    (mine : ∀ job ∈ jobs, job.load = posted.job.load ∧ ∀ list ∈ job.list?, list ∈ posted.job.list?)
    (still : ∀ list ∈ lists, ∃ posts, later.find? (List Post) list = some posts) :
    Lists later (before ++ after ++ issue (Job.call currentUid page) jobs) lists := by
  refine ⟨captures.apart, fun other member => ?_, still⟩
  rcases List.mem_append.mp member with member | member
  · exact captures.placed other (mem_rest member)
  · obtain ⟨same, place⟩ := mine _ (mem_issue.mp member).1
    obtain ⟨bound, placed⟩ := captures.placed posted (by simp)
    rw [same]
    exact ⟨bound, fun list member => placed list (place list member)⟩

/-- A load allocates a list of its own. -/
theorem Lists.fetch (captures : Lists app work lists) :
    Lists (app.add (Instance.inject ([] : List Post)) false)
      (work ++ issue (Job.call currentUid page) [.feeds lists.length app.objects.length])
      (lists ++ [app.objects.length]) := by
  refine ⟨?_, fun posted member => ?_, fun list member => ?_⟩
  · refine List.nodup_append.mpr ⟨captures.apart, List.nodup_singleton _, ?_⟩
    rintro list listed _ member rfl
    obtain rfl := List.mem_singleton.mp member
    obtain ⟨posts, captured⟩ := captures.captured _ listed
    exact absurd (App.lt_length_of_find? captured) (lt_irrefl _)
  · rw [List.length_append, List.length_singleton]
    rcases List.mem_append.mp member with member | member
    · obtain ⟨bound, placed⟩ := captures.placed posted member
      refine ⟨by omega, fun list listed => ?_⟩
      rw [List.getElem?_append_left bound, placed list listed]
    · obtain rfl := List.mem_singleton.mp member
      refine ⟨by simp [Job.load], ?_⟩
      rintro _ ⟨⟩
      simp [Job.load]
  · rcases List.mem_append.mp member with member | member
    · obtain ⟨posts, captured⟩ := captures.captured list member
      exact ⟨posts, App.find?_add captured _ _⟩
    · obtain rfl := List.mem_singleton.mp member
      exact ⟨[], App.find?_add_new app ([] : List Post) false⟩

end Lists

end Progress

section Callback

/-- What the callback of a job does on the device: nothing, or the feed shows posts, which the list
of the load may now hold. -/
inductive Shows (page : Ref) (job : Job) (app : App) : App → Prop
  | rest : Shows page job app app
  | display (posts : List Post) : Shows page job app (display page posts app)
  | hand {list : Ref} (listed : list ∈ job.list?) (posts : List Post) :
      Shows page job app (hand page list posts app)

variable {job : Job} {later : App}

namespace Shows

theorem currentUser (shows : Shows page job app later) : later.currentUser = app.currentUser := by
  cases shows <;> rfl

theorem now (shows : Shows page job app later) : later.now = app.now := by
  cases shows <;> rfl

/-- The feed changes what it shows only. -/
theorem find?_feed (shows : Shows page job app later) {feed : FeedController}
    (found : app.find? FeedController page = some feed) :
    ∃ posts, later.find? FeedController page = some { feed with posts } := by
  cases shows with
  | rest => exact ⟨feed.posts, found⟩
  | display posts => exact ⟨posts, find?_display found posts⟩
  | hand _ posts => exact ⟨posts, find?_hand_page found posts⟩

/-- The lists of other loads stay as they are. -/
theorem list_other (shows : Shows page job app later) {other : Ref} (apart : other ∉ job.list?) :
    later.find? (List Post) other = app.find? (List Post) other := by
  cases shows with
  | rest => rfl
  | display posts => exact App.find?_modify_other (fun _ => rfl) ..
  | hand listed posts =>
    refine find?_hand_other ?_ posts
    rintro rfl
    exact apart listed

theorem captured (shows : Shows page job app later) {other : Ref}
    (captured : ∃ posts, app.find? (List Post) other = some posts) :
    ∃ posts, later.find? (List Post) other = some posts := by
  cases shows with
  | rest => exact captured
  | display posts =>
    obtain ⟨before, captured⟩ := captured
    exact ⟨before, (App.find?_modify_other (fun _ => rfl) ..).trans captured⟩
  | hand listed posts => exact captured_hand captured posts

end Shows

/-- The callback of a job, whatever its answer is: it issues jobs of its own load. -/
theorem callback_run (signedIn : app.currentUser = some currentUid)
    (found : app.find? FeedController page = some feed) (all : feed.post = none)
    (captured : ∀ list ∈ job.list?, ∃ posts, app.find? (List Post) list = some posts) (answer) :
    ∃ (later : App) (jobs : List Job), ((job.call currentUid page).callback answer).run app =
        ⟨some later, jobs.map (Job.call currentUid page), []⟩ ∧
      (∀ other ∈ jobs, other.load = job.load ∧ ∀ list ∈ other.list?, list ∈ job.list?) ∧
      Shows page job app later := by
  have checked (load : ℕ) (posts : List Post) (job : Job) : ∀ other ∈ checks load posts,
      other.load = load ∧ ∀ list ∈ other.list?, list ∈ job.list? := by
    intro other member
    obtain ⟨post, -, rfl⟩ := List.mem_map.mp member
    exact ⟨rfl, nofun⟩
  cases job with
  | feeds load list =>
    obtain ⟨posts, held⟩ := captured list rfl
    match answer with
    | .error _ =>
      refine ⟨_, _, ?_, checked load posts _, .hand rfl posts⟩
      rw [hand, App.modify_eq_self held rfl]
      simp only [Job.call, Code.withObject, Program.run_inspect, held]
      exact deliver_run signedIn found all load posts
    | .ok [] =>
      exact ⟨_, _, feeds_run_nil signedIn found all held, checked load posts _, .hand rfl posts⟩
    | .ok (document :: documents) =>
      refine ⟨_, _, feeds_run_cons document documents, fun other member => ?_, .rest⟩
      obtain ⟨document, -, rfl⟩ := List.mem_map.mp member
      exact ⟨rfl, fun _ => id⟩
  | post load list postId =>
    obtain ⟨posts, held⟩ := captured list rfl
    match answer with
    | .error _ => exact ⟨app, [], rfl, nofun, .rest⟩
    | .ok none => exact ⟨app, [], rfl, nofun, .rest⟩
    | .ok (some data) =>
      exact ⟨_, _, post_run signedIn found all held postId data, checked load _ _, .hand rfl _⟩
  | like load postId =>
    match answer with
    | .error _ => exact ⟨app, [], rfl, nofun, .rest⟩
    | .ok snapshot =>
      exact ⟨_, [], like_run found load postId snapshot, nofun, .display _⟩

end Callback

section Page

/-- The feed appears, or is pulled down. -/
inductive LoadAction where
  | viewDidLoad
  | onTapRefresh

def LoadAction.perform (page : Ref) : LoadAction → Code App
  | viewDidLoad => FeedController.viewDidLoad page
  | onTapRefresh => FeedController.onTapRefresh page

/-- All loads run on the one device. -/
abbrev host (_ : ℕ) : Unit := ()

/-- The posts that the feed shows. -/
def shown (page : Ref) (net : Network cloud App ℕ Unit) : List Post :=
  ((net.clients ()).bind fun app => app.find? FeedController page).elim [] FeedController.posts

/-- A session on an empty feed page with nothing in flight. -/
structure Opened (currentUid : Uid) (page : Ref) (net : Network cloud App ℕ Unit) : Prop where
  idle : net.flight = []
  quiet : net.listeners = []
  client : ∃ app, net.clients () = some app ∧ app.currentUser = some currentUid ∧
    app.find? FeedController page = some ⟨[], none⟩

theorem shown_working {feed : FeedController} (found : app.find? FeedController page = some feed) :
    shown page (.working Job.load store app work) = feed.posts := by
  simp [shown, found]

end Page

end FeedWork

end InstagramClone
