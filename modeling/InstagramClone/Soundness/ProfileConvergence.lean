import InstagramClone.Async.Filling
import InstagramClone.Model.Contracts
import InstagramClone.Soundness.FollowWork
import InstagramClone.Soundness.PostListings

/-! # What a profile page shows

A profile page asks whether its account is followed, for three counts, one after the other, and for
the account's posts. However often it is loaded and in whatever order the answers come, nothing that
it or its header shows is ever wrong, only missing, and all of it is there when nothing is in flight.
-/

namespace InstagramClone

open Async
open FollowWork (setStats setPosts)

namespace ProfileConvergence

inductive Slot where
  | isFollowed
  | stats
  | posts

/-- What a load is waiting for; the counts that it has already come with it. -/
inductive Job where
  | isFollowed
  | followers
  | following (followers : ℕ)
  | stats (followers following : ℕ)
  | posts

def Job.slot : Job → Slot
  | isFollowed => .isFollowed
  | followers | following _ | stats .. => .stats
  | posts => .posts

def Job.call (currentUid uid : Uid) (page : Ref) : Job → Call firebase App
  | isFollowed => ⟨.getDocument (.following currentUid uid), fun
      | .ok snapshot => ProfileController.setIsFollowed page snapshot.isSome
      | .error _ => .done⟩
  | followers => ⟨.getDocuments { collection := .userFollowers uid }, fun followers =>
      Code.call (.getDocuments { collection := .userFollowing uid }) fun following =>
        Code.call (.getDocuments (PostService.ownedBy uid)) fun posts =>
          setStats page
            ⟨UserService.count followers, UserService.count following, UserService.count posts⟩⟩
  | following first => ⟨.getDocuments { collection := .userFollowing uid }, fun following =>
      Code.call (.getDocuments (PostService.ownedBy uid)) fun posts =>
        setStats page ⟨first, UserService.count following, UserService.count posts⟩⟩
  | stats first second => ⟨.getDocuments (PostService.ownedBy uid), fun posts =>
      setStats page ⟨first, second, UserService.count posts⟩⟩
  | posts => ⟨.getDocuments (PostService.ownedBy uid), fun
      | .error _ => .done
      | .ok documents => Code.withTimestamp fun now => setPosts page now documents⟩

variable {currentUid uid : Uid} {page : Ref} {app : App} {profile : ProfileController}
  {now : Timestamp} {store : Cloud}

section Answers

/-- The stored counts of an account. -/
def stats (store : Cloud) (uid : Uid) : UserStats :=
  ⟨store.firestore.count (.userFollowers uid), store.firestore.count (.userFollowing uid),
    (PostService.ownedBy uid).selected store.firestore⟩

/-- These are the stored posts of the account, each once and newest first by whole seconds. -/
structure Listing (now : Timestamp) (store : Cloud) (uid : Uid) (posts : List Post) : Prop where
  nodup : (posts.map Post.postId).Nodup
  mem_iff : ∀ post, post ∈ posts ↔ ∃ data,
    store.firestore.lookup (.post post.postId) = some data ∧
      data "ownerUid" = some (.string uid) ∧ post = Post.ofDictionary now post.postId data
  newest : posts.Pairwise fun first second => second.timestamp.seconds ≤ first.timestamp.seconds

private theorem listing_of_answer {order : List DocumentReference} {documents : List Document}
    (answered : (PostService.ownedBy uid).answer? store.firestore order = some documents) :
    Listing now store uid ((PostService.decode now documents).mergeSort PostListings.notEarlier) := by
  have perm := List.mergeSort_perm (PostService.decode now documents) PostListings.notEarlier
  constructor
  · rw [(perm.map Post.postId).nodup_iff, PostService.decode, List.map_map]
    exact Query.answer?_nodup answered
  · intro post
    rw [perm.mem_iff, PostService.decode, List.mem_map]
    constructor
    · rintro ⟨document, member, rfl⟩
      obtain ⟨reference, ⟨parent, owned, -⟩, stored, id⟩ :=
        (Query.mem_answer? answered document).mp member
      have path : reference = .post document.documentID := by
        rw [← id, ← reference.parent_document, parent]
        rfl
      rw [path] at stored owned
      refine ⟨document.data, stored, ?_, rfl⟩
      simpa [stored] using owned _ rfl
    · rintro ⟨data, stored, owned, formed⟩
      refine ⟨⟨post.postId, data⟩, (Query.mem_answer? answered _).mpr ?_, formed.symm⟩
      refine ⟨.post post.postId, ⟨rfl, ?_, ?_⟩, stored, rfl⟩
      · rintro filter ⟨⟩
        simp [stored, owned]
      · rintro field ⟨⟩
  · have sorted := List.pairwise_mergeSort PostListings.notEarlier_trans
      PostListings.notEarlier_total (PostService.decode now documents)
    exact sorted.imp fun later => of_decide_eq_true later

end Answers

section Page

/-- What is shown of the account is not wrong: it is followed if it says so, and its counts are the
stored ones, or not there yet. -/
structure Shows (currentUid uid : Uid) (store : Cloud) (user : User) : Prop where
  account : user.uid = uid
  isFollowed : user.isFollowed = true → store.has (.following currentUid uid) = true
  stats : user.stats = ⟨0, 0, 0⟩ ∨ user.stats = stats store uid

/-- The page has the right content in the slot. -/
def Right (currentUid uid : Uid) (now : Timestamp) (store : Cloud) (profile : ProfileController) :
    Slot → Prop
  | .isFollowed => profile.user.isFollowed = store.has (.following currentUid uid)
  | .stats => profile.user.stats = stats store uid
  | .posts => Listing now store uid profile.posts

/-- Neither the page nor its header shows anything wrong. -/
structure Sincere (currentUid uid : Uid) (now : Timestamp) (store : Cloud)
    (profile : ProfileController) : Prop where
  user : Shows currentUid uid store profile.user
  posts : profile.posts = [] ∨ Listing now store uid profile.posts
  header : ∀ header ∈ profile.header, Shows currentUid uid store header

/-- The session shows a sincere page. -/
structure Valid (currentUid uid : Uid) (page : Ref) (now : Timestamp) (store : Cloud) (app : App) :
    Prop where
  signedIn : app.currentUser = some currentUid
  clock : app.now = now
  page : ∃ profile, app.find? ProfileController page = some profile ∧
    Sincere currentUid uid now store profile

/-- The slot of the page is filled. -/
def Filled (currentUid uid : Uid) (page : Ref) (now : Timestamp) (store : Cloud) (slot : Slot)
    (app : App) : Prop :=
  ∃ profile, app.find? ProfileController page = some profile ∧
    Right currentUid uid now store profile slot

/-- The counts that came with a job are the stored ones, and so is what it is answered. -/
def Told (store : Cloud) : Posted (Job.call currentUid uid page) → Prop
  | ⟨.isFollowed, answer⟩ =>
    ∀ reply ∈ answer, reply = Except.ok (store.firestore.lookup (.following currentUid uid))
  | ⟨.followers, answer⟩ => ∀ reply ∈ answer, UserService.count reply = (stats store uid).followers
  | ⟨.following followers, answer⟩ => followers = (stats store uid).followers ∧
    ∀ reply ∈ answer, UserService.count reply = (stats store uid).following
  | ⟨.stats followers following, answer⟩ => followers = (stats store uid).followers ∧
    following = (stats store uid).following ∧
    ∀ reply ∈ answer, UserService.count reply = (stats store uid).posts
  | ⟨.posts, answer⟩ => ∀ reply ∈ answer, ∃ (order : List DocumentReference)
      (documents : List Document), (PostService.ownedBy uid).answer? store.firestore order =
        some documents ∧ reply = Except.ok documents

/-- A query is answered with as many documents as it selects. -/
private theorem count_of_resolve {query : Query} {order : List DocumentReference} {fresh : String}
    {transfer : Transfer}
    {later : Cloud} {answer : Except BackendError (List Document)}
    (resolved : (Request.getDocuments query).resolve order fresh transfer store = some (later, answer)) :
    later = store ∧ UserService.count answer = query.selected store.firestore := by
  obtain ⟨documents, answered, same⟩ := Option.map_eq_some_iff.mp resolved
  obtain ⟨rfl, rfl⟩ := Prod.mk.inj same
  exact ⟨rfl, Query.length_eq_selected answered⟩

private theorem told_serve {job : Job} {choice : Choice} {later : Cloud} {answer}
    (succeeds : choice.succeeds = true)
    (told : Told store (⟨job, none⟩ : Posted (Job.call currentUid uid page)))
    (served : cloud.serve choice store (job.call currentUid uid page).request =
      some (later, answer)) :
    later = store ∧ Told store (⟨job, some answer⟩ : Posted (Job.call currentUid uid page)) := by
  obtain ⟨order, fresh, transfer, resolved⟩ := serve_succeeds succeeds served
  cases job with
  | isFollowed =>
    obtain ⟨rfl, rfl⟩ := Prod.mk.inj (Option.some.inj resolved)
    refine ⟨rfl, ?_⟩
    rintro _ ⟨⟩
    rfl
  | followers =>
    obtain ⟨rfl, counted⟩ := count_of_resolve resolved
    refine ⟨rfl, ?_⟩
    rintro _ ⟨⟩
    exact counted.trans (Query.selected_collection ..)
  | following followers =>
    obtain ⟨rfl, counted⟩ := count_of_resolve resolved
    refine ⟨rfl, told.1, ?_⟩
    rintro _ ⟨⟩
    exact counted.trans (Query.selected_collection ..)
  | stats followers following =>
    obtain ⟨rfl, counted⟩ := count_of_resolve resolved
    refine ⟨rfl, told.1, told.2.1, ?_⟩
    rintro _ ⟨⟩
    exact counted
  | posts =>
    obtain ⟨documents, answered, same⟩ := Option.map_eq_some_iff.mp resolved
    obtain ⟨rfl, rfl⟩ := Prod.mk.inj same
    refine ⟨rfl, ?_⟩
    rintro _ ⟨⟩
    exact ⟨order, documents, answered, rfl⟩

/-- A change of the page that makes it show the right content in a slot, and leaves the others. -/
structure Fills (currentUid uid : Uid) (now : Timestamp) (store : Cloud) (slot : Slot)
    (change : ProfileController → ProfileController) : Prop where
  sincere : ∀ profile, Sincere currentUid uid now store profile →
    Sincere currentUid uid now store (change profile)
  right : ∀ profile, Right currentUid uid now store (change profile) slot
  others : ∀ profile other, other ≠ slot → Right currentUid uid now store profile other →
    Right currentUid uid now store (change profile) other

private theorem Fills.show {change : ProfileController → ProfileController} {slot : Slot}
    (fills : Fills currentUid uid now store slot change)
    (valid : Valid currentUid uid page now store app) :
    Valid currentUid uid page now store (app.modify page change) ∧
      (∀ other, Filled currentUid uid page now store other app →
        Filled currentUid uid page now store other (app.modify page change)) ∧
      Filled currentUid uid page now store slot (app.modify page change) := by
  obtain ⟨signedIn, clock, profile, shown, honest⟩ := valid
  have changed : (app.modify page change).find? ProfileController page = some (change profile) := by
    rw [App.find?_modify, shown]
    rfl
  refine ⟨⟨signedIn, clock, change profile, changed, fills.sincere profile honest⟩, ?_,
    change profile, changed, fills.right profile⟩
  rintro other ⟨found, same, right⟩
  obtain rfl := Option.some.inj (shown.symm.trans same)
  refine ⟨change profile, changed, ?_⟩
  by_cases here : other = slot
  · exact here ▸ fills.right profile
  · exact fills.others profile other here right

private theorem fills_isFollowed : Fills currentUid uid now store .isFollowed fun profile =>
    { profile with user := { profile.user with
      isFollowed := (store.firestore.lookup (.following currentUid uid)).isSome } } := by
  constructor
  · rintro profile ⟨⟨account, -, counts⟩, posts, header⟩
    refine ⟨⟨account, fun follows => ?_, counts⟩, posts, header⟩
    rwa [← isSome_lookup]
  · exact fun profile => isSome_lookup ..
  · rintro profile (_ | _ | _) apart right
    · exact absurd rfl apart
    · exact right
    · exact right

private theorem fills_stats {counts : UserStats} (same : counts = stats store uid) :
    Fills currentUid uid now store .stats fun profile =>
      { profile with user := { profile.user with stats := counts } } := by
  constructor
  · rintro profile ⟨⟨account, follows, -⟩, posts, header⟩
    exact ⟨⟨account, follows, .inr same⟩, posts, header⟩
  · exact fun profile => same
  · rintro profile (_ | _ | _) apart right
    · exact right
    · exact absurd rfl apart
    · exact right

private theorem fills_posts {posts : List Post} (listing : Listing now store uid posts) :
    Fills currentUid uid now store .posts fun profile => { profile with posts } := by
  constructor
  · rintro profile ⟨user, -, header⟩
    exact ⟨user, .inr listing, header⟩
  · exact fun profile => listing
  · rintro profile (_ | _ | _) apart right
    · exact right
    · exact right
    · exact absurd rfl apart

/-- The answer to a job fills its slot, or leads to the next count. -/
private theorem deliver {job : Job} {answer : (job.call currentUid uid page).request.Response}
    (valid : Valid currentUid uid page now store app)
    (told : Told store (⟨job, some answer⟩ : Posted (Job.call currentUid uid page))) :
    ∃ (later : App) (jobs : List Job), ((job.call currentUid uid page).callback answer).run app =
        ⟨some later, jobs.map (Job.call currentUid uid page), []⟩ ∧
      Valid currentUid uid page now store later ∧
      (∀ slot, Filled currentUid uid page now store slot app →
        Filled currentUid uid page now store slot later) ∧
      (∀ other ∈ jobs, other.slot = job.slot ∧
        Told store (⟨other, none⟩ : Posted (Job.call currentUid uid page))) ∧
      (jobs = [] → Filled currentUid uid page now store job.slot later) := by
  cases job with
  | isFollowed =>
    obtain rfl := told answer rfl
    obtain ⟨still, kept, filled⟩ := fills_isFollowed.show valid
    exact ⟨_, [], rfl, still, kept, by simp, fun _ => filled⟩
  | followers =>
    refine ⟨app, [.following (UserService.count answer)], rfl, valid, fun _ => id, ?_, by simp⟩
    intro other member
    obtain rfl := List.mem_singleton.mp member
    exact ⟨rfl, told answer rfl, fun reply none => by cases none⟩
  | following followers =>
    refine ⟨app, [.stats followers (UserService.count answer)], rfl, valid, fun _ => id, ?_, by simp⟩
    intro other member
    obtain rfl := List.mem_singleton.mp member
    exact ⟨rfl, told.1, told.2 answer rfl, fun reply none => by cases none⟩
  | stats followers following =>
    have same : (⟨followers, following, UserService.count answer⟩ : UserStats) = stats store uid := by
      rw [told.1, told.2.1, told.2.2 answer rfl]
    obtain ⟨still, kept, filled⟩ := (fills_stats same).show valid
    exact ⟨_, [], rfl, still, kept, by simp, fun _ => filled⟩
  | posts =>
    obtain ⟨order, documents, answered, rfl⟩ := told answer rfl
    obtain ⟨still, kept, filled⟩ := (fills_posts (listing_of_answer answered)).show valid
    refine ⟨_, [], ?_, still, kept, by simp, fun _ => filled⟩
    rw [← valid.clock]
    rfl

/-- The loads of a page fill its slots. -/
def filling (currentUid uid : Uid) (page : Ref) (now : Timestamp) (store : Cloud) :
    Filling cloud (Job.call currentUid uid page) store Slot where
  slot := Job.slot
  chosen choice := choice.succeeds = true
  valid := Valid currentUid uid page now store
  filled := Filled currentUid uid page now store
  right := Told store
  serve := told_serve
  deliver := deliver

end Page

section Code

/-- What happens to the page: it is loaded, or its header is laid out. -/
inductive PageAction where
  | viewDidLoad
  | viewForHeader

def PageAction.perform (page : Ref) : PageAction → Code App
  | viewDidLoad => ProfileController.viewDidLoad page
  | viewForHeader => ProfileController.viewForHeader page

/-- The slots that an action asks for. -/
def PageAction.asks : PageAction → Slot → Prop
  | viewDidLoad, _ => True
  | viewForHeader, _ => False

private theorem viewDidLoad_run (valid : Valid currentUid uid page now store app) :
    (ProfileController.viewDidLoad page).run app =
      ⟨some app, [.isFollowed, .followers, .posts].map (Job.call currentUid uid page), []⟩ := by
  obtain ⟨profile, shown, honest⟩ := valid.page
  have isFollowed : (FollowWork.Job.check : FollowWork.Job uid).call currentUid page =
      Job.isFollowed.call currentUid uid page := by
    refine congrArg (@Call.mk firebase App (Request.getDocument (.following currentUid uid))) (funext ?_)
    intro answer
    cases answer <;> rfl
  have posts : (FollowWork.Job.posts : FollowWork.Job uid).call currentUid page =
      Job.posts.call currentUid uid page := by
    refine congrArg (@Call.mk firebase App (Request.getDocuments (PostService.ownedBy uid))) (funext ?_)
    intro answer
    cases answer <;> rfl
  refine (FollowWork.viewDidLoad_run valid.signedIn shown honest.user.account).trans ?_
  simp only [FollowWork.reads, List.map_cons, isFollowed, posts]
  rfl

/-- The header gets what the page shows. -/
private theorem Valid.viewForHeader (valid : Valid currentUid uid page now store app) :
    ∃ later, (ProfileController.viewForHeader page).run app = ⟨some later, [], []⟩ ∧
      Valid currentUid uid page now store later ∧
      ∀ slot, Filled currentUid uid page now store slot app →
        Filled currentUid uid page now store slot later := by
  obtain ⟨signedIn, clock, profile, shown, honest⟩ := valid
  refine ⟨_, rfl, ⟨signedIn, clock, { profile with header := some profile.user }, ?_, honest.user,
    honest.posts, ?_⟩, ?_⟩
  · rw [App.find?_modify, shown]
    rfl
  · intro header given
    obtain rfl := Option.some.inj given
    exact honest.user
  · rintro slot ⟨found, same, right⟩
    obtain rfl := Option.some.inj (shown.symm.trans same)
    refine ⟨{ profile with header := some profile.user }, ?_, ?_⟩
    · rw [App.find?_modify, shown]
      rfl
    · cases slot <;> exact right

private theorem PageAction.run (action : PageAction)
    (valid : Valid currentUid uid page now store app) :
    ∃ (later : App) (jobs : List Job), (action.perform page).run app =
        ⟨some later, jobs.map (Job.call currentUid uid page), []⟩ ∧
      Valid currentUid uid page now store later ∧
      (∀ slot, Filled currentUid uid page now store slot app →
        Filled currentUid uid page now store slot later) ∧
      (∀ job ∈ jobs, Told store (⟨job, none⟩ : Posted (Job.call currentUid uid page))) ∧
      ∀ slot, action.asks slot → ∃ job ∈ jobs, job.slot = slot := by
  cases action with
  | viewDidLoad =>
    refine ⟨app, _, viewDidLoad_run valid, valid, fun _ => id, ?_, ?_⟩
    · intro job member
      simp only [List.mem_cons, List.not_mem_nil, or_false] at member
      rcases member with rfl | rfl | rfl <;> simp [Told]
    · rintro (_ | _ | _) - <;> simp [Job.slot]
  | viewForHeader =>
    obtain ⟨later, ran, still, kept⟩ := valid.viewForHeader
    exact ⟨later, [], ran, still, kept, by simp, fun slot asks => asks.elim⟩

end Code

section Run

/-- The page acts, or a signal without a failure comes. -/
def profileStep? (page : Ref) (net : Network cloud App Unit Unit)
    (event : Event cloud Unit PageAction) : Option (Network cloud App Unit Unit) :=
  match event with
  | .act client action => some (net.launch id client (action.perform page))
  | .signal signal => if succeeds signal then net.signal? id signal else none

/-- A session with a page of the account that shows nothing yet, and nothing in flight. -/
structure Opened (currentUid uid : Uid) (page : Ref) (net : Network cloud App Unit Unit) : Prop where
  idle : net.flight = []
  quiet : net.listeners = []
  client : ∃ app profile, net.clients () = some app ∧ app.currentUser = some currentUid ∧
    app.find? ProfileController page = some profile ∧ profile.user.uid = uid ∧
    profile.user.isFollowed = false ∧ profile.user.stats = ⟨0, 0, 0⟩ ∧ profile.posts = [] ∧
    profile.header = none

variable {start net : Network cloud App Unit Unit} {events : List (Event cloud Unit PageAction)}

/-- However often the page is loaded and in whatever order the answers come, neither the page nor its
header shows anything wrong, and after a load the page is right once nothing is in flight. -/
theorem profile_converges (opened : Opened currentUid uid page start)
    (run : Run (fun net event next => profileStep? page net event = some next) start events net) :
    net.store = start.store ∧ ∃ app profile, net.clients () = some app ∧
      app.find? ProfileController page = some profile ∧
      Sincere currentUid uid app.now start.store profile ∧
      (net.flight = [] → .act () .viewDidLoad ∈ events →
        (profile.user.isFollowed = true ↔ .following currentUid uid ∈ start.store.firestore) ∧
        profile.user.stats = stats start.store uid ∧
        Listing app.now start.store uid profile.posts) := by
  obtain ⟨app, profile, running, signedIn, shown, account, unmarked, uncounted, unlisted, unlaid⟩ :=
    opened.client
  have empty : Valid currentUid uid page app.now start.store app :=
    ⟨signedIn, rfl, profile, shown, ⟨account, by simp [unmarked], .inl uncounted⟩, .inl unlisted,
      by simp [unlaid]⟩
  have works : (filling currentUid uid page app.now start.store).Works
      (fun _ => .act () .viewDidLoad ∈ events) net := by
    refine run.history (fun past net => (filling currentUid uid page app.now start.store).Works
      (fun _ => .act () .viewDidLoad ∈ past) net)
      (Filling.works_of_idle running opened.idle opened.quiet rfl empty (by simp)) ?_
    rintro past net event next taken works
    cases event with
    | act client action =>
      obtain rfl := Option.some.inj taken
      refine (works.launch fun _ valid => action.run valid).mono fun slot wanted => ?_
      cases action <;> simp_all [PageAction.asks]
    | signal signal =>
      simp only [profileStep?] at taken
      split_ifs at taken with allowed
      refine (works.signal (chosen_of_succeeds allowed) taken).mono fun slot wanted => ?_
      simpa using wanted
  obtain ⟨rests, later, runs, valid, filled⟩ := works.over
  obtain ⟨current, still, honest⟩ := valid.page
  refine ⟨rests, later, current, runs, still, valid.clock ▸ honest, fun idle loaded => ?_⟩
  have right (slot : Slot) : Right currentUid uid app.now start.store current slot := by
    obtain ⟨found, present, right⟩ := filled idle slot loaded
    obtain rfl := Option.some.inj (still.symm.trans present)
    exact right
  refine ⟨?_, right .stats, valid.clock ▸ right .posts⟩
  rw [show current.user.isFollowed = _ from right .isFollowed, Cloud.has_iff]

/-- Somebody looks at the profile of a user whom it follows and who has one post. -/
def visited : Network cloud App Unit Unit where
  store :=
    { firestore := (((∅ : Firestore).insert (.post "p")
        (PostService.data "" ⟨1, 0⟩ "" "v" ⟨"", "", "", "", "v", ⟨0, 0, 0⟩, false⟩)).insert
        (.following "u" "v") .empty).insert (.follower "v" "u") .empty }
  clients := fun _ => some
    { currentUser := some "u",
      objects := [⟨.profile { user := ⟨"", "", "", "", "v", ⟨0, 0, 0⟩, false⟩ }, true⟩] }

/-- The page is loaded twice, and the answers to the second load come first. -/
def overlapping : List (Event cloud Unit PageAction) :=
  let post : Choice := .answer [.post "p"] ""
  let follower : Choice := .answer [.follower "v" "u"] ""
  let ok : Choice := .answer [] ""
  [.act () .viewDidLoad, .act () .viewDidLoad, .signal (.serve 5 post), .signal (.deliver 5),
    .signal (.serve 4 follower), .signal (.deliver 4), .signal (.serve 4 ok),
    .signal (.deliver 4), .signal (.serve 4 post), .signal (.deliver 4), .signal (.serve 3 ok),
    .signal (.deliver 3), .act () .viewForHeader, .signal (.serve 0 ok), .signal (.deliver 0),
    .signal (.serve 1 post), .signal (.deliver 1), .signal (.serve 0 follower),
    .signal (.deliver 0), .signal (.serve 0 ok), .signal (.deliver 0), .signal (.serve 0 post),
    .signal (.deliver 0)]

/-- The page is loaded twice, and the answers to the later load come first. -/
theorem profile_converges_overlapping :
    ∃ net, Run (fun net event next => profileStep? 0 net event = some next) visited overlapping
        net ∧
      ∃ app profile, net.clients () = some app ∧ app.find? ProfileController 0 = some profile ∧
        Sincere "u" "v" app.now visited.store profile ∧ profile.user.isFollowed = true ∧
        profile.user.stats = stats visited.store "v" ∧
        Listing app.now visited.store "v" profile.posts := by
  have completes : (replay? (profileStep? 0) visited overlapping).any
      (fun net => decide (net.flight.isEmpty = true)) = true := by
    decide +kernel
  obtain ⟨net, run, idle⟩ := exists_run_of_replay? completes
  have opened : Opened "u" "v" 0 visited :=
    ⟨rfl, rfl, _, _, rfl, rfl, rfl, rfl, rfl, rfl, rfl, rfl⟩
  obtain ⟨-, app, profile, running, shown, honest, ended⟩ := profile_converges opened run
  obtain ⟨marked, counted, listed⟩ :=
    ended (List.isEmpty_iff.mp idle) (List.mem_cons_self ..)
  have stored : (.following "u" "v" : DocumentReference) ∈ visited.store.firestore := by
    decide +kernel
  exact ⟨net, run, app, profile, running, shown, honest, marked.mpr stored, counted, listed⟩

end Run

end ProfileConvergence

end InstagramClone
