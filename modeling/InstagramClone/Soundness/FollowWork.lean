import InstagramClone.Async.Work
import InstagramClone.Controller.ProfileController
import InstagramClone.Soundness.MirroredDocuments

/-! # The work of a profile page's follow button

A tap writes the edge of the follow and then its mirror. When that is acknowledged, the page shows
the new state and the posts of the account are asked for, each of which gets its entry of the feed
written or deleted. A page that appears asks whether its account is followed, for its statistics
and for its posts.
-/

namespace InstagramClone

open Async

namespace FollowWork

/-- A tap for the account, by a header that carries some copy of its user. -/
structure Tap (uid : Uid) where
  number : ℕ
  user : User
  currentUser : User
  about : user.uid = uid

/-- What the tap asks for. -/
def Tap.follows {uid : Uid} (tap : Tap uid) : Bool := !tap.user.isFollowed

/-- A read of a page that appears, or a request of a tap. -/
inductive Job (uid : Uid) where
  | check
  | followers
  | following (followers : ℕ)
  | owned (followers following : ℕ)
  | posts
  | edge (tap : Tap uid)
  | mirror (tap : Tap uid)
  | notice (tap : Tap uid) (data : String → Dictionary)
  | query (tap : Tap uid)
  | entry (tap : Tap uid) (postId : PostId)

variable {currentUid uid : Uid} {page : Ref} {app : App}

/-- What the controller does when the mirror is written. -/
def completion (page : Ref) (tap : Tap uid) : Code App :=
  if tap.user.isFollowed then
    .seq (ProfileController.setIsFollowed page false) <| PostService.removeUserFeed tap.user
  else
    .seq (ProfileController.setIsFollowed page true) <|
    .seq (NotificationService.addNotification tap.user.uid tap.currentUser .follow) <|
    PostService.updateUserFeed tap.user

/-- `self.user.stats = stats` -/
def setStats (page : Ref) (stats : UserStats) : Code App :=
  Code.modify page fun profile : ProfileController =>
    { profile with user := { profile.user with stats } }

/-- `self.posts = posts`, the newest first. -/
def setPosts (page : Ref) (now : Timestamp) (documents : List Document) : Code App :=
  Code.modify page fun profile : ProfileController =>
    { profile with posts := (PostService.decode now documents).mergeSort fun first second =>
        first.timestamp.seconds ≥ second.timestamp.seconds }

namespace Job

/-- The number of the tap, 0 for the reads of the page. -/
def origin : Job uid → ℕ
  | edge tap | mirror tap | notice tap _ | query tap | entry tap _ => tap.number
  | _ => 0

/-- The request, with what the services and the controller do when it is answered. -/
def call (currentUid : Uid) (page : Ref) : Job uid → Call firebase App
  | check => ⟨.getDocument (.following currentUid uid), fun
      | .ok snapshot => ProfileController.setIsFollowed page snapshot.isSome
      | .error _ => .done⟩
  | followers => ⟨.getDocuments { collection := .userFollowers uid }, fun followers =>
      Code.call (.getDocuments { collection := .userFollowing uid }) fun following =>
        Code.call (.getDocuments (PostService.ownedBy uid)) fun posts =>
          setStats page
            ⟨UserService.count followers, UserService.count following, UserService.count posts⟩⟩
  | following count => ⟨.getDocuments { collection := .userFollowing uid }, fun following =>
      Code.call (.getDocuments (PostService.ownedBy uid)) fun posts =>
        setStats page ⟨count, UserService.count following, UserService.count posts⟩⟩
  | owned first second => ⟨.getDocuments (PostService.ownedBy uid), fun posts =>
      setStats page ⟨first, second, UserService.count posts⟩⟩
  | posts => ⟨.getDocuments (PostService.ownedBy uid), fun
      | .error _ => .done
      | .ok documents => Code.withTimestamp fun now => setPosts page now documents⟩
  | edge tap => ⟨.put (.following currentUid uid) tap.follows, fun _ =>
      Code.call (.put (.follower uid currentUid) tap.follows) fun _ => completion page tap⟩
  | mirror tap => ⟨.put (.follower uid currentUid) tap.follows, fun _ => completion page tap⟩
  | notice _ data => ⟨.addDocument (.userNotifications uid) data, fun _ => .done⟩
  | query tap => ⟨.getDocuments (PostService.ownedBy uid), fun
      | .error _ => if tap.user.isFollowed then .trap else .done
      | .ok documents =>
        if tap.user.isFollowed then
          .forEach documents fun document =>
            .post (.delete (.userFeed currentUid document.documentID))
        else
          .forEach (documents.map Document.documentID) fun id =>
            .post (.setData (.userFeed currentUid id) .empty)⟩
  | entry tap postId => ⟨.put (.userFeed currentUid postId) tap.follows, fun _ => .done⟩

end Job

/-- A request in flight of a session with this page. -/
abbrev Issued (currentUid uid : Uid) (page : Ref) : Type :=
  Posted (Job.call currentUid page : Job uid → Call firebase App)

section Code

/-- The reads of a page that appears. -/
def reads : List (Job uid) := [.check, .followers, .posts]

theorem viewDidLoad_run {profile : ProfileController}
    (signedIn : app.currentUser = some currentUid)
    (found : app.find? ProfileController page = some profile) (about : profile.user.uid = uid) :
    (ProfileController.viewDidLoad page).run app =
      ⟨some app, (reads : List (Job uid)).map (Job.call currentUid page), []⟩ := by
  subst about
  have check : (ProfileController.fetchIsUserFollowed page).run app =
      ⟨some app, [(Job.check : Job profile.user.uid).call currentUid page], []⟩ := by
    simp only [ProfileController.fetchIsUserFollowed, Code.withObject, Program.run_inspect, found]
    rw [UserService.isUserFollowed, Code.run_withCurrentUser signedIn]
    rfl
  have stats : (ProfileController.fetchUserStats page).run app =
      ⟨some app, [(Job.followers : Job profile.user.uid).call currentUid page], []⟩ := by
    simp only [ProfileController.fetchUserStats, Code.withObject, Program.run_inspect, found]
    rfl
  have posts : (ProfileController.fetchPosts page).run app =
      ⟨some app, [(Job.posts : Job profile.user.uid).call currentUid page], []⟩ := by
    simp only [ProfileController.fetchPosts, Code.withObject, Program.run_inspect, found]
    rfl
  rw [ProfileController.viewDidLoad, Program.run_seq check, Program.run_seq stats, posts]
  rfl

/-- The page is in the tabs, and the tabs know who is signed in. -/
def acts (page : Ref) (app : App) : Bool := app.inTab page && app.user.isSome

/-- A tap that acts writes the edge. -/
theorem tap_run (apart : currentUid ≠ uid) (signedIn : app.currentUser = some currentUid)
    (number : ℕ) {user currentUser : User} (about : user.uid = uid) (inside : app.inTab page = true)
    (known : app.user = some currentUser) :
    (ProfileController.onTapButtonFor page user).run app =
      ⟨some app, [(Job.edge ⟨number, user, currentUser, about⟩ : Job uid)].map
        (Job.call currentUid page), []⟩ := by
  subst about
  have other : ¬ app.currentUser = some user.uid := by
    rw [signedIn]
    exact fun same => apart (Option.some.inj same)
  simp only [ProfileController.onTapButtonFor, Code.withTabUser, Program.run_inspect, inside, known,
    ProfileController.isCurrentUser, other, decide_false, Bool.false_eq_true, if_false]
  rcases user with ⟨email, fullname, profileImage, username, uid, stats, isFollowed⟩
  cases isFollowed with
  | true =>
    rw [if_pos rfl, UserService.run_unFollow signedIn]
    rfl
  | false =>
    rw [if_neg Bool.false_ne_true, UserService.run_follow signedIn]
    rfl

/-- A tap that does not act does nothing. -/
theorem tap_idle (idle : acts page app = false) (user : User) :
    (ProfileController.onTapButtonFor page user).run app =
      ⟨some app, ([] : List (Job uid)).map (Job.call currentUid page), []⟩ := by
  rw [ProfileController.onTapButtonFor, Code.withTabUser, Program.run_inspect]
  cases inside : app.inTab page <;> cases known : app.user <;>
    first | rfl | simp [acts, inside, known] at idle

/-- `isFollowed` of the page's user. -/
def followed? (page : Ref) (app : App) : Option Bool :=
  (app.find? ProfileController page).map fun profile => profile.user.isFollowed

/-- `self.user.isFollowed = isFollowed` -/
def mark (page : Ref) (isFollowed : Bool) (app : App) : App :=
  app.modify page fun profile : ProfileController =>
    { profile with user := { profile.user with isFollowed } }

private theorem followed?_mark (isFollowed : Bool) :
    followed? page (mark page isFollowed app) = (followed? page app).map fun _ => isFollowed := by
  rw [followed?, followed?, mark, App.find?_modify, Option.map_map, Option.map_map]
  rfl

/-- A change of the page that leaves `isFollowed` as it is. -/
private theorem followed?_modify {change : ProfileController → ProfileController}
    (keeps : ∀ profile, (change profile).user.isFollowed = profile.user.isFollowed) :
    followed? page (app.modify page change) = followed? page app := by
  rw [followed?, followed?, App.find?_modify, Option.map_map]
  exact congrArg (Option.map · _) (funext keeps)

/-- The feed query of a tap, and before it the notification of a new follower. -/
def completing (now : Timestamp) (tap : Tap uid) : List (Job uid) :=
  if tap.user.isFollowed then [.query tap]
  else [.notice tap (NotificationService.data tap.currentUser .follow none now), .query tap]

private theorem removeUserFeed_run (signedIn : app.currentUser = some currentUid) (tap : Tap uid)
    (followed : tap.user.isFollowed = true) : (PostService.removeUserFeed tap.user).run app =
      ⟨some app, [(Job.query tap).call currentUid page], []⟩ := by
  rcases tap with ⟨number, user, currentUser, rfl⟩
  dsimp only at followed
  rw [PostService.removeUserFeed, Code.run_withCurrentUser signedIn, Code.run_call, Job.call]
  congr 3
  funext answer
  cases answer <;> simp [followed]

private theorem updateUserFeed_run (signedIn : app.currentUser = some currentUid) (tap : Tap uid)
    (unfollowed : tap.user.isFollowed = false) : (PostService.updateUserFeed tap.user).run app =
      ⟨some app, [(Job.query tap).call currentUid page], []⟩ := by
  rcases tap with ⟨number, user, currentUser, rfl⟩
  dsimp only at unfollowed
  rw [PostService.updateUserFeed, Code.run_withCurrentUser signedIn, Code.run_call, Job.call]
  congr 3
  funext answer
  cases answer <;> simp [unfollowed]

private theorem notify_run (apart : currentUid ≠ uid) (signedIn : app.currentUser = some currentUid)
    (tap : Tap uid) :
    (NotificationService.addNotification tap.user.uid tap.currentUser .follow).run app =
      ⟨some app, [(Job.notice tap
        (NotificationService.data tap.currentUser .follow none app.now)).call currentUid page], []⟩ := by
  rw [NotificationService.addNotification, Code.run_withCurrentUser signedIn, tap.about,
    if_neg apart.symm, Code.run_withTimestamp]
  rfl

/-- The mirror is acknowledged: the page shows what the tap asked for, and the posts are asked
for. -/
private theorem completion_run (apart : currentUid ≠ uid)
    (signedIn : app.currentUser = some currentUid) (tap : Tap uid) : (completion page tap).run app =
      ⟨some (mark page tap.follows app),
        (completing app.now tap).map (Job.call currentUid page), []⟩ := by
  have still (isFollowed : Bool) : (mark page isFollowed app).currentUser = some currentUid := signedIn
  cases followed : tap.user.isFollowed with
  | true =>
    rw [completion, if_pos followed, ProfileController.setIsFollowed, Code.modify,
      Program.update_seq, Program.done_seq, Program.run_update, Tap.follows, followed]
    have ran : (PostService.removeUserFeed tap.user).run (mark page false app) =
        ⟨some (mark page false app), [(Job.query tap).call currentUid page], []⟩ :=
      removeUserFeed_run (still false) tap followed
    rw [completing, if_pos followed]
    exact ran
  | false =>
    rw [completion, followed, if_neg Bool.false_ne_true, ProfileController.setIsFollowed,
      Code.modify, Program.update_seq, Program.done_seq, Program.run_update, Tap.follows, followed]
    have told : (NotificationService.addNotification tap.user.uid tap.currentUser .follow).run
        (mark page true app) = ⟨some (mark page true app), [(Job.notice tap
          (NotificationService.data tap.currentUser .follow none app.now)).call currentUid page],
          []⟩ := notify_run apart (still true) tap
    have ran : (PostService.updateUserFeed tap.user).run (mark page true app) =
        ⟨some (mark page true app), [(Job.query tap).call currentUid page], []⟩ :=
      updateUserFeed_run (still true) tap followed
    have both := Program.run_seq told (PostService.updateUserFeed tap.user)
    rw [ran] at both
    rw [completing, followed, if_neg Bool.false_ne_true]
    exact both

/-- The posts have arrived: each gets its entry written or deleted. -/
private theorem query_run (tap : Tap uid) (documents : List Document) :
    (((Job.query tap).call currentUid page).callback (.ok documents)).run app =
      ⟨some app, ((documents.map Document.documentID).map fun id => Job.entry tap id).map
        (Job.call currentUid page), []⟩ := by
  rcases tap with ⟨number, ⟨email, fullname, profileImage, username, uid, stats, isFollowed⟩,
    currentUser, rfl⟩
  cases isFollowed with
  | true =>
    refine (Program.run_forEach_post documents _ app).trans ?_
    rw [List.map_map, List.map_map]
    rfl
  | false =>
    refine (Program.run_forEach_post (documents.map Document.documentID) _ app).trans ?_
    rw [List.map_map, List.map_map, List.map_map]
    rfl

end Code

section Due

namespace Job

def edge? : Job uid → Option (Tap uid)
  | edge tap => some tap
  | _ => none

def mirror? : Job uid → Option (Tap uid)
  | mirror tap => some tap
  | _ => none

def query? : Job uid → Option (Tap uid)
  | query tap => some tap
  | _ => none

/-- Whether the post is to have an entry of the feed. -/
def entry? (postId : PostId) : Job uid → Option Bool
  | entry tap id => if id = postId then some tap.follows else none
  | _ => none

end Job

/-- What a feed query makes of the entry of the post, which is in its answer if it has one. -/
def fills? (postId : PostId) : Issued currentUid uid page → Option Bool
  | ⟨.query tap, none⟩ => some tap.follows
  | ⟨.query tap, some (.ok documents)⟩ =>
    if postId ∈ documents.map Document.documentID then some tap.follows else none
  | _ => none

variable {store later : Cloud} {after : App} {postId : PostId}
  {work rest before last : List (Issued currentUid uid page)}

/-- The taps whose mirror has not been acknowledged, oldest first. -/
def unmirrored (work : List (Issued currentUid uid page)) : List (Tap uid) :=
  carried Job.mirror? work ++ carried Job.edge? work

/-- The taps for which the posts have not been read, oldest first. -/
def unread (work : List (Issued currentUid uid page)) : List (Tap uid) :=
  Async.owed Job.query? work ++ unmirrored work

/-- Whether the edge exists once everything is served. -/
def edgeDue (store : Cloud) (work : List (Issued currentUid uid page)) : Bool :=
  settled (store.has (.following currentUid uid)) ((Async.owed Job.edge? work).map Tap.follows)

/-- Whether the mirror exists once everything is answered. -/
def mirrorDue (store : Cloud) (work : List (Issued currentUid uid page)) : Bool :=
  settled (store.has (.follower uid currentUid))
    ((Async.owed Job.mirror? work ++ carried Job.edge? work).map Tap.follows)

/-- Whether a post of the account has its entry once everything is answered. -/
def entryDue (store : Cloud) (work : List (Issued currentUid uid page))
    (postId : PostId) : Bool :=
  settled (store.has (.userFeed currentUid postId)) (Async.owed (Job.entry? postId) work ++
    (work.filterMap (fills? postId) ++ (unmirrored work).map Tap.follows))

/-- What the page shows before the mirrors to come are acknowledged. -/
def checked (page : Ref) (store : Cloud) (app : App) :
    List (Issued currentUid uid page) → Option Bool
  | ⟨.check, none⟩ :: _ => some (store.has (.following currentUid uid))
  | ⟨.check, some (.ok snapshot)⟩ :: _ => some snapshot.isSome
  | _ => followed? page app

/-- What the page shows once everything is answered. -/
def shownDue (page : Ref) (store : Cloud) (app : App)
    (work : List (Issued currentUid uid page)) : Option Bool :=
  settled (checked page store app work) ((unmirrored work).map fun tap => some tap.follows)

/-- What serving a job does to a document that is no notification. -/
private theorem has_served {job : Job uid} {choice : Choice} {answer}
    (succeeds : choice.succeeds = true)
    (served : cloud.serve choice store (job.call currentUid page).request = some (later, answer))
    {reference : DocumentReference} (outside : ∀ receiver,
      reference.parent ≠ .userNotifications receiver) :
    later.has reference =
      ((job.call currentUid page).request.writes? reference).getD (store.has reference) := by
  obtain ⟨fresh, applied, -⟩ := serve_firestore succeeds served
  have apart : ¬ (job.call currentUid page).request.AddsTo reference.parent := by
    cases job with
    | notice tap data => exact (outside uid).symm
    | edge tap | mirror tap | entry tap postId => exact Request.not_addsTo_put _ _ _
    | _ => exact id
  rw [Cloud.has, applied, Request.mem_apply apart]
  rfl

/-- Serving a job leaves the posts as they are. -/
private theorem post_served {job : Job uid} {choice : Choice} {answer}
    (succeeds : choice.succeeds = true)
    (served : cloud.serve choice store (job.call currentUid page).request = some (later, answer))
    (postId : PostId) :
    later.firestore.lookup (.post postId) = store.firestore.lookup (.post postId) := by
  obtain ⟨fresh, applied, -⟩ := serve_firestore succeeds served
  rw [applied, Request.lookup_apply]
  cases job with
  | edge tap | mirror tap | entry tap id => simp [Job.call, Request.touches_put]
  | _ => simp [Job.call, Request.Touches, DocumentReference.parent]

/-- What serving a job does to the documents of the follow, and to the feed. -/
theorem follow_served {job : Job uid} {choice : Choice} {answer} (succeeds : choice.succeeds = true)
    (served : cloud.serve choice store (job.call currentUid page).request = some (later, answer)) :
    later.has (.following currentUid uid) =
        (job.edge?.map Tap.follows).getD (store.has (.following currentUid uid)) ∧
      later.has (.follower uid currentUid) =
        (job.mirror?.map Tap.follows).getD (store.has (.follower uid currentUid)) ∧
      ∀ postId, later.has (.userFeed currentUid postId) =
        (job.entry? postId).getD (store.has (.userFeed currentUid postId)) := by
  refine ⟨?_, ?_, fun postId => ?_⟩
  all_goals
    rw [has_served succeeds served (by simp [DocumentReference.parent])]
    cases job with
    | edge tap | mirror tap | entry tap id =>
      simp [Job.call, Request.writes?_put, Job.edge?, Job.mirror?, Job.entry?]
    | _ => rfl

/-- What is the same after a signal: what is to come of the documents and of the page. -/
structure Continues (page : Ref) (store later : Cloud) (app after : App)
    (work rest : List (Issued currentUid uid page)) : Prop where
  posts : ∀ postId, later.firestore.lookup (.post postId) = store.firestore.lookup (.post postId)
  edge : edgeDue later rest = edgeDue store work
  mirror : mirrorDue later rest = mirrorDue store work
  entry : ∀ postId, PostService.OwnedBy store.firestore uid postId →
    entryDue later rest postId = entryDue store work postId
  shown : shownDue page later after rest = shownDue page store app work

/-- The answer to a feed query lists posts of the account, and so does an entry. -/
def Sound (store : Cloud) : Issued currentUid uid page → Prop
  | ⟨.query _, some answer⟩ => ∃ documents, answer = .ok documents ∧
    ∀ id ∈ documents.map Document.documentID, PostService.OwnedBy store.firestore uid id
  | ⟨.entry _ id, _⟩ => PostService.OwnedBy store.firestore uid id
  | _ => True

/-- An account keeps its posts. -/
theorem Sound.mono {posted : Issued currentUid uid page}
    (sound : Sound store posted) (grows : ∀ id, PostService.OwnedBy store.firestore uid id →
      PostService.OwnedBy later.firestore uid id) : Sound later posted := by
  rcases posted with ⟨job, answer⟩
  cases job with
  | query tap =>
    cases answer with
    | none => trivial
    | some answer =>
      obtain ⟨documents, rfl, owned⟩ := sound
      exact ⟨documents, rfl, fun id listed => grows id (owned id listed)⟩
  | entry tap id => exact grows id sound
  | _ => trivial

/-- A feed query is answered with the posts that the account has. -/
private theorem query_served {tap : Tap uid} {choice : Choice} {answer}
    (succeeds : choice.succeeds = true)
    (served : cloud.serve choice store ((Job.query tap).call currentUid page).request =
      some (later, answer)) : later = store ∧ ∃ documents, answer = .ok documents ∧
      ∀ id, id ∈ documents.map Document.documentID ↔ PostService.OwnedBy store.firestore uid id := by
  obtain ⟨order, fresh, transfer, resolved⟩ := serve_succeeds succeeds served
  obtain ⟨documents, answered, same⟩ := Option.map_eq_some_iff.mp resolved
  obtain ⟨rfl, rfl⟩ := Prod.mk.inj same
  refine ⟨rfl, documents, rfl, PostService.mem_answer_ownedBy ?_⟩
  exact Request.resolve_answers resolved

/-- The page's check is answered with the edge. -/
private theorem check_served {choice : Choice} {answer} (succeeds : choice.succeeds = true)
    (served : cloud.serve choice store ((Job.check : Job uid).call currentUid page).request =
      some (later, answer)) :
    answer = .ok (store.firestore.lookup (.following currentUid uid)) := by
  obtain ⟨order, fresh, transfer, resolved⟩ := serve_succeeds succeeds served
  exact (Prod.mk.inj (Option.some.inj resolved)).2.symm

/-- What is checked is told by an answer that is there. -/
private theorem checked_answered {posted : Issued currentUid uid page}
    (answered : posted.answer.isSome = true) :
    checked page later app (posted :: rest) = checked page store app (posted :: work) := by
  rcases posted with ⟨job, answer⟩
  cases job with
  | check =>
    match answer with
    | some (.ok _) => rfl
    | some (.error _) => rfl
  | _ => rfl

/-- Without a check at the front, the page shows what it shows. -/
private theorem checked_other (other : ∀ posted ∈ work.head?, posted.job ≠ .check) :
    checked page store app work = followed? page app := by
  cases work with
  | nil => rfl
  | cons posted work =>
    rcases posted with ⟨job, answer⟩
    cases job with
    | check => exact absurd rfl (other _ rfl)
    | _ => rfl

private theorem checked_serve {job : Job uid} {choice : Choice} {answer}
    (answered : ∀ posted ∈ before, posted.answer.isSome = true) (succeeds : choice.succeeds = true)
    (served : cloud.serve choice store (job.call currentUid page).request = some (later, answer)) :
    checked page later app (before ++ ⟨job, some answer⟩ :: last) =
      checked page store app (before ++ ⟨job, none⟩ :: last) := by
  cases before with
  | cons posted before => exact checked_answered (answered posted (List.mem_cons_self ..))
  | nil =>
    cases job with
    | check =>
      obtain rfl := check_served succeeds served
      exact congrArg some (isSome_lookup ..)
    | _ => rfl

/-- Serving a job when all earlier ones have been served. -/
theorem continues_serve {job : Job uid} {choice : Choice} {answer}
    (answered : ∀ posted ∈ before, posted.answer.isSome = true) (succeeds : choice.succeeds = true)
    (served : cloud.serve choice store (job.call currentUid page).request = some (later, answer)) :
    Continues page store later app app (before ++ ⟨job, none⟩ :: last)
      (before ++ ⟨job, some answer⟩ :: last) := by
  obtain ⟨edge, mirror, entry⟩ := follow_served succeeds served
  have same : unmirrored (before ++ ⟨job, some answer⟩ :: last) =
      unmirrored (before ++ ⟨job, none⟩ :: last) := by
    simp [unmirrored]
  refine ⟨post_served succeeds served, ?_, ?_, fun postId owned => ?_, ?_⟩
  · rw [edgeDue, edgeDue, edge, settled_serve_map fun _ => owed_answered answered]
  · rw [mirrorDue, mirrorDue, List.map_append, List.map_append, mirror, settled_append,
      settled_append, settled_serve_map fun _ => owed_answered answered]
    simp
  · have fills : fills? postId (⟨job, some answer⟩ : Posted (Job.call currentUid page)) =
        fills? postId (⟨job, none⟩ : Posted (Job.call currentUid page)) := by
      cases job with
      | query tap =>
        obtain ⟨-, documents, rfl, members⟩ := query_served succeeds served
        exact if_pos ((members postId).mpr owned)
      | _ => rfl
    rw [entryDue, entryDue, entry, same, settled_append, settled_append (store.has _),
      settled_serve fun _ => owed_answered answered, List.filterMap_append, List.filterMap_append,
      List.filterMap_cons, List.filterMap_cons, fills]
  · rw [shownDue, shownDue, same, checked_serve answered succeeds served]

theorem sound_served {job : Job uid} {choice : Choice} {answer} (succeeds : choice.succeeds = true)
    (served : cloud.serve choice store (job.call currentUid page).request = some (later, answer))
    (sound : Sound store (⟨job, none⟩ : Posted (Job.call currentUid page))) :
    Sound later (⟨job, some answer⟩ : Posted (Job.call currentUid page)) := by
  cases job with
  | query tap =>
    obtain ⟨rfl, documents, rfl, members⟩ := query_served succeeds served
    exact ⟨documents, rfl, fun id member => (members id).mp member⟩
  | entry tap id =>
    change (later.firestore.lookup (.post id)).bind _ = _
    rw [post_served succeeds served]
    exact sound
  | _ => trivial

/-- Serving a feed query reads the posts for its tap. -/
theorem unread_serve {job : Job uid} {answer} (answered : ∀ posted ∈ before,
    posted.answer.isSome = true) : unread (before ++ ⟨job, none⟩ :: last) = job.query?.toList ++
      unread (before ++ (⟨job, some answer⟩ : Posted (Job.call currentUid page)) :: last) := by
  simp [unread, unmirrored, owed_answered answered]

/-- The job is none of those of a tap. -/
structure Job.Quiet (job : Job uid) : Prop where
  edge : job.edge? = none
  mirror : job.mirror? = none
  query : job.query? = none
  entry : ∀ postId, job.entry? postId = none

/-- What a job that ends leaves to be done. -/
structure Leaves (page : Ref) (store : Cloud) (app after : App)
    (work rest : List (Issued currentUid uid page)) : Prop where
  continues : Continues page store store app after work rest
  unread : unread rest = unread work

private theorem fills?_issue (jobs : List (Job uid)) (postId : PostId) :
    (issue (Job.call currentUid page) jobs).filterMap (fills? postId) =
      (jobs.filterMap Job.query?).map Tap.follows := by
  rw [issue, List.filterMap_map, List.map_filterMap]
  congr 1
  funext job
  cases job <;> rfl

/-- A job ends that issues reads or a notification only. -/
private theorem leaves_quiet {job : Job uid} {answer} {jobs : List (Job uid)}
    (ends : job.edge? = none ∧ job.mirror? = none ∧ job.query? = none)
    (quiet : ∀ other ∈ jobs, other.Quiet)
    (shown : checked page store app (⟨job, some answer⟩ :: last) =
      checked page store after (last ++ issue (Job.call currentUid page) jobs)) :
    Leaves page store app after (⟨job, some answer⟩ :: last)
      (last ++ issue (Job.call currentUid page) jobs) := by
  obtain ⟨edge, mirror, query⟩ := ends
  have edges : jobs.filterMap Job.edge? = [] :=
    List.filterMap_eq_nil_iff.mpr fun other member => (quiet other member).edge
  have mirrors : jobs.filterMap Job.mirror? = [] :=
    List.filterMap_eq_nil_iff.mpr fun other member => (quiet other member).mirror
  have queries : jobs.filterMap Job.query? = [] :=
    List.filterMap_eq_nil_iff.mpr fun other member => (quiet other member).query
  have entries (postId : PostId) : jobs.filterMap (Job.entry? postId) = [] :=
    List.filterMap_eq_nil_iff.mpr fun other member => (quiet other member).entry postId
  have fills (postId : PostId) :
      fills? postId (⟨job, some answer⟩ : Posted (Job.call currentUid page)) = none := by
    cases job with
    | query tap => cases query
    | _ => rfl
  have same : unmirrored (last ++ issue (Job.call currentUid page) jobs) =
      unmirrored ((⟨job, some answer⟩ : Posted (Job.call currentUid page)) :: last) := by
    simp [unmirrored, edge, mirror, edges, mirrors]
  refine ⟨⟨fun _ => rfl, ?_, ?_, fun postId _ => ?_, ?_⟩, ?_⟩
  · simp [edgeDue, edges]
  · simp [mirrorDue, edge, mirrors, edges]
  · rw [entryDue, entryDue, same]
    simp [entries, fills?_issue, queries, fills]
  · rw [shownDue, shownDue, same, shown]
  · rw [unread, unread, same]
    simp [queries]

/-- The edge is acknowledged, and the mirror is to be written. -/
private theorem leaves_edge {tap : Tap uid} {answer} (single : ∀ posted ∈ last, posted.job ≠ .check) :
    Leaves page store app app (⟨.edge tap, some answer⟩ :: last)
      (last ++ issue (Job.call currentUid page) [.mirror tap]) := by
  have same : unmirrored (last ++ issue (Job.call currentUid page) [.mirror tap]) =
      unmirrored ((⟨.edge tap, some answer⟩ : Posted (Job.call currentUid page)) :: last) := by
    simp [unmirrored, Job.edge?, Job.mirror?]
  refine ⟨⟨fun _ => rfl, ?_, ?_, fun postId _ => ?_, ?_⟩, ?_⟩
  · simp [edgeDue, Job.edge?]
  · simp [mirrorDue, Job.edge?, Job.mirror?]
  · rw [entryDue, entryDue, same]
    simp [Job.entry?, fills?, List.filterMap_cons]
  · rw [shownDue, shownDue, same, checked_other, checked_other]
    · rintro _ ⟨⟩
      nofun
    · intro posted front
      rcases List.mem_append.mp (List.mem_of_mem_head? front) with member | member
      · exact single posted member
      · obtain rfl := List.mem_singleton.mp member
        nofun
  · rw [unread, unread, same]
    simp [Job.query?]

private theorem filterMap_completing {β : Type} (value? : Job uid → Option β) (now : Timestamp)
    (tap : Tap uid) (silent : ∀ data, value? (.notice tap data) = none) :
    (completing now tap).filterMap value? = (value? (.query tap)).toList := by
  rw [completing]
  split_ifs <;> cases asked : value? (.query tap) <;> simp [silent, asked]

/-- The mirror is acknowledged, the page shows it, and the posts are to be read. -/
private theorem leaves_mirror {tap : Tap uid} {answer} (now : Timestamp)
    (present : (followed? page app).isSome = true)
    (single : ∀ posted ∈ last, posted.job ≠ .check) :
    Leaves page store app (mark page tap.follows app) (⟨.mirror tap, some answer⟩ :: last)
      (last ++ issue (Job.call currentUid page) (completing now tap)) := by
  have rest : unmirrored ((⟨.mirror tap, some answer⟩ : Posted (Job.call currentUid page)) :: last) =
      tap :: unmirrored (last ++ issue (Job.call currentUid page) (completing now tap)) := by
    simp [unmirrored, filterMap_completing Job.mirror? now tap fun _ => rfl,
      filterMap_completing Job.edge? now tap fun _ => rfl, Job.edge?, Job.mirror?]
  refine ⟨⟨fun _ => rfl, ?_, ?_, fun postId _ => ?_, ?_⟩, ?_⟩
  · simp [edgeDue, filterMap_completing Job.edge? now tap fun _ => rfl, Job.edge?]
  · simp [mirrorDue, filterMap_completing Job.edge? now tap fun _ => rfl,
      filterMap_completing Job.mirror? now tap fun _ => rfl, Job.edge?, Job.mirror?]
  · rw [entryDue, entryDue, rest]
    simp [filterMap_completing (Job.entry? postId) now tap fun _ => rfl, Job.entry?, fills?,
      fills?_issue, filterMap_completing Job.query? now tap fun _ => rfl, Job.query?,
      List.filterMap_cons]
  · obtain ⟨shown, showing⟩ := Option.isSome_iff_exists.mp present
    rw [shownDue, shownDue, rest, List.map_cons, settled_cons, checked_other, followed?_mark, showing]
    · rfl
    · intro posted front
      rcases List.mem_append.mp (List.mem_of_mem_head? front) with member | member
      · exact single posted member
      · intro check
        obtain ⟨listed, -⟩ := mem_issue.mp member
        rw [completing, check] at listed
        split_ifs at listed <;> simp at listed
  · rw [unread, unread, rest]
    simp [filterMap_completing Job.query? now tap fun _ => rfl, Job.query?]

/-- The entries that an answer brings settle as the query did that it answers. -/
private theorem settled_entries (current : Bool) (tap : Tap uid) (postId : PostId)
    (ids : List PostId) :
    settled current ((ids.map fun id => Job.entry tap id).filterMap (Job.entry? postId)) =
      if postId ∈ ids then tap.follows else current := by
  have values : ∀ value ∈ (ids.map fun id => Job.entry tap id).filterMap (Job.entry? postId),
      value = tap.follows := by
    intro value member
    obtain ⟨job, listed, written⟩ := List.mem_filterMap.mp member
    obtain ⟨id, -, rfl⟩ := List.mem_map.mp listed
    simp only [Job.entry?, Option.ite_none_right_eq_some] at written
    exact (Option.some.inj written.2).symm
  split_ifs with listed
  · refine settled_of_mem (List.mem_filterMap.mpr ⟨_, List.mem_map_of_mem listed, ?_⟩) values
    exact if_pos rfl
  · have none : (ids.map fun id => Job.entry tap id).filterMap (Job.entry? postId) = [] := by
      refine List.filterMap_eq_nil_iff.mpr fun job member => ?_
      obtain ⟨id, other, rfl⟩ := List.mem_map.mp member
      refine if_neg ?_
      rintro rfl
      exact listed other
    rw [none, settled_nil]

/-- The posts are read, and their entries are to be written. -/
private theorem leaves_query {tap : Tap uid} {documents : List Document}
    (single : ∀ posted ∈ last, posted.job ≠ .check) :
    Leaves page store app app (⟨.query tap, some (.ok documents)⟩ :: last)
      (last ++ issue (Job.call currentUid page)
        ((documents.map Document.documentID).map fun id => .entry tap id)) := by
  have none {β : Type} (value? : Job uid → Option β) (silent : ∀ id, value? (.entry tap id) = none) :
      ((documents.map Document.documentID).map fun id => Job.entry tap id).filterMap value? = [] := by
    refine List.filterMap_eq_nil_iff.mpr fun job member => ?_
    obtain ⟨id, -, rfl⟩ := List.mem_map.mp member
    exact silent id
  have same : unmirrored (last ++ issue (Job.call currentUid page)
      ((documents.map Document.documentID).map fun id => .entry tap id)) =
        unmirrored ((⟨.query tap, some (.ok documents)⟩ : Posted (Job.call currentUid page)) ::
          last) := by
    rw [unmirrored, unmirrored, carried_append, carried_append, carried_issue, carried_issue,
      none Job.mirror? fun _ => rfl, none Job.edge? fun _ => rfl]
    simp [Job.edge?, Job.mirror?]
  refine ⟨⟨fun _ => rfl, ?_, ?_, fun postId _ => ?_, ?_⟩, ?_⟩
  · rw [edgeDue, edgeDue, Async.owed_append, owed_issue, none Job.edge? fun _ => rfl]
    simp
  · rw [mirrorDue, mirrorDue, Async.owed_append, owed_issue, carried_append, carried_issue,
      none Job.edge? fun _ => rfl, none Job.mirror? fun _ => rfl]
    simp [Job.edge?]
  · have written : settled (store.has (.userFeed currentUid postId))
        (Async.owed (Job.entry? postId) last ++
          ((documents.map Document.documentID).map fun id => Job.entry tap id).filterMap
            (Job.entry? postId)) =
        if postId ∈ documents.map Document.documentID then tap.follows
        else settled (store.has (.userFeed currentUid postId))
          (Async.owed (Job.entry? postId) last) := by
      rw [settled_append, settled_entries]
    rw [entryDue, entryDue, same, Async.owed_append, owed_issue, List.filterMap_append,
      fills?_issue, none Job.query? fun _ => rfl, settled_append, written]
    by_cases listed : postId ∈ documents.map Document.documentID
    · simp [fills?, listed, settled_append]
    · simp [fills?, listed, settled_append]
  · rw [shownDue, shownDue, same, checked_other, checked_other]
    · rintro _ ⟨⟩
      nofun
    · intro posted front
      rcases List.mem_append.mp (List.mem_of_mem_head? front) with member | member
      · exact single posted member
      · intro check
        obtain ⟨listed, -⟩ := mem_issue.mp member
        rw [check] at listed
        simp at listed
  · rw [unread, unread, same, Async.owed_append, owed_issue, none Job.query? fun _ => rfl]
    simp

/-- What a callback leaves behind. -/
structure Ends (page : Ref) (store : Cloud) (app after : App)
    (posted : Issued currentUid uid page)
    (last : List (Issued currentUid uid page)) (jobs : List (Job uid)) : Prop where
  signedIn : after.currentUser = app.currentUser
  present : (followed? page after).isSome = true
  mine : ∀ job ∈ jobs, job.origin = posted.job.origin ∧ job ≠ .check ∧
    Sound store (⟨job, none⟩ : Posted (Job.call currentUid page))
  leaves : Leaves page store app after (posted :: last) (last ++ issue (Job.call currentUid page) jobs)

/-- A job ends that changes nothing of what the page shows. -/
private theorem ends_quiet {job : Job uid} {answer} {jobs : List (Job uid)}
    (ends : job.edge? = none ∧ job.mirror? = none ∧ job.query? = none) (other : job ≠ .check)
    (quiet : ∀ other ∈ jobs, other.Quiet ∧ other.origin = job.origin ∧ other ≠ .check)
    (present : (followed? page app).isSome = true)
    (single : ∀ posted ∈ last, posted.job ≠ .check)
    (signedIn : after.currentUser = app.currentUser)
    (same : followed? page after = followed? page app) :
    Ends page store app after ⟨job, some answer⟩ last jobs := by
  refine ⟨signedIn, same ▸ present, fun new member => ?_, ?_⟩
  · obtain ⟨silent, mine, apart⟩ := quiet new member
    refine ⟨mine, apart, ?_⟩
    cases new with
    | entry tap postId =>
      have written := silent.entry postId
      simp [Job.entry?] at written
    | _ => trivial
  · refine leaves_quiet ends (fun new member => (quiet new member).1) ?_
    rw [checked_other, checked_other, same]
    · intro posted front
      rcases List.mem_append.mp (List.mem_of_mem_head? front) with member | member
      · exact single posted member
      · exact (quiet _ (mem_issue.mp member).1).2.2
    · rintro _ ⟨⟩
      exact other

/-- The oldest job ends. -/
theorem ends_deliver (apart : currentUid ≠ uid) (signedIn : app.currentUser = some currentUid)
    (present : (followed? page app).isSome = true) (single : ∀ posted ∈ last, posted.job ≠ .check)
    (job : Job uid) (answer)
    (sound : Sound store (⟨job, some answer⟩ : Posted (Job.call currentUid page))) :
    ∃ after jobs, ((job.call currentUid page).callback answer).run app =
        ⟨some after, jobs.map (Job.call currentUid page), []⟩ ∧
      Ends page store app after ⟨job, some answer⟩ last jobs := by
  cases job with
  | check =>
    match answer with
    | .error _ =>
      refine ⟨app, [], rfl, rfl, present, nofun, leaves_quiet ⟨rfl, rfl, rfl⟩ nofun ?_⟩
      rw [issue_nil, List.append_nil, checked_other fun posted front =>
        single posted (List.mem_of_mem_head? front)]
      rfl
    | .ok snapshot =>
      obtain ⟨shown, showing⟩ := Option.isSome_iff_exists.mp present
      refine ⟨mark page snapshot.isSome app, [], rfl, rfl, ?_, nofun,
        leaves_quiet ⟨rfl, rfl, rfl⟩ nofun ?_⟩
      · rw [followed?_mark, showing]
        rfl
      · rw [issue_nil, List.append_nil, checked_other fun posted front =>
          single posted (List.mem_of_mem_head? front), followed?_mark, showing]
        rfl
  | followers =>
    refine ⟨app, [.following (UserService.count answer)], rfl, ends_quiet ⟨rfl, rfl, rfl⟩ nofun ?_
      present single rfl rfl⟩
    intro other member
    obtain rfl := List.mem_singleton.mp member
    exact ⟨⟨rfl, rfl, rfl, fun _ => rfl⟩, rfl, nofun⟩
  | following count =>
    refine ⟨app, [.owned count (UserService.count answer)], rfl, ends_quiet ⟨rfl, rfl, rfl⟩ nofun ?_
      present single rfl rfl⟩
    intro other member
    obtain rfl := List.mem_singleton.mp member
    exact ⟨⟨rfl, rfl, rfl, fun _ => rfl⟩, rfl, nofun⟩
  | owned first second =>
    refine ⟨_, [], rfl, ends_quiet ⟨rfl, rfl, rfl⟩ nofun nofun present single rfl ?_⟩
    exact followed?_modify fun _ => rfl
  | posts =>
    match answer with
    | .error _ => exact ⟨app, [], rfl, ends_quiet ⟨rfl, rfl, rfl⟩ nofun nofun present single rfl rfl⟩
    | .ok documents =>
      refine ⟨_, [], rfl, ends_quiet ⟨rfl, rfl, rfl⟩ nofun nofun present single rfl ?_⟩
      exact followed?_modify fun _ => rfl
  | edge tap =>
    refine ⟨app, [.mirror tap], rfl, rfl, present, fun new member => ?_, leaves_edge single⟩
    obtain rfl := List.mem_singleton.mp member
    exact ⟨rfl, nofun, trivial⟩
  | mirror tap =>
    refine ⟨_, _, completion_run apart signedIn tap, rfl, ?_, fun new member => ?_,
      leaves_mirror app.now present single⟩
    · obtain ⟨shown, showing⟩ := Option.isSome_iff_exists.mp present
      rw [followed?_mark, showing]
      rfl
    · rw [completing] at member
      split_ifs at member
      · obtain rfl := List.mem_singleton.mp member
        exact ⟨rfl, nofun, trivial⟩
      · rcases List.mem_pair.mp member with rfl | rfl
        · exact ⟨rfl, nofun, trivial⟩
        · exact ⟨rfl, nofun, trivial⟩
  | notice tap data =>
    exact ⟨app, [], rfl, ends_quiet ⟨rfl, rfl, rfl⟩ nofun nofun present single rfl rfl⟩
  | query tap =>
    obtain ⟨documents, rfl, owned⟩ := sound
    refine ⟨app, _, query_run tap documents, rfl, present, fun new member => ?_, leaves_query single⟩
    obtain ⟨id, listed, rfl⟩ := List.mem_map.mp member
    exact ⟨rfl, nofun, owned id listed⟩
  | entry tap postId =>
    exact ⟨app, [], rfl, ends_quiet ⟨rfl, rfl, rfl⟩ nofun nofun present single rfl rfl⟩

end Due

end FollowWork

end InstagramClone
