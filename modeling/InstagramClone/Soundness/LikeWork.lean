import InstagramClone.Async.Work
import InstagramClone.Soundness.LikedOnce

/-! # The work of like taps

A tap turns the cell's copy over and writes the counter of the post and its like document; then the
account's document is written, and when that is acknowledged the cell is given the new count. What
the store and the cells will be once everything is answered does not change when a request is
served or answered, as long as no earlier one writes the same.
-/

namespace InstagramClone

open Async

namespace LikeWork

/-- A write of a counter or of the first or second document of a like, or a notification. -/
inductive Job where
  | counter (postId : PostId) (likes : ℤ)
  | postLike (user : User) (cell : Ref) (post : Post)
  | userLike (user : User) (cell : Ref) (post : Post)
  | notice (receiver : Uid) (data : String → Dictionary)

/-- The count after a tap on this copy. -/
def turned (post : Post) : ℤ := if post.didLike then post.likes - 1 else post.likes + 1

/-- What the controller does when the like is written. -/
def completion (user : User) (cell : Ref) (post : Post) : Code App :=
  if post.didLike then FeedController.setLikes cell (post.likes - 1)
  else .seq (FeedController.setLikes cell (post.likes + 1)) <|
    NotificationService.addNotification post.ownerUid user .like (some post)

/-- The request, with what the service and the controller do when it is answered. -/
def Job.call (currentUid : Uid) : Job → Call firebase App
  | counter postId likes => ⟨.updateData (.post postId) (.ofList [("likes", .int likes)]),
      fun _ => .done⟩
  | postLike user cell post => ⟨.put (.postLike post.postId currentUid) (!post.didLike), fun _ =>
      Code.call (.put (.userLike currentUid post.postId) (!post.didLike)) fun _ =>
        completion user cell post⟩
  | userLike user cell post => ⟨.put (.userLike currentUid post.postId) (!post.didLike), fun _ =>
      completion user cell post⟩
  | notice receiver data => ⟨.addDocument (.userNotifications receiver) data, fun _ => .done⟩

variable {currentUid : Uid} {app : App} {store : Cloud} {cell : Ref} {post : Post} {user : User}

section Actions

/-- What a tap writes: nothing, if it is to take back a like of which the copy counts none. -/
def tapJobs (user : User) (cell : Ref) (post : Post) : List Job :=
  if post.didLike = true ∧ post.likes ≤ 0 then []
  else [.counter post.postId (turned post), .postLike user cell post]

theorem tap_run (signedIn : app.currentUser = some currentUid) (known : app.user = some user)
    (tapped : app.tapped? cell = some post) :
    (FeedCell.onTapLike cell).run app = ⟨some (app.modify cell LikedOnce.toggle),
      (tapJobs user cell post).map (Job.call currentUid), []⟩ := by
  obtain ⟨shown, found, model⟩ := Option.bind_eq_some_iff.mp tapped
  obtain ⟨reaches, model⟩ := Option.ite_none_right_eq_some.mp model
  obtain ⟨inside, -⟩ := Bool.and_eq_true_iff.mp reaches
  have toggled : (app.modify cell LikedOnce.toggle).currentUser = some currentUid := signedIn
  have ran : (FeedCell.onTapLike cell).run app =
      (if post.didLike then
        PostService.unlikePost post fun _ => FeedController.setLikes cell (post.likes - 1)
      else PostService.likePost post fun _ => .seq (FeedController.setLikes cell (post.likes + 1))
        (NotificationService.addNotification post.ownerUid user .like (some post))).run
        (app.modify cell LikedOnce.toggle) := by
    simp only [FeedCell.onTapLike, FeedCell.withViewModel, Code.withObject, Program.run_inspect,
      found, model, FeedController.didLike, Code.withTabUser, inside, known]
    rfl
  rw [ran, tapJobs]
  rcases post with ⟨postId, caption, imageUrl, likes, owner, name, image, timestamp, didLike⟩
  cases didLike with
  | false =>
    rw [if_neg (by simp), if_neg (by simp)]
    exact PostService.run_likePost toggled _ _
  | true =>
    rw [if_pos rfl]
    by_cases positive : likes > 0
    · rw [if_neg fun told => absurd told.2 (not_le.mpr positive)]
      exact PostService.run_unlikePost toggled positive _
    · rw [if_pos ⟨rfl, not_lt.mp positive⟩, PostService.unlikePost,
        Code.run_withCurrentUser toggled, if_neg positive]
      rfl

theorem known_of_tapped (tapped : app.tapped? cell = some post) : ∃ user, app.user = some user := by
  obtain ⟨shown, -, model⟩ := Option.bind_eq_some_iff.mp tapped
  obtain ⟨reaches, -⟩ := Option.ite_none_right_eq_some.mp model
  exact Option.isSome_iff_exists.mp (Bool.and_eq_true_iff.mp reaches).2

/-- The notification of the owner of a post that was liked. -/
def notices (now : Timestamp) (currentUid : Uid) (user : User) (post : Post) : List Job :=
  if post.didLike = true ∨ post.ownerUid = currentUid then []
  else [.notice post.ownerUid (NotificationService.data user .like (some post) now)]

/-- `cell.viewModel?.post.likes = likes` -/
def recount (likes : ℤ) (shown : FeedCell) : FeedCell :=
  { shown with viewModel := shown.viewModel.map fun post => { post with likes } }

/-- A completed like gives its cell the new count, whatever post that shows by then. -/
private theorem completion_run (signedIn : app.currentUser = some currentUid) :
    (completion user cell post).run app =
      ⟨some (app.modify cell (recount (turned post))),
        (notices app.now currentUid user post).map (Job.call currentUid), []⟩ := by
  cases liked : post.didLike with
  | true =>
    simp only [completion, liked, if_true, turned, notices, true_or]
    rfl
  | false =>
    have counted : (app.modify cell (recount (post.likes + 1))).currentUser = some currentUid :=
      signedIn
    simp only [completion, liked, Bool.false_eq_true, if_false, turned, notices, false_or]
    rw [FeedController.setLikes, Code.modify, Program.update_seq, Program.done_seq,
      Program.run_update, NotificationService.addNotification]
    change (Code.withCurrentUser _).run (app.modify cell (recount (post.likes + 1))) = _
    rw [Code.run_withCurrentUser counted]
    split_ifs
    · rfl
    · rfl

/-- What the callback of a job does and issues. -/
private theorem callback_run (signedIn : app.currentUser = some currentUid) (job : Job) (answer) :
    ((job.call currentUid).callback answer).run app =
    match job with
    | .counter .. | .notice .. => ⟨some app, ([] : List Job).map (Job.call currentUid), []⟩
    | .postLike user cell post =>
      ⟨some app, [Job.userLike user cell post].map (Job.call currentUid), []⟩
    | .userLike user cell post => ⟨some (app.modify cell (recount (turned post))),
      (notices app.now currentUid user post).map (Job.call currentUid), []⟩ := by
  cases job with
  | userLike user cell post => exact completion_run signedIn
  | _ => rfl

end Actions

section Due

namespace Job

/-- The count that the job writes for the post. -/
def count? (postId : PostId) : Job → Option ℤ
  | counter id likes => if id = postId then some likes else none
  | _ => none

/-- Whether the first document of the like of the post is to exist. -/
def first? (postId : PostId) : Job → Option Bool
  | postLike _ _ post => if post.postId = postId then some (!post.didLike) else none
  | _ => none

/-- Whether the second document of the like of the post is to exist. -/
def second? (postId : PostId) : Job → Option Bool
  | userLike _ _ post => if post.postId = postId then some (!post.didLike) else none
  | _ => none

/-- The count that the cell will be given after two more answers. -/
def starts? (cell : Ref) : Job → Option ℤ
  | postLike _ other post => if other = cell then some (turned post) else none
  | _ => none

/-- The count that the cell will be given after one more answer. -/
def completes? (cell : Ref) : Job → Option ℤ
  | userLike _ other post => if other = cell then some (turned post) else none
  | _ => none

/-- The cell that was tapped, with the post that it showed. -/
def tag? : Job → Option (Ref × PostId)
  | postLike _ cell post | userLike _ cell post => some (cell, post.postId)
  | _ => none

end Job

variable {later : Cloud} {after : App} {work rest before last : List (Posted (Job.call currentUid))}

/-- The count of the post once everything is served. -/
def likesDue (store : Cloud) (work : List (Posted (Job.call currentUid))) (postId : PostId) :
    Option ℤ :=
  (store.firestore.lookup (.post postId)).map fun data =>
    settled (data.int "likes") (Async.owed (Job.count? postId) work)

/-- Whether the post has the account's like once everything is served. -/
def postDue (store : Cloud) (work : List (Posted (Job.call currentUid))) (postId : PostId) : Bool :=
  settled (store.has (.postLike postId currentUid)) (Async.owed (Job.first? postId) work)

/-- Whether the account has its like of the post once everything is answered. -/
def userDue (store : Cloud) (work : List (Posted (Job.call currentUid))) (postId : PostId) : Bool :=
  settled (store.has (.userLike currentUid postId))
    (Async.owed (Job.second? postId) work ++ carried (Job.first? postId) work)

/-- The counts that the cell will be given. -/
def completions (work : List (Posted (Job.call currentUid))) (cell : Ref) : List ℤ :=
  carried (Job.completes? cell) work ++ carried (Job.starts? cell) work

/-- The post of a cell, with the flag and the count that it will show once everything is answered. -/
def shownDue (app : App) (work : List (Posted (Job.call currentUid))) (cell : Ref) :
    Option (PostId × Bool × ℤ) :=
  (app.shown? cell).map fun post =>
    (post.postId, post.didLike, settled post.likes (completions work cell))

/-- The likes of the post that are being written. -/
def chains (work : List (Posted (Job.call currentUid))) (postId : PostId) : List Bool :=
  carried (Job.second? postId) work ++ carried (Job.first? postId) work

/-- What is the same after signals: what is to come of the store and of the cells. -/
structure Continues (store later : Cloud) (app after : App)
    (work rest : List (Posted (Job.call currentUid))) : Prop where
  likes : ∀ postId, likesDue later rest postId = likesDue store work postId
  first : ∀ postId, postDue later rest postId = postDue store work postId
  second : ∀ postId, userDue later rest postId = userDue store work postId
  shown : ∀ cell, completions rest cell = completions work cell ∧ after.shown? cell = app.shown? cell ∨
    ∃ likes, completions work cell = likes :: completions rest cell ∧
      after.shown? cell = (app.shown? cell).map fun post => { post with likes }
  tags : ∀ posted ∈ rest, ∀ tag ∈ posted.job.tag?, ∃ other ∈ work, other.job.tag? = some tag
  counters : ∀ postId, (carried (Job.count? postId) rest).length ≤
    (carried (Job.count? postId) work).length
  chains : ∀ postId, (chains rest postId).length ≤ (chains work postId).length

theorem Continues.shownDue (continues : Continues store later app after work rest) (cell : Ref) :
    shownDue after rest cell = shownDue app work cell := by
  obtain ⟨same, shown⟩ | ⟨likes, completes, shown⟩ := continues.shown cell
  · rw [LikeWork.shownDue, LikeWork.shownDue, same, shown]
  · rw [LikeWork.shownDue, LikeWork.shownDue, shown, completes, Option.map_map]
    rfl

/-- No earlier unserved job writes what the job writes. -/
def Foremost (before : List (Posted (Job.call currentUid))) (job : Job) : Prop :=
  ∀ postId, ((job.count? postId).isSome → Async.owed (Job.count? postId) before = []) ∧
    ((job.first? postId).isSome → Async.owed (Job.first? postId) before = []) ∧
    ((job.second? postId).isSome → Async.owed (Job.second? postId) before = [])

/-- What serving a job does to the counter of a post. -/
private theorem lookup_served {job : Job} {choice : Choice} {answer}
    (succeeds : choice.succeeds = true)
    (served : cloud.serve choice store (job.call currentUid).request = some (later, answer))
    (postId : PostId) :
    (later.firestore.lookup (.post postId)).map (fun data => data.int "likes") =
      (store.firestore.lookup (.post postId)).map fun data =>
        (job.count? postId).getD (data.int "likes") := by
  obtain ⟨fresh, applied, -⟩ := serve_firestore succeeds served
  rw [applied]
  cases job with
  | counter id likes =>
    by_cases same : id = postId
    · subst same
      cases stored : store.firestore.lookup (.post id) with
      | none => simp [Job.call, Request.apply, stored]
      | some data =>
        simp [Job.call, Request.apply, stored, Job.count?, Dictionary.updating, Dictionary.ofList,
          Dictionary.int]
    · rw [Request.lookup_apply (by simpa [Job.call, Request.Touches] using same)]
      simp [Job.count?, same]
  | postLike user cell post =>
    rw [Request.lookup_apply]
    · simp [Job.count?]
    · cases same : post.didLike <;> simp [Job.call, Request.put, Request.Touches, same]
  | userLike user cell post =>
    rw [Request.lookup_apply]
    · simp [Job.count?]
    · cases same : post.didLike <;> simp [Job.call, Request.put, Request.Touches, same]
  | notice receiver data =>
    rw [Request.lookup_apply]
    · simp [Job.count?]
    · simp [Job.call, Request.Touches, DocumentReference.parent]

/-- What serving a job does to the two documents of a like. -/
private theorem has_served {job : Job} {choice : Choice} {answer} (succeeds : choice.succeeds = true)
    (served : cloud.serve choice store (job.call currentUid).request = some (later, answer))
    (postId : PostId) :
    later.has (.postLike postId currentUid) =
        (job.first? postId).getD (store.has (.postLike postId currentUid)) ∧
      later.has (.userLike currentUid postId) =
        (job.second? postId).getD (store.has (.userLike currentUid postId)) := by
  obtain ⟨fresh, applied, -⟩ := serve_firestore succeeds served
  have written (reference : DocumentReference)
      (apart : ¬ (job.call currentUid).request.AddsTo reference.parent) :
      later.has reference =
        ((job.call currentUid).request.writes? reference).getD (store.has reference) := by
    rw [Cloud.has, applied, Request.mem_apply apart]
    rfl
  cases job with
  | counter counted likes => constructor <;> exact written _ id
  | postLike user cell post =>
    rcases post with ⟨liked, caption, imageUrl, likes, owner, name, image, timestamp, didLike⟩
    cases didLike <;> constructor <;> refine (written _ id).trans ?_ <;>
      by_cases same : liked = postId <;>
        simp [Job.call, Request.put, Request.writes?, Job.first?, Job.second?, same]
  | userLike user cell post =>
    rcases post with ⟨liked, caption, imageUrl, likes, owner, name, image, timestamp, didLike⟩
    cases didLike <;> constructor <;> refine (written _ id).trans ?_ <;>
      by_cases same : liked = postId <;>
        simp [Job.call, Request.put, Request.writes?, Job.first?, Job.second?, same]
  | notice receiver data =>
    constructor <;> exact written _ (by simp [Job.call, Request.AddsTo, DocumentReference.parent])

/-- Serving a job that is foremost. -/
theorem continues_serve {job : Job} {choice : Choice} {answer} (foremost : Foremost before job)
    (succeeds : choice.succeeds = true)
    (served : cloud.serve choice store (job.call currentUid).request = some (later, answer)) :
    Continues store later app app (before ++ ⟨job, none⟩ :: last)
      (before ++ ⟨job, some answer⟩ :: last) := by
  refine ⟨fun postId => ?_, fun postId => ?_, fun postId => ?_, fun cell => .inl ⟨?_, rfl⟩, ?_,
    fun postId => by simp, fun postId => by simp [chains]⟩
  · have counted := lookup_served succeeds served postId
    rw [likesDue, likesDue]
    cases stored : store.firestore.lookup (.post postId) with
    | none => simpa [stored] using counted
    | some data =>
      obtain ⟨data', stored', same⟩ : ∃ data', later.firestore.lookup (.post postId) = some data' ∧
          data'.int "likes" = (job.count? postId).getD (data.int "likes") := by
        simpa [stored, Option.map_eq_some_iff] using counted
      rw [stored', Option.map_some, Option.map_some, same, settled_serve (foremost postId).1]
  · rw [postDue, postDue, (has_served succeeds served postId).1, settled_serve (foremost postId).2.1]
  · rw [userDue, userDue, (has_served succeeds served postId).2, settled_append, settled_append,
      settled_serve (foremost postId).2.2]
    simp
  · simp [completions]
  · intro posted member tag tagged
    rcases List.mem_append.mp member with member | member
    · exact ⟨posted, by simp [member], tagged⟩
    rcases List.mem_cons.mp member with rfl | member
    · exact ⟨⟨job, none⟩, by simp, tagged⟩
    · exact ⟨posted, by simp [member], tagged⟩

/-- No earlier job is of a like that the cell or the post of this one is part of. -/
def Undivided (before : List (Posted (Job.call currentUid))) (job : Job) : Prop :=
  ∀ tag ∈ job.tag?, chains before tag.2 = [] ∧ completions before tag.1 = []

/-- A job ends whose callback changes nothing and issues nothing. -/
private theorem continues_end {job : Job} {answer} (unchained : job.tag? = none) :
    Continues store store app app (before ++ ⟨job, some answer⟩ :: last) (before ++ last) := by
  have none (cell : Ref) (postId : PostId) : job.first? postId = none ∧ job.second? postId = none ∧
      job.starts? cell = none ∧ job.completes? cell = none := by
    cases job <;> first | exact ⟨rfl, rfl, rfl, rfl⟩ | cases unchained
  refine ⟨fun postId => by simp [likesDue], fun postId => by simp [postDue], fun postId => ?_,
    fun cell => .inl ⟨?_, rfl⟩, fun posted member tag tagged => ?_, fun postId => ?_, fun postId => ?_⟩
  · simp [userDue, none 0 postId]
  · simp [completions, none cell ""]
  · refine ⟨posted, ?_, tagged⟩
    simp only [List.mem_append, List.mem_cons] at member ⊢
    tauto
  · simp only [carried_append, carried_cons, List.length_append]
    omega
  · simp [chains, none 0 postId]

/-- The first document of a like is acknowledged, and the second is to be written. -/
private theorem continues_postLike {answer}
    (undivided : Undivided before (.postLike user cell post)) :
    Continues store store app app (before ++ ⟨.postLike user cell post, some answer⟩ :: last)
      (before ++ last ++ issue (Job.call currentUid) [.userLike user cell post]) := by
  obtain ⟨chained, completing⟩ := undivided (cell, post.postId) rfl
  obtain ⟨-, firsts⟩ := List.append_eq_nil_iff.mp chained
  obtain ⟨-, starts⟩ := List.append_eq_nil_iff.mp completing
  refine ⟨fun postId => ?_, fun postId => ?_, fun postId => ?_, fun other => .inl ⟨?_, rfl⟩,
    fun posted member tag tagged => ?_, fun postId => ?_, fun postId => ?_⟩
  · simp [likesDue, Job.count?]
  · simp [postDue, Job.first?]
  · by_cases same : post.postId = postId
    · subst same
      simp [userDue, Job.first?, Job.second?, firsts]
    · simp [userDue, Job.first?, Job.second?, same]
  · by_cases same : cell = other
    · subst same
      simp [completions, Job.starts?, Job.completes?, starts]
    · simp [completions, Job.starts?, Job.completes?, same]
  · rcases List.mem_append.mp member with member | member
    · refine ⟨posted, ?_, tagged⟩
      simp only [List.mem_append, List.mem_cons] at member ⊢
      tauto
    · obtain rfl := List.mem_singleton.mp member
      exact ⟨⟨.postLike user cell post, some answer⟩, by simp, tagged⟩
  · simp [Job.count?]
  · by_cases same : post.postId = postId
    · simp [chains, Job.first?, Job.second?, same, Nat.add_comm, Nat.add_left_comm]
    · simp [chains, Job.first?, Job.second?, same]

/-- The second document of a like is acknowledged, and its cell is given the new count. -/
private theorem continues_userLike {answer} {jobs : List Job}
    (undivided : Undivided before (.userLike user cell post))
    (issued : ∀ job ∈ jobs, ∃ receiver data, job = .notice receiver data) :
    Continues store store app (app.modify cell (recount (turned post)))
      (before ++ ⟨.userLike user cell post, some answer⟩ :: last)
      (before ++ last ++ issue (Job.call currentUid) jobs) := by
  obtain ⟨-, completing⟩ := undivided (cell, post.postId) rfl
  obtain ⟨completes, -⟩ := List.append_eq_nil_iff.mp completing
  have none (α : Type) (value? : Job → Option α) (quiet : ∀ receiver data,
      value? (.notice receiver data) = none) : jobs.filterMap value? = [] := by
    refine List.filterMap_eq_nil_iff.mpr fun job member => ?_
    obtain ⟨receiver, data, rfl⟩ := issued job member
    exact quiet receiver data
  refine ⟨fun postId => ?_, fun postId => ?_, fun postId => ?_, fun other => ?_,
    fun posted member tag tagged => ?_, fun postId => ?_, fun postId => ?_⟩
  · simp [likesDue, none _ (Job.count? postId) fun _ _ => rfl]
  · simp [postDue, none _ (Job.first? postId) fun _ _ => rfl]
  · simp [userDue, none _ (Job.first? postId) fun _ _ => rfl, none _ (Job.second? postId) fun _ _ => rfl,
      Job.first?]
  · have rest (cell : Ref) : completions (before ++ last ++ issue (Job.call currentUid) jobs) cell =
        carried (Job.completes? cell) before ++ carried (Job.completes? cell) last ++
          (carried (Job.starts? cell) before ++ carried (Job.starts? cell) last) := by
      simp [completions, none _ (Job.starts? cell) fun _ _ => rfl,
        none _ (Job.completes? cell) fun _ _ => rfl]
    rw [rest, LikedOnce.shown?_modify]
    by_cases same : other = cell
    · subst same
      refine .inr ⟨turned post, by simp [completions, Job.starts?, Job.completes?, completes], ?_⟩
      rw [if_pos rfl, App.shown?]
      cases app.find? FeedCell other <;> rfl
    · refine .inl ⟨?_, if_neg same⟩
      simp [completions, Job.starts?, Job.completes?, Ne.symm same]
  · rcases List.mem_append.mp member with member | member
    · refine ⟨posted, ?_, tagged⟩
      simp only [List.mem_append, List.mem_cons] at member ⊢
      tauto
    · obtain ⟨receiver, data, same⟩ := issued _ (mem_issue.mp member).1
      rw [same] at tagged
      cases tagged
  · simp [none _ (Job.count? postId) fun _ _ => rfl, Job.count?]
  · simp only [chains, carried_append, carried_cons, carried_issue,
      none _ (Job.first? postId) fun _ _ => rfl, none _ (Job.second? postId) fun _ _ => rfl,
      List.length_append, List.length_nil]
    omega

/-- The callback of a job of which no earlier one is in flight. -/
theorem continues_deliver (signedIn : app.currentUser = some currentUid) (job : Job) (answer)
    (undivided : Undivided before job) : ∃ after jobs,
      ((job.call currentUid).callback answer).run app =
        ⟨some after, jobs.map (Job.call currentUid), []⟩ ∧
      (after = app ∨ ∃ user cell post, job = .userLike user cell post ∧
        after = app.modify cell (recount (turned post))) ∧
      (∀ other ∈ jobs, ∀ tag ∈ other.tag?, tag ∈ job.tag?) ∧
      Continues store store app after (before ++ ⟨job, some answer⟩ :: last)
        (before ++ last ++ issue (Job.call currentUid) jobs) := by
  have ran := callback_run signedIn job answer
  cases job with
  | counter postId likes =>
    refine ⟨app, _, ran, .inl rfl, nofun, ?_⟩
    rw [issue_nil, List.append_nil]
    exact continues_end rfl
  | notice receiver data =>
    refine ⟨app, _, ran, .inl rfl, nofun, ?_⟩
    rw [issue_nil, List.append_nil]
    exact continues_end rfl
  | postLike user cell post =>
    refine ⟨app, _, ran, .inl rfl, fun other member tag tagged => ?_, continues_postLike undivided⟩
    obtain rfl := List.mem_singleton.mp member
    exact tagged
  | userLike user cell post =>
    have issued : ∀ job ∈ notices app.now currentUid user post,
        ∃ receiver data, job = .notice receiver data := by
      intro job member
      rw [notices] at member
      split_ifs at member with silent
      · cases member
      · exact ⟨_, _, List.mem_singleton.mp member⟩
    refine ⟨_, _, ran, .inr ⟨user, cell, post, rfl, rfl⟩, fun other member tag tagged => ?_,
      continues_userLike undivided issued⟩
    obtain ⟨receiver, data, rfl⟩ := issued other member
    cases tagged

/-- The work after a tap that is written. -/
abbrev tapped (work : List (Posted (Job.call currentUid))) (user : User) (cell : Ref)
    (post : Post) : List (Posted (Job.call currentUid)) :=
  work ++ issue (Job.call currentUid) [.counter post.postId (turned post), .postLike user cell post]

/-- A tap sets the count to come of its post, which is if the post exists. -/
theorem likesDue_tapped (postId : PostId) : likesDue store (tapped work user cell post) postId =
    if post.postId = postId then (likesDue store work postId).map fun _ => turned post
    else likesDue store work postId := by
  split_ifs with same
  · subst same
    simp [likesDue, Job.count?, Function.comp_def]
  · simp [likesDue, Job.count?, same]

theorem postDue_tapped (postId : PostId) : postDue store (tapped work user cell post) postId =
    if post.postId = postId then !post.didLike else postDue store work postId := by
  split_ifs with same
  · simp [postDue, Job.first?, same]
  · simp [postDue, Job.first?, same]

theorem userDue_tapped (postId : PostId) : userDue store (tapped work user cell post) postId =
    if post.postId = postId then !post.didLike else userDue store work postId := by
  split_ifs with same
  · simp [userDue, Job.first?, Job.second?, same, ← List.append_assoc]
  · simp [userDue, Job.first?, Job.second?, same]

theorem chains_tapped (postId : PostId) : (chains (tapped work user cell post) postId).length =
    (chains work postId).length + if post.postId = postId then 1 else 0 := by
  split_ifs with same
  · simp [chains, Job.first?, Job.second?, same, Nat.add_assoc]
  · simp [chains, Job.first?, Job.second?, same]

theorem completions_tapped (other : Ref) :
    completions (tapped work user cell post) other =
      completions work other ++ if cell = other then [turned post] else [] := by
  split_ifs with same
  · simp [completions, Job.starts?, Job.completes?, same]
  · simp [completions, Job.starts?, Job.completes?, same]

end Due

end LikeWork

end InstagramClone
