import InstagramClone.Soundness.CellWork

/-! # What the cells of a feed show

A cell is handed a copy of the post of its row. A like turns the copy of its cell and, when it is
written, the cell is given the new count, whatever post it shows by then; the feed's list keeps the
post as it was loaded. So a cell goes wrong when it is handed a post that was liked since, when it is
handed another post while its like is being written, and when another cell shows the post as well.
-/

namespace InstagramClone

open Async

namespace Request

/-- The post of which the request writes the account's like. -/
def liked? (uid : Uid) : Request → Option PostId
  | .setData (.postLike post account) _ | .delete (.postLike post account)
  | .setData (.userLike account post) _ | .delete (.userLike account post) =>
    if account = uid then some post else none
  | _ => none

/-- The post of which the request writes the count. -/
def counted? : Request → Option PostId
  | .updateData (.post post) _ => some post
  | _ => none

/-- The count of the post that the request writes. -/
def counts? (post : PostId) : Request → Option ℤ
  | .updateData reference fields => if reference = .post post then some (fields.int "likes") else none
  | _ => none

/-- The request reads whether the account likes the post. -/
def checks (uid : Uid) (post : PostId) : Request → Bool
  | .getDocument reference => decide (reference = .userLike uid post)
  | _ => false

end Request

namespace FeedCells

section Session

/-- What may happen on the feed's page: a tap on a cell's like button, a cell that is handed to a
row, one that is taken off the screen, a new one, a reload, or a signal. -/
inductive Input where
  | onTapLike (cell : Ref)
  | cellForItemAt (row : ℕ) (cell : Ref)
  | hide (cell : Ref)
  | newCell
  | onTapRefresh
  | signal (signal : Signal cloud)

/-- The network, with the cells on the screen. -/
structure Screen where
  net : Network cloud App (Option Ref) Unit
  given : List Ref := []

abbrev host (_ : Option Ref) : Unit := ()

variable (currentUid : Uid) (page : Ref) (net : Network cloud App (Option Ref) Unit)

/-- The feed's list. -/
def posts : List Post :=
  ((net.clients ()).bind fun app => app.find? FeedController page).elim [] FeedController.posts

/-- The post that the cell is handed for the row, if there are such. -/
def handed? (row : ℕ) (cell : Ref) : Option Post :=
  (net.clients ()).bind fun app =>
    (app.find? FeedCell cell).bind fun _ => app.handed? page row

/-- The post that the cell shows. -/
def shown? (cell : Ref) : Option Post := (net.clients ()).bind fun app => app.shown? cell

/-- The signal sets the feed's list, so that the collection asks for its cells anew. -/
def resets : Signal cloud → Bool
  | .deliver index => net.flight[index]?.any fun pending =>
      pending.answer.any (CellWork.sets (posts page net) pending.call.request)
  | _ => false

/-- One step of a session whose requests do not fail. Cells on the screen are tapped, and cells are
handed to rows that there are. -/
def step? (screen : Screen) : Input → Option Screen
  | .onTapLike cell =>
    if cell ∈ screen.given then
      some { screen with net := screen.net.launch host (some cell) (FeedCell.onTapLike cell) }
    else none
  | .cellForItemAt row cell =>
    if (handed? page screen.net row cell).isSome then
      some ⟨screen.net.launch host none (FeedController.cellForItemAt page row cell),
        cell :: screen.given.filter (· ≠ cell)⟩
    else none
  | .hide cell => some { screen with given := screen.given.filter (· ≠ cell) }
  | .newCell => some { screen with net := screen.net.launch host none (FeedController.newCell page) }
  | .onTapRefresh =>
    some { screen with net := screen.net.launch host none (FeedController.onTapRefresh page) }
  | .signal signal =>
    if succeeds signal = true then
      (screen.net.signal? host signal).map fun net =>
        ⟨net, if resets page screen.net signal then [] else screen.given⟩
    else none

/-- A tap on a post comes after the likes of the tap on it before have been written. -/
def Awaited (screen : Screen) : Input → Prop
  | .onTapLike cell => ∀ app ∈ screen.net.clients (), ∀ post ∈ app.tapped? cell,
    ∀ pending ∈ screen.net.flight, pending.call.request.liked? currentUid ≠ some post.postId
  | _ => True

/-- A check is under way that ends with the feed's list set anew. -/
def Checking (postId : PostId) : Prop :=
  ∃ pending ∈ net.flight, pending.call.request.checks currentUid postId = true

/-- Whether the account likes the post once the likes in flight are written. -/
def flagDue (postId : PostId) : Bool :=
  settled (net.store.has (.userLike currentUid postId))
    (net.flight.filterMap (fun pending => if pending.answer.isNone then
        pending.call.request.writes? (.userLike currentUid postId) else none) ++
      net.flight.filterMap fun pending =>
        pending.call.request.writes? (.postLike postId currentUid))

/-- The count of the post once the counts in flight are written. -/
def countDue (postId : PostId) : Option ℤ :=
  (net.store.firestore.lookup (.post postId)).map fun data =>
    settled (data.int "likes") (net.flight.filterMap fun pending =>
      if pending.answer.isNone then pending.call.request.counts? postId else none)

/-- The cell is in the middle of a like of the post. -/
def Liking (cell : Ref) (postId : PostId) : Prop :=
  ∃ pending ∈ net.flight, pending.origin = some cell ∧
    pending.call.request.liked? currentUid = some postId

/-- The copy is as the post will be in the store. A cell in the middle of its like is given the
count. -/
def UpToDate (cell : Ref) (post : Post) : Prop :=
  post.didLike = flagDue currentUid net post.postId ∧ ∃ likes ∈ countDue net post.postId,
    likes = post.likes ∨ Liking currentUid net cell post.postId

/-- The steps that do no harm. A cell in the middle of a like is not handed another post, and is
handed a copy that is up to date or about to be checked; a post that is not about to be checked is
tapped in the only cell that shows it, and not to take back a like of a copy that counts none; and
counts of a post are written in the order of the taps. -/
def Clean (screen : Screen) : Input → Prop
  | .cellForItemAt row cell => ∀ post ∈ handed? page screen.net row cell,
    (∀ pending ∈ screen.net.flight, pending.origin = some cell →
      ∀ other ∈ pending.call.request.liked? currentUid, other = post.postId) ∧
    (Checking currentUid screen.net post.postId ∨ UpToDate currentUid screen.net cell post)
  | .onTapLike cell => ∀ app ∈ screen.net.clients (), ∀ post ∈ app.tapped? cell,
    Checking currentUid screen.net post.postId ∨ (post.didLike = true → 0 < post.likes) ∧
      ∀ other ∈ screen.given, ∀ copy ∈ app.shown? other, copy.postId = post.postId → other = cell
  | .signal (.serve index _) => ∀ pending ∈ screen.net.flight[index]?,
    ∀ postId ∈ pending.call.request.counted?, ∀ other ∈ screen.net.flight.take index,
      other.call.request.counted? = some postId → other.answer.isSome = true
  | _ => True

instance (screen : Screen) : (input : Input) → Decidable (Awaited currentUid screen input)
  | .onTapLike cell => inferInstanceAs (Decidable (∀ app ∈ screen.net.clients (),
      ∀ post ∈ app.tapped? cell, ∀ pending ∈ screen.net.flight,
        pending.call.request.liked? currentUid ≠ some post.postId))
  | .cellForItemAt .. | .hide _ | .newCell | .onTapRefresh | .signal _ =>
    inferInstanceAs (Decidable True)

instance (postId : PostId) : Decidable (Checking currentUid net postId) :=
  inferInstanceAs (Decidable (∃ pending ∈ net.flight,
    pending.call.request.checks currentUid postId = true))

instance (cell : Ref) (postId : PostId) : Decidable (Liking currentUid net cell postId) :=
  inferInstanceAs (Decidable (∃ pending ∈ net.flight, pending.origin = some cell ∧
    pending.call.request.liked? currentUid = some postId))

instance (cell : Ref) (post : Post) : Decidable (UpToDate currentUid net cell post) :=
  inferInstanceAs (Decidable (post.didLike = flagDue currentUid net post.postId ∧
    ∃ likes ∈ countDue net post.postId,
      likes = post.likes ∨ Liking currentUid net cell post.postId))

instance (screen : Screen) : (input : Input) → Decidable (Clean currentUid page screen input)
  | .cellForItemAt row cell => inferInstanceAs (Decidable (∀ post ∈ handed? page screen.net row cell,
      (∀ pending ∈ screen.net.flight, pending.origin = some cell →
        ∀ other ∈ pending.call.request.liked? currentUid, other = post.postId) ∧
      (Checking currentUid screen.net post.postId ∨ UpToDate currentUid screen.net cell post)))
  | .onTapLike cell => inferInstanceAs (Decidable (∀ app ∈ screen.net.clients (),
      ∀ post ∈ app.tapped? cell, Checking currentUid screen.net post.postId ∨
        (post.didLike = true → 0 < post.likes) ∧ ∀ other ∈ screen.given,
          ∀ copy ∈ app.shown? other, copy.postId = post.postId → other = cell))
  | .signal (.serve index _) => inferInstanceAs (Decidable (∀ pending ∈ screen.net.flight[index]?,
      ∀ postId ∈ pending.call.request.counted?, ∀ other ∈ screen.net.flight.take index,
        other.call.request.counted? = some postId → other.answer.isSome = true))
  | .signal (.deliver _) | .signal (.notify ..) | .hide _ | .newCell | .onTapRefresh =>
    inferInstanceAs (Decidable True)

/-- A session that has its feed open with nothing in flight and no cell on the screen. -/
structure Opened (screen : Screen) : Prop where
  idle : screen.net.flight = []
  quiet : screen.net.listeners = []
  blank : screen.given = []
  client : ∃ app, screen.net.clients () = some app ∧ app.currentUser = some currentUid ∧
    ∃ feed, app.find? FeedController page = some feed ∧ feed.post = none

/-- The completion of a like of one post changes nothing that a cell on the screen shows of
another. -/
def Framed (screen : Screen) : Prop :=
  ∀ index next, ∀ pending ∈ screen.net.flight[index]?,
    ∀ postId ∈ pending.call.request.liked? currentUid,
      step? page screen (.signal (.deliver index)) = some next →
        ∀ cell ∈ screen.given, ∀ post ∈ shown? screen.net cell, post.postId ≠ postId →
          shown? next.net cell = some post

/-- The cell shows a post as it is in the store. -/
def Agrees (cell : Ref) : Prop :=
  ∃ post ∈ shown? net cell, post.didLike = net.store.has (.userLike currentUid post.postId) ∧
    ∃ data ∈ net.store.firestore.lookup (.post post.postId), data.int "likes" = post.likes

end Session

section Told

open CellWork
open LikeWork (likesDue userDue completions chains shownDue Continues)

variable {currentUid : Uid} {page : Ref} {given : List Ref} {store later : Cloud} {app after : App}
  {work rest before last : List (Posted (Job.call currentUid page))} {cell : Ref} {postId : PostId}
  {post : Post} {feed : FeedController}

/-- A check of the post is under way. -/
def Checked (work : List (Posted (Job.call currentUid page))) (postId : PostId) : Prop :=
  Underway (fun job => ∃ load, job = .load (.like load postId)) work

/-- The cell shows a post of the feed's list, of which alone it may be in the middle of a like. The
post is about to be checked, or what is to come of the cell is what is to come of the store. -/
structure Shows (store : Cloud) (app : App) (work : List (Posted (Job.call currentUid page)))
    (feed : FeedController) (cell : Ref) (postId : PostId) : Prop where
  shown : (app.shown? cell).map Post.postId = some postId
  listed : postId ∈ feed.posts.map Post.postId
  tagged : ∀ other, Tagged (likes work) cell other → other = postId
  agrees : Checked work postId ∨ ∃ count, likesDue store (likes work) postId = some count ∧
    shownDue app (likes work) cell = some (postId, userDue store (likes work) postId, count)

/-- What is kept of a job in flight. -/
def Sound (app : App) : Posted (Job.call currentUid page) → Prop
  | ⟨.load (.like _ _), some answer⟩ => ∃ snapshot, answer = .ok snapshot
  | ⟨.load job, _⟩ => ∀ list ∈ job.list?, ∃ posts, app.find? (List Post) list = some posts
  | ⟨.like cell job, _⟩ => ∀ tag ∈ job.tag?, tag.1 = cell

/-- Each cell on the screen shows what is to come. -/
structure Told (given : List Ref) (store : Cloud) (app : App)
    (work : List (Posted (Job.call currentUid page))) : Prop where
  signedIn : app.currentUser = some currentUid
  sound : ∀ posted ∈ work, Sound app posted
  single : Single (likes work)
  counting : ∀ cell postId, Tagged (likes work) cell postId →
    ∀ count ∈ likesDue store (likes work) postId, completions (likes work) cell = [count]
  shows : ∃ feed, app.find? FeedController page = some feed ∧ feed.post = none ∧
    ∀ cell ∈ given, ∃ postId, Shows store app work feed cell postId

/-- A cell shows the same as long as nothing of what is to come changes. -/
private theorem Shows.mono (shows : Shows store app work feed cell postId)
    (same : after.shown? cell = app.shown? cell) (taps : likes rest = likes work)
    (checked : Checked work postId → Checked rest postId) :
    Shows store after rest feed cell postId := by
  refine ⟨?_, shows.listed, ?_, ?_⟩
  · rw [same]
    exact shows.shown
  · rw [taps]
    exact shows.tagged
  · refine shows.agrees.imp checked ?_
    rw [taps, shownDue, shownDue, same]
    exact id

/-- A signal for a tap keeps what is to come of a cell. -/
private theorem Shows.continues (shows : Shows store app work feed cell postId)
    (continues : Continues store later app after (likes work) (likes rest))
    (checked : Checked work postId → Checked rest postId) :
    Shows later after rest feed cell postId := by
  refine ⟨?_, shows.listed, fun other tagged => ?_, shows.agrees.imp checked ?_⟩
  · obtain ⟨-, same⟩ | ⟨count, -, same⟩ := continues.shown cell
    · rw [same]
      exact shows.shown
    · rw [same, Option.map_map]
      exact shows.shown
  · obtain ⟨posted, member, tag⟩ := tagged
    exact shows.tagged other (continues.tags posted member _ tag)
  · rw [continues.likes, continues.second, continues.shownDue]
    exact id

/-- The facts about taps that a signal for a tap keeps. -/
private theorem single_continues (single : Single (likes work))
    (continues : Continues store later app after (likes work) (likes rest)) : Single (likes rest) := by
  refine ⟨fun postId => (continues.chains postId).trans (single.chained postId), fun cell => ?_⟩
  have before := single.completing cell
  obtain ⟨same, -⟩ | ⟨count, completes, -⟩ := continues.shown cell
  · rw [same]
    exact before
  · rw [completes, List.length_cons] at before
    omega

private theorem counting_continues
    (counting : ∀ cell postId, Tagged (likes work) cell postId →
      ∀ count ∈ likesDue store (likes work) postId, completions (likes work) cell = [count])
    (continues : Continues store later app after (likes work) (likes rest))
    (tagged : Tagged (likes rest) cell postId) (count : ℤ)
    (due : count ∈ likesDue later (likes rest) postId) : completions (likes rest) cell = [count] := by
  have earlier : Tagged (likes work) cell postId := by
    obtain ⟨posted, member, tag⟩ := tagged
    exact continues.tags posted member _ tag
  rw [continues.likes] at due
  have one := counting cell postId earlier count due
  obtain ⟨same, -⟩ | ⟨value, completes, -⟩ := continues.shown cell
  · rw [same, one]
  · rw [one] at completes
    exact absurd (List.cons.inj completes).2.symm tagged.completions

private theorem Sound.mono {posted : Posted (Job.call currentUid page)} (sound : Sound app posted)
    (captured : ∀ list, (∃ posts, app.find? (List Post) list = some posts) →
      ∃ posts, after.find? (List Post) list = some posts) : Sound after posted := by
  rcases posted with ⟨job, answer⟩
  cases job with
  | like cell job => exact sound
  | load job =>
    cases job with
    | feeds load list => exact fun other listed => captured other (sound other listed)
    | post load list postId => exact fun other listed => captured other (sound other listed)
    | like load postId =>
      cases answer with
      | none => nofun
      | some answer => exact sound

/-- Jobs that are served in turn write after those that write the same. -/
private theorem foremost_of_single {job : LikeWork.Job}
    {taps others : List (Posted (LikeWork.Job.call currentUid))} {answer} (single : Single (taps ++ ⟨job, answer⟩ :: others))
    (counted : ∀ postId, (job.count? postId).isSome →
      Async.owed (LikeWork.Job.count? postId) taps = []) :
    LikeWork.Foremost taps job := by
  have undivided := single.undivided
  refine fun postId => ⟨counted postId, fun writes => ?_, fun writes => ?_⟩
  · cases job with
    | postLike user cell post =>
      obtain ⟨chained, -⟩ := undivided _ rfl
      obtain ⟨value, same⟩ := Option.isSome_iff_exists.mp writes
      obtain ⟨rfl, -⟩ := Option.ite_none_right_eq_some.mp same
      exact owed_of_carried (List.append_eq_nil_iff.mp chained).2
    | _ => cases writes
  · cases job with
    | userLike user cell post =>
      obtain ⟨chained, -⟩ := undivided _ rfl
      obtain ⟨value, same⟩ := Option.isSome_iff_exists.mp writes
      obtain ⟨rfl, -⟩ := Option.ite_none_right_eq_some.mp same
      exact owed_of_carried (List.append_eq_nil_iff.mp chained).1
    | _ => cases writes

/-- A request is served. -/
private theorem Told.serve {job : Job} {choice : Choice} {answer}
    (told : Told given store app (before ++ ⟨job, none⟩ :: last))
    (counted : ∀ cell like, job = .like cell like → ∀ postId, (like.count? postId).isSome →
      Async.owed (LikeWork.Job.count? postId) (likes before) = [])
    (succeeds : choice.succeeds = true)
    (served : cloud.serve choice store (job.call currentUid page).request = some (later, answer)) :
    Told given later app (before ++ ⟨job, some answer⟩ :: last) := by
  obtain ⟨signedIn, sound, single, counting, feed, found, all, shows⟩ := told
  have answered : Sound app (⟨job, some answer⟩ : Posted (Job.call currentUid page)) := by
    have before := sound ⟨job, none⟩ (by simp)
    cases job with
    | like cell job => exact before
    | load job =>
      obtain ⟨-, right⟩ := FeedWork.right_serve succeeds served
      cases job with
      | like load postId => exact ⟨_, right _ rfl⟩
      | _ => exact before
  have sound : ∀ posted ∈ before ++ (⟨job, some answer⟩ : Posted (Job.call currentUid page)) :: last,
      Sound app posted := by
    intro posted member
    rcases List.mem_append.mp member with member | member
    · exact sound posted (by simp [member])
    rcases List.mem_cons.mp member with rfl | member
    · exact answered
    · exact sound posted (by simp [member])
  cases job with
  | load job =>
    obtain ⟨rfl, -⟩ := FeedWork.right_serve succeeds served
    refine ⟨signedIn, sound, by simpa using single, by simpa using counting, feed, found, all,
      fun cell member => ?_⟩
    obtain ⟨postId, shows⟩ := shows cell member
    exact ⟨postId, shows.mono rfl (by simp) Underway.serve⟩
  | like cell job =>
    have continues : Continues store later app app (likes (before ++ ⟨.like cell job, none⟩ :: last))
        (likes (before ++ ⟨.like cell job, some answer⟩ :: last)) := by
      simp only [likes_append, likes_cons_like] at single ⊢
      exact LikeWork.continues_serve (foremost_of_single single (counted cell job rfl)) succeeds served
    refine ⟨signedIn, sound, single_continues single continues,
      fun cell postId tagged => counting_continues counting continues tagged, feed, found, all,
      fun cell member => ?_⟩
    obtain ⟨postId, shows⟩ := shows cell member
    exact ⟨postId, shows.continues continues Underway.serve⟩

private theorem issue_sound {jobs : List Job} (sound : ∀ job ∈ jobs,
    Sound app (⟨job, none⟩ : Posted (Job.call currentUid page)))
    (earlier : ∀ posted ∈ work, Sound app posted) :
    ∀ posted ∈ work ++ issue (Job.call currentUid page) jobs, Sound app posted := by
  intro posted member
  rcases List.mem_append.mp member with member | member
  · exact earlier posted member
  · obtain ⟨listed, unanswered⟩ := mem_issue.mp member
    rcases posted with ⟨job, answer⟩
    obtain rfl : answer = none := unanswered
    exact sound job listed

/-- What a completed like changes is its cell. -/
private theorem find?_completed {α : Type} [Instance α] {like : LikeWork.Job}
    (apart : ∀ shown : FeedCell, (Instance.project (Instance.inject shown) : Option α) = none)
    (change : after = app ∨ ∃ user cell post, like = .userLike user cell post ∧
      after = app.modify cell (LikeWork.recount (LikeWork.turned post))) (ref : Ref) :
    after.find? α ref = app.find? α ref := by
  obtain rfl | ⟨user, cell, post, -, rfl⟩ := change
  · rfl
  · exact App.find?_modify_other apart ..

/-- The answer to a request of a tap reaches its callback. -/
private theorem Told.deliver_like {like : LikeWork.Job} {answer}
    (told : Told given store app (before ++ ⟨.like cell like, some answer⟩ :: last)) :
    ∃ (after : App) (jobs : List LikeWork.Job),
      (((Job.like cell like).call currentUid page).callback answer).run app =
        ⟨some after, (jobs.map (Job.like cell)).map (Job.call currentUid page), []⟩ ∧
      (after = app ∨ ∃ user cell post, like = .userLike user cell post ∧
        after = app.modify cell (LikeWork.recount (LikeWork.turned post))) ∧
      Told given store after
        (before ++ last ++ issue (Job.call currentUid page) (jobs.map (Job.like cell))) := by
  obtain ⟨signedIn, sound, single, counting, feed, found, all, shows⟩ := told
  have undivided : LikeWork.Undivided (likes before) like := by
    simp only [likes_append, likes_cons_like] at single
    exact single.undivided
  obtain ⟨after, jobs, ran, change, tags, continues⟩ :=
    LikeWork.continues_deliver signedIn like answer undivided
  have continues : Continues store store app after
      (likes (before ++ ⟨.like cell like, some answer⟩ :: last))
      (likes (before ++ last ++ issue (Job.call currentUid page) (jobs.map (Job.like cell)))) := by
    simp only [likes_append, likes_cons_like, likes_issue_like]
    exact continues
  have kept : ∀ posted ∈ before ++ last, Sound after posted := by
    intro posted member
    refine (sound posted ?_).mono fun list captured => ?_
    · simp only [List.mem_append, List.mem_cons] at member ⊢
      tauto
    · rw [find?_completed (fun _ => rfl) change]
      exact captured
  refine ⟨after, jobs, run_like cell ran, change, ?_, issue_sound (fun job member => ?_) kept,
    single_continues single continues,
    fun cell postId tagged => counting_continues counting continues tagged, feed, ?_, all,
    fun other member => ?_⟩
  · obtain rfl | ⟨user, cell, post, -, rfl⟩ := change
    · exact signedIn
    · exact signedIn
  · obtain ⟨issued, listed, rfl⟩ := List.mem_map.mp member
    intro tag tagged
    have mine : ∀ tag ∈ like.tag?, tag.1 = cell := sound ⟨.like cell like, some answer⟩ (by simp)
    exact mine tag (tags issued listed tag tagged)
  · rw [find?_completed (fun _ => rfl) change]
    exact found
  · obtain ⟨postId, shows⟩ := shows other member
    refine ⟨postId, shows.continues continues fun checked => (checked.rest ?_).append _⟩
    rintro ⟨load, impossible⟩
    cases impossible

/-- A list that a job is to fill is there. -/
private theorem Sound.captured {load : FeedWork.Job} {answer}
    (sound : Sound app (⟨.load load, answer⟩ : Posted (Job.call currentUid page))) :
    ∀ list ∈ load.list?, ∃ posts, app.find? (List Post) list = some posts := by
  cases load with
  | like load postId => nofun
  | feeds load list => exact sound
  | post load list postId => exact sound

private theorem sound_of_captured {load : FeedWork.Job}
    (captured : ∀ list ∈ load.list?, ∃ posts, app.find? (List Post) list = some posts) :
    Sound app (⟨.load load, none⟩ : Posted (Job.call currentUid page)) := by
  cases load <;> exact captured

/-- The answer to a request of a load reaches its callback. -/
private theorem Told.deliver_load {load : FeedWork.Job} {answer}
    (told : Told given store app (before ++ ⟨.load load, some answer⟩ :: last))
    (found : app.find? FeedController page = some feed) :
    ∃ (after : App) (jobs : List FeedWork.Job),
      (((Job.load load).call currentUid page).callback answer).run app =
        ⟨some after, (jobs.map Job.load).map (Job.call currentUid page), []⟩ ∧
      Told (if sets feed.posts ((Job.load load).call currentUid page).request answer then []
        else given) store after
        (before ++ last ++ issue (Job.call currentUid page) (jobs.map Job.load)) := by
  obtain ⟨signedIn, sound, single, counting, _, same, all, shows⟩ := told
  obtain rfl := Option.some.inj (found.symm.trans same)
  have ending := sound ⟨.load load, some answer⟩ (by simp)
  obtain ⟨after, jobs, ran, mine, changes, unset⟩ :=
    load_run signedIn found all ending.captured answer
  have kept : ∀ posted ∈ before ++ last, Sound after posted := by
    intro posted member
    refine (sound posted ?_).mono fun list captured => changes.captured captured
    simp only [List.mem_append, List.mem_cons] at member ⊢
    tauto
  have taps : likes (before ++ last ++ issue (Job.call currentUid page) (jobs.map Job.load)) =
      likes (before ++ ⟨.load load, some answer⟩ :: last) := by
    simp
  refine ⟨after, jobs, run_load ran, changes.currentUser.trans signedIn,
    issue_sound (fun job member => ?_) kept, ?_, ?_, ?_⟩
  · obtain ⟨issued, listed, rfl⟩ := List.mem_map.mp member
    refine sound_of_captured fun list wanted => ?_
    exact changes.captured (ending.captured list (mine issued listed list wanted))
  · rw [taps]
    exact single
  · rw [taps]
    exact counting
  · cases setting : sets feed.posts ((Job.load load).call currentUid page).request answer with
    | true =>
      obtain ⟨posts, later⟩ := changes.find?_feed found
      exact ⟨_, later, all, by simp⟩
    | false =>
      refine ⟨feed, unset setting, all, fun cell member => ?_⟩
      rw [if_neg Bool.false_ne_true] at member
      obtain ⟨postId, shows⟩ := shows cell member
      refine ⟨postId, shows.mono (shown?_shows changes cell) taps fun checked =>
        (checked.rest fun ⟨number, check⟩ => ?_).append _⟩
      obtain rfl := Job.load.inj check
      obtain ⟨snapshot, rfl⟩ := ending
      exact of_decide_eq_false setting shows.listed

private theorem find?_toggled {α : Type} [Instance α]
    (apart : ∀ shown : FeedCell, (Instance.project (Instance.inject shown) : Option α) = none)
    (ref : Ref) : (app.modify cell LikedOnce.toggle).find? α ref = app.find? α ref :=
  App.find?_modify_other apart ..

private theorem shown?_toggled (shown : app.shown? cell = some post) :
    (app.modify cell LikedOnce.toggle).shown? cell = some { post with didLike := !post.didLike } := by
  obtain ⟨value, found, model⟩ := Option.bind_eq_some_iff.mp shown
  rw [LikedOnce.shown?_modify, if_pos rfl, found]
  simp [LikedOnce.toggle, model]

/-- A tap that has nothing to write, on a post that is about to be checked. -/
private theorem Told.tap_dropped (told : Told given store app work)
    (shown : app.shown? cell = some post) (checked : Checked work post.postId) :
    Told given store (app.modify cell LikedOnce.toggle) work := by
  obtain ⟨signedIn, sound, single, counting, feed, found, all, shows⟩ := told
  refine ⟨signedIn, fun posted member => (sound posted member).mono fun list captured => ?_, single,
    counting, feed, ?_, all, fun other member => ?_⟩
  · rw [find?_toggled fun _ => rfl]
    exact captured
  · rw [find?_toggled fun _ => rfl]
    exact found
  · obtain ⟨postId, shows⟩ := shows other member
    by_cases same : other = cell
    · subst same
      obtain rfl : post.postId = postId := by simpa [shown] using shows.shown
      refine ⟨post.postId, ⟨?_, shows.listed, shows.tagged, .inl checked⟩⟩
      rw [shown?_toggled shown]
      rfl
    · refine ⟨postId, shows.mono ?_ rfl id⟩
      rw [LikedOnce.shown?_modify, if_neg same]

/-- The cell that was tapped shows what the tap is to write. -/
private theorem Shows.tapped (shows : Shows store app work feed cell post.postId)
    (shown : app.shown? cell = some post) (free : completions (likes work) cell = []) {user : User}
    (taps : likes rest = LikeWork.tapped (likes work) user cell post)
    (checked : Checked work post.postId → Checked rest post.postId) :
    Shows store (app.modify cell LikedOnce.toggle) rest feed cell post.postId := by
  refine ⟨?_, shows.listed, fun id tagged => ?_, shows.agrees.imp checked ?_⟩
  · rw [shown?_toggled shown]
    rfl
  · rw [taps] at tagged
    exact (tagged_tapped tagged).elim (shows.tagged id) And.right
  · rintro ⟨count, due, -⟩
    refine ⟨LikeWork.turned post, ?_, ?_⟩
    · rw [taps, LikeWork.likesDue_tapped, if_pos rfl, due]
      rfl
    · rw [taps, shownDue, shown?_toggled shown, LikeWork.completions_tapped, if_pos rfl, free,
        LikeWork.userDue_tapped, if_pos rfl]
      rfl

/-- The others show what they showed, and the post that was tapped only if that is checked. -/
private theorem Shows.beside {other : Ref} (shows : Shows store app work feed other postId)
    (apart : other ≠ cell) (clean : Checked work post.postId ∨ post.postId ≠ postId) {user : User}
    (taps : likes rest = LikeWork.tapped (likes work) user cell post)
    (checked : ∀ {id}, Checked work id → Checked rest id) :
    Shows store (app.modify cell LikedOnce.toggle) rest feed other postId := by
  have still : (app.modify cell LikedOnce.toggle).shown? other = app.shown? other := by
    rw [LikedOnce.shown?_modify, if_neg apart]
  refine ⟨?_, shows.listed, fun id tagged => ?_, ?_⟩
  · rw [still]
    exact shows.shown
  · rw [taps] at tagged
    exact (tagged_tapped tagged).elim (shows.tagged id) fun here => absurd here.1 apart
  · by_cases here : post.postId = postId
    · exact .inl (here ▸ checked (clean.resolve_right fun distinct => distinct here))
    · refine shows.agrees.imp checked ?_
      rw [taps, LikeWork.likesDue_tapped, if_neg here, LikeWork.userDue_tapped, if_neg here, shownDue,
        shownDue, still, LikeWork.completions_tapped, if_neg (Ne.symm apart), List.append_nil]
      exact fun agrees => agrees

/-- A tap that is written, with no like of its post being written before. -/
private theorem Told.tap_written (told : Told given store app work) (onScreen : cell ∈ given)
    (shown : app.shown? cell = some post) (awaited : chains (likes work) post.postId = [])
    (clean : Checked work post.postId ∨ ∀ other ∈ given, ∀ copy ∈ app.shown? other,
      copy.postId = post.postId → other = cell) (user : User) :
    Told given store (app.modify cell LikedOnce.toggle)
      (work ++ issue (Job.call currentUid page)
        ([.counter post.postId (LikeWork.turned post), .postLike user cell post].map
          (Job.like cell))) := by
  obtain ⟨signedIn, sound, single, counting, feed, found, all, shows⟩ := told
  have taps : likes (work ++ issue (Job.call currentUid page)
      ([.counter post.postId (LikeWork.turned post), .postLike user cell post].map
        (Job.like cell))) = LikeWork.tapped (likes work) user cell post := by
    rw [likes_append, likes_issue_like]
  have free : completions (likes work) cell = [] := by
    by_contra some
    obtain ⟨postId, tagged⟩ := tagged_of_completions some
    obtain ⟨shownId, shows⟩ := shows cell onScreen
    obtain rfl : post.postId = shownId := by simpa [shown] using shows.shown
    exact (shows.tagged postId tagged ▸ tagged).chains awaited
  refine ⟨signedIn, issue_sound (fun job member => ?_) fun posted member =>
    (sound posted member).mono fun list captured => ?_, ?_, fun other postId tagged => ?_, feed, ?_,
    all, fun other member => ?_⟩
  · obtain ⟨like, listed, rfl⟩ := List.mem_map.mp member
    rcases List.mem_pair.mp listed with rfl | rfl
    · nofun
    · rintro _ ⟨⟩
      rfl
  · rw [find?_toggled fun _ => rfl]
    exact captured
  · rw [taps]
    exact single.tapped awaited free
  · rw [taps] at tagged ⊢
    exact counting_tapped counting awaited free tagged
  · rw [find?_toggled fun _ => rfl]
    exact found
  · obtain ⟨postId, shows⟩ := shows other member
    by_cases same : other = cell
    · subst same
      obtain rfl : post.postId = postId := by simpa [shown] using shows.shown
      exact ⟨_, shows.tapped shown free taps fun checked => checked.append _⟩
    · refine ⟨postId, shows.beside same ?_ taps fun checked => checked.append _⟩
      refine clean.imp_right fun alone here => ?_
      obtain ⟨copy, displayed, about⟩ := Option.map_eq_some_iff.mp shows.shown
      exact same (alone other member copy displayed (about.trans here.symm))

/-- The cell is given the post. -/
def give (page cell : Ref) (post : Post) (app : App) : App :=
  app.modify cell fun _ : FeedCell => ⟨some post, page⟩

private theorem cellForItemAt_run {row : ℕ} (handed : app.handed? page row = some post) :
    (FeedController.cellForItemAt page row cell).run app =
      ⟨some (give page cell post app), ([] : List Job).map (Job.call currentUid page), []⟩ := by
  obtain ⟨feed, found, row⟩ := Option.bind_eq_some_iff.mp handed
  simp only [FeedController.cellForItemAt, Code.withObject, Program.run_inspect, found, row]
  rfl

private theorem find?_give {α : Type} [Instance α]
    (apart : ∀ shown : FeedCell, (Instance.project (Instance.inject shown) : Option α) = none)
    (ref : Ref) : (give page cell post app).find? α ref = app.find? α ref :=
  App.find?_modify_other apart ..

/-- A cell is handed a post that is about to be checked, or a copy that is up to date. -/
private theorem Told.give (told : Told given store app work) {old : FeedCell} {row : ℕ}
    (there : app.find? FeedCell cell = some old) (handed : app.handed? page row = some post)
    (tagged : ∀ other, Tagged (likes work) cell other → other = post.postId)
    (fresh : Checked work post.postId ∨ post.didLike = userDue store (likes work) post.postId ∧
      ∃ count ∈ likesDue store (likes work) post.postId, count = post.likes ∨
        Tagged (likes work) cell post.postId) :
    Told (cell :: given.filter (· ≠ cell)) store (FeedCells.give page cell post app) work := by
  obtain ⟨signedIn, sound, single, counting, feed, found, all, shows⟩ := told
  refine ⟨signedIn, fun posted member => (sound posted member).mono fun list captured => ?_, single,
    counting, feed, ?_, all, fun other member => ?_⟩
  · rw [find?_give fun _ => rfl]
    exact captured
  · rw [find?_give fun _ => rfl]
    exact found
  by_cases same : other = cell
  · subst same
    have shown : (FeedCells.give page other post app).shown? other = some post := by
      rw [FeedCells.give, LikedOnce.shown?_modify, if_pos rfl, there]
      rfl
    refine ⟨post.postId, ?_, ?_, tagged, fresh.imp_right ?_⟩
    · rw [shown]
      rfl
    · obtain ⟨_, same, listed⟩ := Option.bind_eq_some_iff.mp handed
      obtain rfl := Option.some.inj (found.symm.trans same)
      rw [FeedController.row?, all] at listed
      exact List.mem_map_of_mem (List.mem_of_getElem? listed)
    · rintro ⟨flag, count, due, counted⟩
      have settles : settled post.likes (completions (likes work) other) = count := by
        by_cases none : completions (likes work) other = []
        · rcases counted with rfl | again
          · rw [none]
            rfl
          · exact absurd none again.completions
        · obtain ⟨id, again⟩ := tagged_of_completions none
          obtain rfl := tagged id again
          rw [counting other _ again count due]
          rfl
      refine ⟨count, due, ?_⟩
      rw [shownDue, shown, Option.map_some, flag, settles]
  · have listed : other ∈ given := by
      rcases List.mem_cons.mp member with here | member
      · exact absurd here same
      · exact List.mem_of_mem_filter member
    obtain ⟨postId, shows⟩ := shows other listed
    refine ⟨postId, shows.mono ?_ rfl id⟩
    rw [FeedCells.give, LikedOnce.shown?_modify, if_neg same]

/-- Allocation leaves what the cells on the screen show. -/
private theorem Told.add (told : Told given store app work) (object : Object) (inTab : Bool) :
    Told given store (app.add object inTab) work := by
  obtain ⟨signedIn, sound, single, counting, feed, found, all, shows⟩ := told
  refine ⟨signedIn, fun posted member => (sound posted member).mono fun list captured => ?_, single,
    counting, feed, App.find?_add found _ _, all, fun other member => ?_⟩
  · obtain ⟨posts, captured⟩ := captured
    exact ⟨posts, App.find?_add captured _ _⟩
  · obtain ⟨postId, shows⟩ := shows other member
    refine ⟨postId, shows.mono ?_ rfl id⟩
    obtain ⟨copy, displayed, -⟩ := Option.map_eq_some_iff.mp shows.shown
    obtain ⟨value, there, model⟩ := Option.bind_eq_some_iff.mp displayed
    rw [App.shown?, App.shown?, App.find?_add there, there]

/-- A reload asks for the entries of the feed. -/
private theorem Told.refresh (told : Told given store app work) :
    Told given store (app.add (Instance.inject ([] : List Post)) false)
      (work ++ issue (Job.call currentUid page)
        ([FeedWork.Job.feeds 0 app.objects.length].map Job.load)) := by
  obtain ⟨signedIn, sound, single, counting, feed, found, all, shows⟩ :=
    told.add (Instance.inject ([] : List Post)) false
  have taps : likes (work ++ issue (Job.call currentUid page)
      ([FeedWork.Job.feeds 0 app.objects.length].map Job.load)) = likes work := by
    rw [likes_append, likes_issue_load, List.append_nil]
  refine ⟨signedIn, issue_sound (fun job member => ?_) sound, taps ▸ single, taps ▸ counting, feed,
    found, all, fun other member => ?_⟩
  · obtain rfl := List.mem_singleton.mp member
    rintro _ ⟨⟩
    exact ⟨[], App.find?_add_new app ([] : List Post) false⟩
  · obtain ⟨postId, shows⟩ := shows other member
    exact ⟨postId, shows.mono rfl taps fun checked => checked.append _⟩

end Told

section Network

open CellWork
open LikeWork (likesDue userDue completions chains)

variable {currentUid : Uid} {page : Ref} {store : Cloud} {app : App} {cell : Ref} {postId : PostId}
  {work : List (Posted (Job.call currentUid page))}

/-- What a request of a tap writes is what its job says. -/
private theorem tap_writes (job : LikeWork.Job) (postId : PostId) :
    (job.call currentUid).request.writes? (.userLike currentUid postId) = job.second? postId ∧
    (job.call currentUid).request.writes? (.postLike postId currentUid) = job.first? postId ∧
    (job.call currentUid).request.counts? postId = job.count? postId ∧
    (job.call currentUid).request.liked? currentUid = job.tag?.map Prod.snd := by
  cases job with
  | counter id likes => simp [LikeWork.Job.call, Request.writes?, Request.counts?, Request.liked?,
      LikeWork.Job.second?, LikeWork.Job.first?, LikeWork.Job.count?, LikeWork.Job.tag?,
      Dictionary.ofList, Dictionary.int]
  | notice receiver data => exact ⟨rfl, rfl, rfl, rfl⟩
  | postLike user cell post =>
    cases liked : post.didLike <;> simp [LikeWork.Job.call, Request.put, liked, Request.writes?,
      Request.counts?, Request.liked?, LikeWork.Job.second?, LikeWork.Job.first?,
      LikeWork.Job.count?, LikeWork.Job.tag?]
  | userLike user cell post =>
    cases liked : post.didLike <;> simp [LikeWork.Job.call, Request.put, liked, Request.writes?,
      Request.counts?, Request.liked?, LikeWork.Job.second?, LikeWork.Job.first?,
      LikeWork.Job.count?, LikeWork.Job.tag?]

/-- A load writes nothing. -/
private theorem load_writes (job : FeedWork.Job) (reference : DocumentReference) (postId : PostId) :
    (job.call currentUid page).request.writes? reference = none ∧
    (job.call currentUid page).request.counts? postId = none ∧
    (job.call currentUid page).request.liked? currentUid = none := by
  cases job <;> exact ⟨rfl, rfl, rfl⟩

/-- The session at work on loads and taps. -/
abbrev working (store : Cloud) (app : App) (work : List (Posted (Job.call currentUid page))) :
    Network cloud App (Option Ref) Unit :=
  .working Job.origin store app work

/-- What is read off the requests of taps in flight. -/
private theorem filterMap_flight {β : Type} {value : Posted (LikeWork.Job.call currentUid) → Option β}
    {read : Pending firebase App (Option Ref) → Option β} (same : ∀ posted :
      Posted (Job.call currentUid page), read (posted.pending Job.origin) = (like? posted).bind value) :
    (working store app work).flight.filterMap read = (likes work).filterMap value := by
  rw [Network.working_flight, List.filterMap_map, likes, List.filterMap_filterMap]
  exact List.filterMap_congr fun posted _ => same posted

private theorem flagDue_working :
    flagDue currentUid (working store app work) postId = userDue store (likes work) postId := by
  rw [flagDue, userDue, Async.owed, carried]
  congr 2
  · refine filterMap_flight ?_
    rintro ⟨job, answer⟩
    cases job with
    | load job => exact (congrArg (ite _ · _) (load_writes job _ postId).1).trans (ite_self _)
    | like cell job => exact congrArg (ite _ · _) (tap_writes job postId).1
  · refine filterMap_flight ?_
    rintro ⟨job, answer⟩
    cases job with
    | load job => exact (load_writes job _ postId).1
    | like cell job => exact (tap_writes job postId).2.1

private theorem countDue_working :
    countDue (working store app work) postId = likesDue store (likes work) postId := by
  rw [countDue, likesDue]
  congr 1
  funext data
  congr 1
  refine filterMap_flight ?_
  rintro ⟨job, answer⟩
  cases job with
  | load job =>
    exact (congrArg (ite _ · _) (load_writes job (.post postId) postId).2.1).trans (ite_self _)
  | like cell job => exact congrArg (ite _ · _) (tap_writes job postId).2.2.1

/-- No like of the post is being written. -/
private theorem chains_of_awaited (awaited : ∀ pending ∈ (working store app work).flight,
    pending.call.request.liked? currentUid ≠ some postId) : chains (likes work) postId = [] := by
  by_contra writing
  obtain ⟨cell, tap, member, tag⟩ := tagged_of_chains writing
  obtain ⟨⟨other, reply⟩, listed, same⟩ := List.mem_filterMap.mp member
  cases other with
  | load load => cases same
  | like cell like =>
    obtain rfl := Option.some.inj same
    exact awaited _ (List.mem_map_of_mem listed)
      ((tap_writes like postId).2.2.2.trans (congrArg (Option.map Prod.snd) tag))

/-- Being tagged is being in the middle of a like. -/
private theorem tagged_iff (sound : ∀ posted ∈ work, Sound app posted) :
    Tagged (likes work) cell postId ↔ Liking currentUid (working store app work) cell postId := by
  constructor
  · rintro ⟨tap, member, tag⟩
    obtain ⟨⟨job, answer⟩, listed, same⟩ := List.mem_filterMap.mp member
    cases job with
    | load job => cases same
    | like other job =>
      obtain rfl := Option.some.inj same
      obtain rfl : cell = other := sound _ listed _ tag
      refine ⟨_, List.mem_map_of_mem listed, rfl, ?_⟩
      exact (tap_writes job postId).2.2.2.trans (congrArg (Option.map Prod.snd) tag)
  · rintro ⟨pending, member, origin, liked⟩
    obtain ⟨⟨job, answer⟩, listed, rfl⟩ := List.mem_map.mp member
    cases job with
    | load job => cases origin
    | like other job =>
      obtain rfl := Option.some.inj origin
      rw [show (Posted.pending Job.origin (⟨.like other job, answer⟩ :
        Posted (Job.call currentUid page))).call.request.liked? currentUid =
          job.tag?.map Prod.snd from (tap_writes job postId).2.2.2] at liked
      obtain ⟨⟨cell, id⟩, tag, rfl⟩ := Option.map_eq_some_iff.mp liked
      obtain rfl : cell = other := sound _ listed _ tag
      exact ⟨⟨job, answer⟩, List.mem_filterMap.mpr ⟨_, listed, rfl⟩, tag⟩

/-- A check that is in flight is a job of a load. -/
private theorem checked_of_checking (checking : Checking currentUid (working store app work) postId) :
    Checked work postId := by
  obtain ⟨pending, member, checks⟩ := checking
  obtain ⟨⟨job, answer⟩, listed, rfl⟩ := List.mem_map.mp member
  cases job with
  | load job =>
    cases job with
    | like load id =>
      obtain ⟨-, rfl⟩ := DocumentReference.userLike.inj (of_decide_eq_true checks)
      exact ⟨_, listed, load, rfl⟩
    | feeds load list => cases checks
    | post load list id => simp [Posted.pending, Job.call, FeedWork.Job.call, Request.checks] at checks
  | like cell job =>
    cases job with
    | postLike user other post =>
      cases liked : post.didLike <;> simp [Posted.pending, Job.call, LikeWork.Job.call, Request.put,
        liked, Request.checks] at checks
    | userLike user other post =>
      cases liked : post.didLike <;> simp [Posted.pending, Job.call, LikeWork.Job.call, Request.put,
        liked, Request.checks] at checks
    | _ => cases checks

/-- Counts are served in the order of the taps. -/
private theorem counted_of_clean {before last : List (Posted (Job.call currentUid page))}
    {like : LikeWork.Job} (clean : ∀ pending ∈ (working store app
        (before ++ ⟨.like cell like, none⟩ :: last)).flight[before.length]?,
      ∀ postId ∈ pending.call.request.counted?, ∀ other ∈ (working store app
        (before ++ ⟨.like cell like, none⟩ :: last)).flight.take before.length,
          other.call.request.counted? = some postId → other.answer.isSome = true)
    (counts : (like.count? postId).isSome) :
    Async.owed (LikeWork.Job.count? postId) (likes before) = [] := by
  have counter {job : LikeWork.Job} {number : ℤ} (writes : job.count? postId = some number) :
      job = .counter postId number := by
    cases job with
    | counter id likes =>
      obtain ⟨rfl, same⟩ := Option.ite_none_right_eq_some.mp writes
      rw [Option.some.inj same]
    | _ => cases writes
  obtain ⟨number, writes⟩ := Option.isSome_iff_exists.mp counts
  obtain rfl := counter writes
  refine List.filterMap_eq_nil_iff.mpr fun tap member => ?_
  obtain ⟨⟨job, answer⟩, listed, same⟩ := List.mem_filterMap.mp member
  cases job with
  | load job => cases same
  | like other job =>
    obtain rfl := Option.some.inj same
    cases answer with
    | some answer => rfl
    | none =>
      refine (if_pos rfl).trans (Option.eq_none_iff_forall_ne_some.mpr fun earlier writes => ?_)
      obtain rfl := counter writes
      have answered := clean _ (by rw [Network.working_getElem?]; rfl) postId rfl
        ((⟨.like other (.counter postId earlier), none⟩ :
          Posted (Job.call currentUid page)).pending Job.origin) ?_ rfl
      · cases answered
      · rw [Network.working_flight, List.map_append]
        have bound : before.length = (before.map (Posted.pending Job.origin)).length := by simp
        rw [bound, List.take_left]
        exact List.mem_map_of_mem listed

end Network

section Run

open CellWork

variable {currentUid : Uid} {page cell : Ref} {screen next start final : Screen}
  {inputs : List Input}

/-- The session is at work, and the cells on the screen show what is to come. -/
def Working (currentUid : Uid) (page : Ref) (screen : Screen) : Prop :=
  ∃ (store : Cloud) (app : App) (work : List (Posted (Job.call currentUid page))),
    screen.net = working store app work ∧ Told screen.given store app work

private theorem Told.subset {given fewer : List Ref} {store : Cloud} {app : App}
    {work : List (Posted (Job.call currentUid page))} (told : Told given store app work)
    (fewer_given : ∀ cell ∈ fewer, cell ∈ given) : Told fewer store app work := by
  obtain ⟨feed, found, all, shows⟩ := told.shows
  exact ⟨told.signedIn, told.sound, told.single, told.counting, feed, found, all,
    fun cell member => shows cell (fewer_given cell member)⟩

private theorem Opened.working (opened : Opened currentUid page start) :
    Working currentUid page start := by
  obtain ⟨app, running, signedIn, feed, found, all⟩ := opened.client
  refine ⟨_, app, [], Network.eq_working _ _ running opened.idle opened.quiet, signedIn, nofun,
    ⟨fun _ => Nat.zero_le _, fun _ => Nat.zero_le _⟩, ?_, feed, found, all, ?_⟩
  · rintro cell postId ⟨_, member, -⟩
    cases member
  · rw [opened.blank]
    nofun

/-- No answer to a request of a tap sets the feed's list. -/
private theorem sets_like (posts : List Post) (job : LikeWork.Job) (answer) :
    sets posts (job.call currentUid).request answer = false := by
  rcases job with ⟨id, likes⟩ | ⟨user, cell, post⟩ | ⟨user, cell, post⟩ | ⟨receiver, data⟩
  · rfl
  · rcases post with ⟨id, caption, imageUrl, likes, owner, name, image, timestamp, didLike⟩
    cases didLike <;> rfl
  · rcases post with ⟨id, caption, imageUrl, likes, owner, name, image, timestamp, didLike⟩
    cases didLike <;> rfl
  · rfl

private theorem resets_working {before last : List (Posted (Job.call currentUid page))} {job : Job}
    {answer} {store : Cloud} {app : App} {feed : FeedController}
    (found : app.find? FeedController page = some feed) :
    resets page (working store app (before ++ ⟨job, some answer⟩ :: last)) (.deliver before.length) =
      sets feed.posts (job.call currentUid page).request answer := by
  have listed : posts page (working store app (before ++ ⟨job, some answer⟩ :: last)) = feed.posts := by
    simp [posts, found]
  rw [resets, listed, Network.working_getElem?]
  rfl

/-- A signal for a session at work. -/
private theorem Working.signal {signal : Signal cloud} (working : Working currentUid page screen)
    (clean : Clean currentUid page screen (.signal signal))
    (taken : step? page screen (.signal signal) = some next) : Working currentUid page next := by
  obtain ⟨net, given⟩ := screen
  obtain ⟨store, app, work, rfl, told⟩ := working
  obtain ⟨allowed, taken⟩ := Option.ite_none_right_eq_some.mp taken
  obtain ⟨net, moved, rfl⟩ := Option.map_eq_some_iff.mp taken
  rcases Network.signal_working moved with
    ⟨before, job, last, choice, later, answer, rfl, rfl, served, rfl⟩ |
    ⟨before, job, answer, last, rfl, rfl, rfl⟩
  · refine ⟨later, app, _, rfl, told.serve ?_ allowed served⟩
    rintro cell like rfl postId counts
    exact counted_of_clean clean counts
  · cases job with
    | like cell like =>
      obtain ⟨feed, found, -⟩ := told.shows
      obtain ⟨after, jobs, ran, -, told⟩ := told.deliver_like
      have unset : sets feed.posts ((Job.like cell like).call currentUid page).request answer = false :=
        sets_like feed.posts like answer
      refine ⟨store, after, _, Network.launch_working ran fun job member => ?_, ?_⟩
      · obtain ⟨like, -, rfl⟩ := List.mem_map.mp member
        rfl
      · rw [resets_working found, unset]
        exact told
    | load load =>
      obtain ⟨feed, found, -⟩ := told.shows
      obtain ⟨after, jobs, ran, told⟩ := told.deliver_load found
      refine ⟨store, after, _, Network.launch_working ran fun job member => ?_, ?_⟩
      · obtain ⟨load, -, rfl⟩ := List.mem_map.mp member
        rfl
      · rw [resets_working found]
        exact told

/-- A tap on a cell of a session at work. -/
private theorem Working.onTapLike (working : Working currentUid page screen)
    (awaited : Awaited currentUid screen (.onTapLike cell))
    (clean : Clean currentUid page screen (.onTapLike cell))
    (taken : step? page screen (.onTapLike cell) = some next) : Working currentUid page next := by
  obtain ⟨net, given⟩ := screen
  obtain ⟨store, app, work, rfl, told⟩ := working
  obtain ⟨onScreen, taken⟩ := Option.ite_none_right_eq_some.mp taken
  obtain rfl := Option.some.inj taken
  cases tapped : app.tapped? cell with
  | none =>
    have ran : (FeedCell.onTapLike cell).run app =
        ⟨some app, ([] : List Job).map (Job.call currentUid page), []⟩ :=
      LikedOnce.onTapLike_idle tapped
    refine ⟨store, app, _, Network.launch_working ran nofun, ?_⟩
    rw [issue_nil, List.append_nil]
    exact told
  | some post =>
    obtain ⟨user, known⟩ := LikeWork.known_of_tapped tapped
    have shown := LikedOnce.shown?_of_tapped tapped
    have ran : (FeedCell.onTapLike cell).run app = ⟨some (app.modify cell LikedOnce.toggle),
        ((LikeWork.tapJobs user cell post).map (Job.like cell)).map (Job.call currentUid page), []⟩ :=
      run_like cell (LikeWork.tap_run told.signedIn known tapped)
    have written : LikeWork.chains (likes work) post.postId = [] :=
      chains_of_awaited (awaited app rfl post tapped)
    have clean := (clean app rfl post tapped).imp_left checked_of_checking
    refine ⟨store, _, _, Network.launch_working ran fun job member => ?_, ?_⟩
    · obtain ⟨like, -, rfl⟩ := List.mem_map.mp member
      rfl
    · rw [LikeWork.tapJobs]
      split_ifs with unable
      · have checked : Checked work post.postId := by
          refine clean.resolve_right fun alone => ?_
          exact absurd (alone.1 unable.1) (not_lt.mpr unable.2)
        rw [List.map_nil, issue_nil, List.append_nil]
        exact told.tap_dropped shown checked
      · exact told.tap_written onScreen shown written (clean.imp_right And.right) user

/-- A cell is handed to a row in a session at work. -/
private theorem Working.cellForItemAt {row : ℕ} (working : Working currentUid page screen)
    (clean : Clean currentUid page screen (.cellForItemAt row cell))
    (taken : step? page screen (.cellForItemAt row cell) = some next) :
    Working currentUid page next := by
  obtain ⟨net, given⟩ := screen
  obtain ⟨store, app, work, rfl, told⟩ := working
  obtain ⟨row_given, taken⟩ := Option.ite_none_right_eq_some.mp taken
  obtain rfl := Option.some.inj taken
  obtain ⟨post, handing⟩ := Option.isSome_iff_exists.mp row_given
  obtain ⟨old, there, handed⟩ : ∃ old, app.find? FeedCell cell = some old ∧
      app.handed? page row = some post := Option.bind_eq_some_iff.mp handing
  obtain ⟨alone, fresh⟩ := clean post handing
  refine ⟨store, _, _, Network.launch_working (cellForItemAt_run handed) nofun, ?_⟩
  rw [issue_nil, List.append_nil]
  refine told.give there handed (fun other tagged => ?_) (fresh.imp checked_of_checking ?_)
  · obtain ⟨pending, member, origin, liked⟩ := (tagged_iff told.sound).mp tagged
    exact alone pending member origin other liked
  · rintro ⟨flag, count, due, counted⟩
    rw [flagDue_working] at flag
    rw [countDue_working] at due
    exact ⟨flag, count, due, counted.imp_right (tagged_iff told.sound).mpr⟩

/-- The step of a clean session. -/
private theorem Working.step {input : Input} (working : Working currentUid page screen)
    (awaited : Awaited currentUid screen input) (clean : Clean currentUid page screen input)
    (taken : step? page screen input = some next) : Working currentUid page next := by
  cases input with
  | onTapLike cell => exact working.onTapLike awaited clean taken
  | cellForItemAt row cell => exact working.cellForItemAt clean taken
  | signal signal => exact working.signal clean taken
  | hide cell =>
    obtain rfl := Option.some.inj taken
    obtain ⟨store, app, work, same, told⟩ := working
    exact ⟨store, app, work, same, told.subset fun other => List.mem_of_mem_filter⟩
  | newCell =>
    obtain ⟨net, given⟩ := screen
    obtain ⟨store, app, work, rfl, told⟩ := working
    obtain rfl := Option.some.inj taken
    have ran : (FeedController.newCell page).run app =
        ⟨some (app.add (Instance.inject (⟨none, page⟩ : FeedCell)) (app.inTab page)),
          ([] : List Job).map (Job.call currentUid page), []⟩ := rfl
    refine ⟨store, _, _, Network.launch_working ran nofun, ?_⟩
    rw [issue_nil, List.append_nil]
    exact told.add _ _
  | onTapRefresh =>
    obtain ⟨net, given⟩ := screen
    obtain ⟨store, app, work, rfl, told⟩ := working
    obtain rfl := Option.some.inj taken
    obtain ⟨feed, found, all, -⟩ := told.shows
    have ran := run_load (FeedWork.fetch_run told.signedIn found all 0)
    refine ⟨store, _, _, Network.launch_working ran fun job member => ?_, told.refresh⟩
    obtain ⟨load, -, rfl⟩ := List.mem_map.mp member
    rfl

/-- With nothing in flight, what is to come is there. -/
private theorem Working.agrees (working : Working currentUid page screen)
    (idle : screen.net.flight = []) (onScreen : cell ∈ screen.given) :
    Agrees currentUid screen.net cell := by
  obtain ⟨net, given⟩ := screen
  obtain ⟨store, app, work, rfl, told⟩ := working
  obtain rfl := Network.working_idle.mp idle
  obtain ⟨feed, -, -, shows⟩ := told.shows
  obtain ⟨postId, shows⟩ := shows cell onScreen
  obtain ⟨_, member, -⟩ | ⟨count, due, agrees⟩ := shows.agrees
  · cases member
  · obtain ⟨data, stored, counted⟩ := Option.map_eq_some_iff.mp due
    obtain ⟨post, displayed, same⟩ := Option.map_eq_some_iff.mp agrees
    obtain ⟨rfl, same⟩ := Prod.mk.inj same
    obtain ⟨flag, likes⟩ := Prod.mk.inj same
    exact ⟨post, displayed, flag, data, stored, counted.trans likes.symm⟩

/-- A completed like changes what its cell shows, and that is its own post. -/
private theorem Working.framed (working : Working currentUid page screen) :
    Framed currentUid page screen := by
  obtain ⟨net, given⟩ := screen
  obtain ⟨store, app, work, rfl, told⟩ := working
  intro index next pending here postId liked taken cell onScreen post displayed apart
  rw [step?, if_pos (show succeeds (.deliver index) = true from rfl)] at taken
  obtain ⟨net, moved, rfl⟩ := Option.map_eq_some_iff.mp taken
  rcases Network.signal_working moved with
    ⟨before, job, last, choice, later, answer, serves, -⟩ |
    ⟨before, job, answer, last, delivers, rfl, rfl⟩
  · cases serves
  obtain rfl := Signal.deliver.inj delivers
  obtain rfl := Option.some.inj (Network.working_getElem?.symm.trans here)
  cases job with
  | load load => exact absurd ((load_writes load (.post "") "").2.2.symm.trans liked) nofun
  | like tapped like =>
    obtain ⟨feed, -, -, shows⟩ := told.shows
    obtain ⟨shownId, shows⟩ := shows cell onScreen
    obtain ⟨after, jobs, ran, change, -⟩ := told.deliver_like
    have launched : (working store app (before ++ last)).launch host (some tapped)
        (((Job.like tapped like).call currentUid page).callback answer) =
          working store after (before ++ last ++ issue (Job.call currentUid page)
            (jobs.map (Job.like tapped))) := by
      refine Network.launch_working ran fun job member => ?_
      obtain ⟨like, -, rfl⟩ := List.mem_map.mp member
      rfl
    refine (congrArg (shown? · cell) launched).trans ?_
    obtain rfl | ⟨user, completed, copy, rfl, rfl⟩ := change
    · exact displayed
    · have elsewhere : cell ≠ completed := by
        rintro rfl
        have listed := List.mem_append_right before (List.mem_cons_self (l := last)
          (a := ⟨.like tapped (.userLike user cell copy), some answer⟩))
        have tagged : Tagged (likes (before ++
            (⟨.like tapped (.userLike user cell copy), some answer⟩ :
              Posted (Job.call currentUid page)) :: last)) cell copy.postId :=
          ⟨_, List.mem_filterMap.mpr ⟨_, listed, rfl⟩, rfl⟩
        have same := (tap_writes (.userLike user cell copy) postId).2.2.2.symm.trans liked
        obtain rfl : copy.postId = postId := Option.some.inj same
        obtain rfl := shows.tagged copy.postId tagged
        have about : some post.postId = some copy.postId :=
          (congrArg (Option.map Post.postId) displayed).symm.trans shows.shown
        exact apart (Option.some.inj about)
      refine (LikedOnce.shown?_modify ..).trans ?_
      rw [if_neg elsewhere]
      exact displayed

/-- When cells are handed up to date copies and not reused in the middle of a like, and a post is
tapped in one cell only, cells on the screen agree with the store whenever nothing is in flight, and
a completed like changes its own post only. -/
theorem cells_agree (opened : Opened currentUid page start)
    (run : Run (fun screen input next => (Awaited currentUid screen input ∧
      step? page screen input = some next) ∧ Clean currentUid page screen input) start inputs final) :
    (final.net.flight = [] → ∀ cell ∈ final.given, Agrees currentUid final.net cell) ∧
      Framed currentUid page final := by
  have working : Working currentUid page final := run.invariant opened.working
    fun taken working => working.step taken.1.1 taken.2 taken.1.2
  exact ⟨fun idle cell onScreen => working.agrees idle onScreen, working.framed⟩

end Run

section Examples

/-- A feed with two posts that are still to be loaded. -/
def unloaded : Screen where
  net :=
    let user : User := ⟨"", "", "", "", "v", ⟨0, 0, 0⟩, false⟩
    let data (likes : ℤ) := (PostService.data "" ⟨0, 0⟩ "" "v" user).updating
      (.ofList [("likes", .int likes)])
    { store :=
        { firestore := ((((∅ : Firestore).insert (.post "p") (data 4)).insert (.post "q")
            (data 7)).insert (.userFeed "u" "p") .empty).insert (.userFeed "u" "q") .empty }
      clients := fun _ => some
        { currentUser := some "u"
          user := some { user with uid := "u" }
          objects := [⟨.feed {}, true⟩] } }

private theorem unloaded_opened : Opened "u" 0 unloaded := ⟨rfl, rfl, rfl, _, rfl, rfl, _, rfl, rfl⟩

/-- The oldest requests are answered, drawing these names. -/
def answers (names : List String) : List Input :=
  names.mapIdx (fun index name => .signal (.serve index (.answer [] name))) ++
    names.map fun _ => .signal (.deliver 0)

/-- The feed is loaded, with what its rows are to be. -/
def loading : List Input :=
  [.onTapRefresh, .signal (.serve 0 (.answer [.userFeed "u" "p", .userFeed "u" "q"] "")),
    .signal (.deliver 0)] ++ answers ["", ""] ++ answers ["", "", ""]

/-- Two cells are handed the rows and tapped; the feed is loaded again, and the cells change places
and are tapped again. -/
def swapped : List Input :=
  loading ++ [.newCell, .newCell, .cellForItemAt 0 2, .cellForItemAt 1 3] ++
    [.onTapLike 2, .onTapLike 3] ++ answers ["", "", "", ""] ++ [.hide 3] ++ answers ["", ""] ++
    answers ["m", "n"] ++ loading ++ [.cellForItemAt 1 2, .cellForItemAt 0 3] ++ [.onTapLike 3] ++
    answers ["", ""] ++ answers [""]

/-- The cells agree with the store. -/
theorem cells_agree_swapped :
    ∃ final, Run (fun screen input next => (Awaited "u" screen input ∧
        step? 0 screen input = some next) ∧ Clean "u" 0 screen input) unloaded swapped final ∧
      final.given = [3, 2] ∧ ∀ cell ∈ final.given, Agrees "u" final.net cell := by
  have completes : (replay? (fun screen input =>
      if Awaited "u" screen input ∧ Clean "u" 0 screen input then step? 0 screen input else none)
      unloaded swapped).any (fun final =>
        decide (final.net.flight.isEmpty = true ∧ final.given = [3, 2])) = true := by
    decide +kernel
  obtain ⟨final, replayed, idle, given⟩ := exists_legal_run_of_replay? completes
  have run : Run (fun screen input next => (Awaited "u" screen input ∧
      step? 0 screen input = some next) ∧ Clean "u" 0 screen input) unloaded swapped final :=
    replayed.mono fun ⟨⟨awaited, clean⟩, taken⟩ => ⟨⟨awaited, taken⟩, clean⟩
  exact ⟨final, run, given, (cells_agree unloaded_opened run).1 (List.isEmpty_iff.mp idle)⟩

/-- A cell is tapped and reused for the other row. The completed like gives the other post its
count. -/
theorem cells_disagree :
    (¬ ∀ (currentUid : Uid) (page : Ref) (start final : Screen) (inputs : List Input),
      Opened currentUid page start →
      Run (fun screen input next => Awaited currentUid screen input ∧
        step? page screen input = some next) start inputs final →
      final.net.flight = [] → ∀ cell ∈ final.given, Agrees currentUid final.net cell) ∧
    ¬ ∀ (currentUid : Uid) (page : Ref) (start final : Screen) (inputs : List Input),
      Opened currentUid page start →
      Run (fun screen input next => Awaited currentUid screen input ∧
        step? page screen input = some next) start inputs final → Framed currentUid page final := by
  let reusing := loading ++ [.newCell, .cellForItemAt 0 2, .onTapLike 2, .hide 2,
    .cellForItemAt 1 2] ++ answers ["", ""] ++ [.signal (.serve 0 (.answer [] ""))]
  have awaited {inputs : List Input} {final : Screen}
      (replayed : Run (fun screen input next => (if Awaited "u" screen input then
        step? 0 screen input else none) = some next) unloaded inputs final) :
      Run (fun screen input next => Awaited "u" screen input ∧ step? 0 screen input = some next)
        unloaded inputs final :=
    replayed.mono fun taken => Option.ite_none_right_eq_some.mp taken
  constructor
  · intro claim
    have completes : (replay? (fun screen input =>
        if Awaited "u" screen input then step? 0 screen input else none) unloaded
        (reusing ++ [.signal (.deliver 0)] ++ answers ["n"])).any (fun final =>
          decide (final.net.flight.isEmpty = true ∧ 2 ∈ final.given ∧
            ((shown? final.net 2).map fun post => (post.postId, post.likes)) = some ("q", 5) ∧
            (final.net.store.firestore.lookup (.post "q")).map (fun data => data.int "likes") =
              some 7)) = true := by
      decide +kernel
    obtain ⟨final, replayed, idle, onScreen, shown, stored⟩ := exists_run_of_replay? completes
    obtain ⟨post, displayed, -, data, found, counted⟩ := claim "u" 0 unloaded final _
      unloaded_opened (awaited replayed) (List.isEmpty_iff.mp idle) 2 onScreen
    rw [Option.mem_def.mp displayed, Option.map_some] at shown
    obtain ⟨same, likes⟩ := Prod.mk.inj (Option.some.inj shown)
    rw [same] at found
    rw [Option.mem_def.mp found, Option.map_some, counted, likes] at stored
    cases stored
  · intro claim
    have completes : (replay? (fun screen input =>
        if Awaited "u" screen input then step? 0 screen input else none) unloaded reusing).any
        (fun final => decide (2 ∈ final.given ∧
          (∃ pending ∈ final.net.flight[0]?, pending.call.request.liked? "u" = some "p") ∧
          (∃ post ∈ shown? final.net 2, post.postId = "q" ∧
            ∃ next ∈ step? 0 final (.signal (.deliver 0)), shown? next.net 2 ≠ some post))) =
          true := by
      decide +kernel
    obtain ⟨final, replayed, onScreen, ⟨pending, here, liked⟩, post, displayed, same, next, taken,
      changed⟩ := exists_run_of_replay? completes
    refine changed (claim "u" 0 unloaded final _ unloaded_opened (awaited replayed) 0 next pending
      here "p" liked taken 2 onScreen post displayed ?_)
    rw [same]
    decide

end Examples

end FeedCells

end InstagramClone
