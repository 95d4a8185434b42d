import InstagramClone.Soundness.FeedWork
import InstagramClone.Soundness.LikeWork

/-! # The work of a feed whose cells are tapped

Loads of the feed and taps on its cells are under way together. Loads read only and leave the cells
alone, and taps leave the feed's list alone, so that each kind of work goes on as it does by itself.
-/

namespace InstagramClone

open Async

namespace CellWork

/-- A job of a load, or one of a tap on a cell. -/
inductive Job where
  | load (job : FeedWork.Job)
  | like (cell : Ref) (job : LikeWork.Job)

/-- The cell that was tapped. -/
def Job.origin : Job → Option Ref
  | load _ => none
  | like cell _ => some cell

def Job.call (currentUid : Uid) (page : Ref) : Job → Call firebase App
  | load job => job.call currentUid page
  | like _ job => job.call currentUid

variable {currentUid : Uid} {page : Ref} {app : App}

/-- A job of a tap, on its own. -/
def like? : Posted (Job.call currentUid page) → Option (Posted (LikeWork.Job.call currentUid))
  | ⟨.like _ job, answer⟩ => some ⟨job, answer⟩
  | ⟨.load _, _⟩ => none

/-- The work of taps. -/
def likes (work : List (Posted (Job.call currentUid page))) :
    List (Posted (LikeWork.Job.call currentUid)) := work.filterMap like?

section Projection

variable {work before last : List (Posted (Job.call currentUid page))}

@[simp] theorem likes_append : likes (before ++ last) = likes before ++ likes last :=
  List.filterMap_append

@[simp] theorem likes_cons_load (job : FeedWork.Job) (answer) :
    likes (⟨.load job, answer⟩ :: work : List (Posted (Job.call currentUid page))) = likes work := rfl

@[simp] theorem likes_cons_like (cell : Ref) (job : LikeWork.Job) (answer) :
    likes (⟨.like cell job, answer⟩ :: work : List (Posted (Job.call currentUid page))) =
      ⟨job, answer⟩ :: likes work := rfl

@[simp] theorem likes_issue_load (jobs : List FeedWork.Job) :
    likes (issue (Job.call currentUid page) (jobs.map .load)) = [] := by
  rw [likes, issue, List.filterMap_map, List.filterMap_map]
  exact List.filterMap_eq_nil_iff.mpr fun _ _ => rfl

@[simp] theorem likes_issue_like (cell : Ref) (jobs : List LikeWork.Job) :
    likes (issue (Job.call currentUid page) (jobs.map (.like cell))) =
      issue (LikeWork.Job.call currentUid) jobs := by
  rw [likes, issue, issue, List.filterMap_map, List.filterMap_map]
  exact congrFun List.filterMap_eq_map jobs

end Projection

section Code

/-- Code of a load, or of a tap, issues jobs of its kind. -/
theorem run_load {program : Code App} {later : App} {jobs : List FeedWork.Job}
    (ran : program.run app = ⟨some later, jobs.map (FeedWork.Job.call currentUid page), []⟩) :
    program.run app =
      ⟨some later, (jobs.map Job.load).map (Job.call currentUid page), []⟩ := by
  rw [ran, List.map_map]
  rfl

theorem run_like {program : Code App} {later : App} {jobs : List LikeWork.Job} (cell : Ref)
    (ran : program.run app = ⟨some later, jobs.map (LikeWork.Job.call currentUid), []⟩) :
    program.run app =
      ⟨some later, (jobs.map (Job.like cell)).map (Job.call currentUid page), []⟩ := by
  rw [ran, List.map_map]
  rfl

end Code

section Loads

/-- An answer with which a load sets the feed's posts. A check does if its post is among them. -/
def sets (posts : List Post) : (request : Request) → request.Response → Bool
  | .getDocuments _, .ok documents => documents.isEmpty
  | .getDocuments _, .error _ => true
  | .getDocument (.post _), .ok snapshot => snapshot.isSome
  | .getDocument (.userLike _ id), .ok _ => decide (id ∈ posts.map Post.postId)
  | _, _ => false

variable {feed : FeedController} {job : FeedWork.Job} {later : App}

theorem shown?_shows (shows : FeedWork.Shows page job app later) (cell : Ref) :
    later.shown? cell = app.shown? cell := by
  cases shows with
  | rest => rfl
  | display posts => rw [App.shown?, FeedWork.display, App.find?_modify_other fun _ => rfl]; rfl
  | hand listed posts =>
    rw [App.shown?, FeedWork.hand, FeedWork.display, App.find?_modify_other fun _ => rfl,
      App.find?_modify_other fun _ => rfl]
    rfl

/-- The callback of a load's job. -/
theorem load_run (signedIn : app.currentUser = some currentUid)
    (found : app.find? FeedController page = some feed) (all : feed.post = none)
    (captured : ∀ list ∈ job.list?, ∃ posts, app.find? (List Post) list = some posts) (answer) :
    ∃ (later : App) (jobs : List FeedWork.Job),
      ((job.call currentUid page).callback answer).run app =
        ⟨some later, jobs.map (FeedWork.Job.call currentUid page), []⟩ ∧
      (∀ other ∈ jobs, ∀ list ∈ other.list?, list ∈ job.list?) ∧
      FeedWork.Shows page job app later ∧
      (sets feed.posts (job.call currentUid page).request answer = false →
        later.find? FeedController page = some feed) := by
  obtain ⟨later, jobs, ran, mine, shows⟩ :=
    FeedWork.callback_run signedIn found all captured answer
  refine ⟨later, jobs, ran, fun other member => (mine other member).2, shows, fun unset => ?_⟩
  have still {calls} (same : ((job.call currentUid page).callback answer).run app =
      ⟨some app, calls, []⟩) : later.find? FeedController page = some feed := by
    have states := congrArg Effect.state (ran.symm.trans same)
    rw [Option.some.inj states, found]
  cases job with
  | feeds load list =>
    match answer with
    | .error _ => cases unset
    | .ok [] => cases unset
    | .ok (document :: documents) => exact still (FeedWork.feeds_run_cons document documents)
  | post load list postId =>
    match answer with
    | .error _ => exact still rfl
    | .ok none => exact still rfl
    | .ok (some data) => cases unset
  | like load postId =>
    match answer with
    | .error _ => exact still rfl
    | .ok snapshot =>
      have absent : postId ∉ feed.posts.map Post.postId := of_decide_eq_false unset
      have states := congrArg Effect.state (ran.symm.trans (FeedWork.like_run found load postId snapshot))
      rw [Option.some.inj states, Flag.assign_absent absent]
      exact FeedWork.find?_display found feed.posts

end Loads

section Tags

open LikeWork (chains completions likesDue userDue shownDue)

variable {taps before last : List (Posted (LikeWork.Job.call currentUid))} {cell : Ref}
  {postId : PostId}

/-- A like of the post is being written for a tap on the cell. -/
def Tagged (taps : List (Posted (LikeWork.Job.call currentUid))) (cell : Ref) (postId : PostId) :
    Prop := ∃ posted ∈ taps, posted.job.tag? = some (cell, postId)

theorem Tagged.chains (tagged : Tagged taps cell postId) : chains taps postId ≠ [] := by
  obtain ⟨⟨job, answer⟩, member, tag⟩ := tagged
  intro none
  obtain ⟨second, first⟩ := List.append_eq_nil_iff.mp none
  have nothing := List.filterMap_eq_nil_iff.mp second _ member
  have neither := List.filterMap_eq_nil_iff.mp first _ member
  cases job with
  | postLike user other post =>
    obtain ⟨-, rfl⟩ := Prod.mk.inj (Option.some.inj tag)
    simp [LikeWork.Job.first?] at neither
  | userLike user other post =>
    obtain ⟨-, rfl⟩ := Prod.mk.inj (Option.some.inj tag)
    simp [LikeWork.Job.second?] at nothing
  | _ => cases tag

theorem Tagged.completions (tagged : Tagged taps cell postId) : completions taps cell ≠ [] := by
  obtain ⟨⟨job, answer⟩, member, tag⟩ := tagged
  intro none
  obtain ⟨completes, starts⟩ := List.append_eq_nil_iff.mp none
  have nothing := List.filterMap_eq_nil_iff.mp completes _ member
  have neither := List.filterMap_eq_nil_iff.mp starts _ member
  cases job with
  | postLike user other post =>
    obtain ⟨rfl, -⟩ := Prod.mk.inj (Option.some.inj tag)
    simp [LikeWork.Job.starts?] at neither
  | userLike user other post =>
    obtain ⟨rfl, -⟩ := Prod.mk.inj (Option.some.inj tag)
    simp [LikeWork.Job.completes?] at nothing
  | _ => cases tag

/-- A cell that is to be given a count was tapped. -/
theorem tagged_of_completions (some : completions taps cell ≠ []) :
    ∃ postId, Tagged taps cell postId := by
  obtain ⟨count, given⟩ := List.exists_mem_of_ne_nil _ some
  rcases List.mem_append.mp given with given | given
  · obtain ⟨⟨job, answer⟩, member, completes⟩ := List.mem_filterMap.mp given
    cases job with
    | userLike user other post =>
      obtain ⟨rfl, -⟩ := Option.ite_none_right_eq_some.mp completes
      exact ⟨post.postId, _, member, rfl⟩
    | _ => cases completes
  · obtain ⟨⟨job, answer⟩, member, starts⟩ := List.mem_filterMap.mp given
    cases job with
    | postLike user other post =>
      obtain ⟨rfl, -⟩ := Option.ite_none_right_eq_some.mp starts
      exact ⟨post.postId, _, member, rfl⟩
    | _ => cases starts

/-- A like that is being written belongs to a tap on some cell. -/
theorem tagged_of_chains (some : chains taps postId ≠ []) : ∃ cell, Tagged taps cell postId := by
  obtain ⟨value, carried⟩ := List.exists_mem_of_ne_nil _ some
  rcases List.mem_append.mp carried with carried | carried
  · obtain ⟨⟨job, answer⟩, member, second⟩ := List.mem_filterMap.mp carried
    cases job with
    | userLike user cell post =>
      obtain ⟨rfl, -⟩ := Option.ite_none_right_eq_some.mp second
      exact ⟨cell, _, member, rfl⟩
    | _ => cases second
  · obtain ⟨⟨job, answer⟩, member, first⟩ := List.mem_filterMap.mp carried
    cases job with
    | postLike user cell post =>
      obtain ⟨rfl, -⟩ := Option.ite_none_right_eq_some.mp first
      exact ⟨cell, _, member, rfl⟩
    | _ => cases first

/-- Of the taps on one post, and of those on one cell, at most one is being written. -/
structure Single (taps : List (Posted (LikeWork.Job.call currentUid))) : Prop where
  chained : ∀ postId, (chains taps postId).length ≤ 1
  completing : ∀ cell, (completions taps cell).length ≤ 1

variable {store : Cloud} {user : User} {post : Post} {other : Ref}

/-- A tap tags its cell with its post. -/
theorem tagged_tapped (tagged : Tagged (LikeWork.tapped taps user cell post) other postId) :
    Tagged taps other postId ∨ other = cell ∧ postId = post.postId := by
  obtain ⟨posted, member, tag⟩ := tagged
  rcases List.mem_append.mp member with member | member
  · exact .inl ⟨posted, member, tag⟩
  rcases List.mem_pair.mp (mem_issue.mp member).1 with same | same
  · rw [same] at tag
    cases tag
  · rw [same] at tag
    obtain ⟨rfl, rfl⟩ := Prod.mk.inj (Option.some.inj tag)
    exact .inr ⟨rfl, rfl⟩

/-- A tap on a cell and a post with no like being written is the only one. -/
theorem Single.tapped (single : Single taps) (awaited : chains taps post.postId = [])
    (free : completions taps cell = []) : Single (LikeWork.tapped taps user cell post) := by
  refine ⟨fun postId => ?_, fun other => ?_⟩
  · rw [LikeWork.chains_tapped]
    split_ifs with same
    · rw [← same, awaited]
      exact le_rfl
    · exact single.chained postId
  · rw [LikeWork.completions_tapped]
    split_ifs with same
    · subst same
      rw [free]
      simp
    · rw [List.append_nil]
      exact single.completing other

/-- It gives its cell the count that is written last. -/
theorem counting_tapped (counting : ∀ cell postId, Tagged taps cell postId →
      ∀ count ∈ likesDue store taps postId, completions taps cell = [count])
    (awaited : chains taps post.postId = []) (free : completions taps cell = [])
    (tagged : Tagged (LikeWork.tapped taps user cell post) other postId) :
    ∀ count ∈ likesDue store (LikeWork.tapped taps user cell post) postId,
      completions (LikeWork.tapped taps user cell post) other = [count] := by
  intro count due
  rw [LikeWork.likesDue_tapped] at due
  rw [LikeWork.completions_tapped]
  rcases tagged_tapped tagged with tagged | ⟨rfl, rfl⟩
  · have apart : post.postId ≠ postId := by
      rintro rfl
      exact tagged.chains awaited
    have elsewhere : cell ≠ other := by
      rintro rfl
      exact tagged.completions free
    rw [if_neg apart] at due
    rw [if_neg elsewhere, List.append_nil]
    exact counting other postId tagged count due
  · rw [if_pos rfl] at due
    obtain ⟨-, -, rfl⟩ := Option.map_eq_some_iff.mp due
    rw [if_pos rfl, free]
    rfl

/-- No job of the same like stands before another. -/
theorem Single.undivided {job : LikeWork.Job} {answer}
    (single : Single (before ++ (⟨job, answer⟩ : Posted (LikeWork.Job.call currentUid)) :: last)) :
    LikeWork.Undivided before job := by
  intro tag tagged
  have chained := single.chained tag.2
  have completing := single.completing tag.1
  simp only [LikeWork.chains, LikeWork.completions, carried_append, carried_cons,
    List.length_append] at chained completing
  rw [LikeWork.chains, LikeWork.completions, List.append_eq_nil_iff, List.append_eq_nil_iff,
    ← List.length_eq_zero_iff, ← List.length_eq_zero_iff, ← List.length_eq_zero_iff,
    ← List.length_eq_zero_iff]
  cases job with
  | postLike user cell post =>
    obtain rfl := Option.some.inj tagged
    simp [LikeWork.Job.first?, LikeWork.Job.starts?] at chained completing
    dsimp only
    omega
  | userLike user cell post =>
    obtain rfl := Option.some.inj tagged
    simp [LikeWork.Job.second?, LikeWork.Job.completes?] at chained completing
    dsimp only
    omega
  | _ => cases tagged

end Tags

end CellWork

end InstagramClone
