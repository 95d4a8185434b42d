import InstagramClone.Soundness.LikeWork

/-! # Repeated taps on a like button

A tap turns the flag of the cell's copy at once, but its count only when the writes have been
acknowledged. A tap in between decides by the new flag and the old count, so that it writes a count
that is off by one, or takes nothing back because the copy counts no like.
-/

namespace InstagramClone

open Async

namespace LikeTaps

open LikeWork

variable {currentUid : Uid} {cell : Ref} {postId : PostId} {base : ℤ} {store later : Cloud}
  {app after : App} {work rest : List (Posted (Job.call currentUid))} {post : Post} {user : User}

section Work

/-- In order, a signal changes nothing of what is to come. -/
private theorem continues_signal {next : Network cloud App Unit Unit} {signal : Signal cloud}
    (signedIn : app.currentUser = some currentUid)
    (ordered : (Network.working (fun _ => ()) store app work :
      Network cloud App Unit Unit).InOrder id signal) (allowed : succeeds signal = true)
    (taken : (Network.working (fun _ => ()) store app work :
      Network cloud App Unit Unit).signal? id signal = some next) :
    ∃ later after rest, next = .working (fun _ => ()) later after rest ∧
      after.currentUser = some currentUid ∧ Continues store later app after work rest := by
  rcases Network.signal_working taken with
    ⟨before, job, last, choice, later, answer, rfl, rfl, served, rfl⟩ |
    ⟨before, job, answer, last, rfl, rfl, rfl⟩
  · have answered := ordered.working_serve
    refine ⟨_, _, _, rfl, signedIn, continues_serve (fun postId => ?_) allowed served⟩
    exact ⟨fun _ => owed_answered answered, fun _ => owed_answered answered,
      fun _ => owed_answered answered⟩
  · obtain rfl := ordered.working_deliver
    have undivided : Undivided ([] : List (Posted (Job.call currentUid))) job := by
      intro tag _
      exact ⟨rfl, rfl⟩
    obtain ⟨after, jobs, ran, change, -, continues⟩ :=
      continues_deliver signedIn job answer undivided
    refine ⟨_, after, _, Network.launch_working ran fun _ _ => rfl, ?_, continues⟩
    obtain rfl | ⟨user, cell, post, -, rfl⟩ := change
    · exact signedIn
    · exact signedIn

/-- What is to come of the store is what is to come of the cell, whose count is behind by a tap for
as long as that is being written. -/
structure Foretold (cell : Ref) (postId : PostId) (base : ℤ) (store : Cloud) (app : App)
    (work : List (Posted (Job.call currentUid))) (post : Post) : Prop where
  shown : app.shown? cell = some post
  about : post.postId = postId
  first : postDue store work postId = post.didLike
  second : userDue store work postId = post.didLike
  likes : likesDue store work postId = some (base + post.didLike.toNat)
  counted : completions work cell = [] ∧ post.likes = base + post.didLike.toNat ∨
    completions work cell = [base + post.didLike.toNat] ∧ post.likes = base + (!post.didLike).toNat
  tags : ∀ posted ∈ work, ∀ tag ∈ posted.job.tag?, tag = (cell, postId)

private theorem Foretold.continues (foretold : Foretold cell postId base store app work post)
    (continues : Continues store later app after work rest) :
    ∃ post, Foretold cell postId base later after rest post := by
  have tags : ∀ posted ∈ rest, ∀ tag ∈ posted.job.tag?, tag = (cell, postId) := by
    intro posted member tag tagged
    obtain ⟨other, among, same⟩ := continues.tags posted member tag tagged
    exact foretold.tags other among tag same
  have first := (continues.first postId).trans foretold.first
  have second := (continues.second postId).trans foretold.second
  have likes := (continues.likes postId).trans foretold.likes
  obtain ⟨same, shown⟩ | ⟨count, completes, shown⟩ := continues.shown cell
  · refine ⟨post, shown.trans foretold.shown, foretold.about, first, second, likes, ?_, tags⟩
    rw [same]
    exact foretold.counted
  · rw [foretold.shown] at shown
    obtain ⟨nothing, -⟩ | ⟨one, -⟩ := foretold.counted
    · cases nothing.symm.trans completes
    · obtain ⟨rfl, none⟩ := List.cons.inj (one.symm.trans completes)
      exact ⟨_, shown, foretold.about, first, second, likes, .inl ⟨none.symm, rfl⟩, tags⟩

/-- A tap whose copy is up to date, and counts a like if it is to take one back. -/
private theorem Foretold.tap (foretold : Foretold cell postId base store app work post)
    (answered : completions work cell = []) (user : User) :
    ∃ turned, Foretold cell postId base store (app.modify cell LikedOnce.toggle)
      (tapped work user cell post) turned := by
  obtain ⟨-, count⟩ | ⟨one, -⟩ := foretold.counted
  swap
  · cases answered.symm.trans one
  have about := foretold.about
  have written : turned post = base + (!post.didLike).toNat := by
    cases liked : post.didLike <;> simp [turned, liked, count]
  obtain ⟨value, found, model⟩ := Option.bind_eq_some_iff.mp foretold.shown
  refine ⟨{ post with didLike := !post.didLike }, ?_, about, ?_, ?_, ?_, .inr ⟨?_, ?_⟩, ?_⟩
  · rw [LikedOnce.shown?_modify, if_pos rfl, found]
    simp [LikedOnce.toggle, model]
  · rw [postDue_tapped, if_pos about]
  · rw [userDue_tapped, if_pos about]
  · rw [likesDue_tapped, if_pos about, foretold.likes, Option.map_some, written]
  · rw [completions_tapped, if_pos rfl, answered, List.nil_append, written]
  · rw [Bool.not_not]
    exact count
  · intro posted member tag tagged
    rcases List.mem_append.mp member with member | member
    · exact foretold.tags posted member tag tagged
    · rcases List.mem_pair.mp (mem_issue.mp member).1 with same | same
      · rw [same] at tagged
        cases tagged
      · rw [same] at tagged
        rw [← Option.some.inj tagged, about]

/-- What is to come of the store and of the cell is not the same, or not the count that belongs to
it. -/
def Wrong (cell : Ref) (postId : PostId) (base : ℤ) (store : Cloud) (app : App)
    (work : List (Posted (Job.call currentUid))) : Prop :=
  ∀ liked : Bool, likesDue store work postId = some (base + liked.toNat) →
    postDue store work postId = liked →
    ∀ likes, shownDue app work cell ≠ some (postId, liked, likes)

private theorem Wrong.continues (wrong : Wrong cell postId base store app work)
    (continues : Continues store later app after work rest) :
    Wrong cell postId base later after rest := by
  intro liked likes first count shown
  rw [continues.likes] at likes
  rw [continues.first] at first
  rw [continues.shownDue] at shown
  exact wrong liked likes first count shown

/-- A tap while one is being written counts from a copy that is behind. -/
private theorem Foretold.tap_early (foretold : Foretold cell postId base store app work post)
    (pending : completions work cell ≠ []) (app : App) :
    Wrong cell postId base store app (tapped work user cell post) := by
  obtain ⟨nothing, -⟩ | ⟨-, count⟩ := foretold.counted
  · exact absurd nothing pending
  intro liked likes first _ _
  rw [likesDue_tapped, if_pos foretold.about, foretold.likes, Option.map_some] at likes
  rw [postDue_tapped, if_pos foretold.about] at first
  have same := Option.some.inj likes
  cases flag : post.didLike <;> simp_all [turned]

/-- A tap that writes nothing turns only the flag. -/
private theorem Foretold.tap_dropped (foretold : Foretold cell postId base store app work post) :
    Wrong cell postId base store (app.modify cell LikedOnce.toggle) work := by
  intro liked likes first count shown
  obtain ⟨value, found, model⟩ := Option.bind_eq_some_iff.mp foretold.shown
  rw [foretold.first] at first
  rw [shownDue, LikedOnce.shown?_modify, if_pos rfl, found] at shown
  simp [LikedOnce.toggle, model, ← first] at shown

/-- The documents of the post and of the account's like of it are as before. -/
def Alike (currentUid : Uid) (postId : PostId) (store later : Cloud) : Prop :=
  ∀ reference ∈ [DocumentReference.post postId, .postLike postId currentUid,
    .userLike currentUid postId],
    later.firestore.lookup reference = store.firestore.lookup reference

private theorem Alike.dues (alike : Alike currentUid postId store later)
    (work : List (Posted (Job.call currentUid))) :
    likesDue later work postId = likesDue store work postId ∧
    postDue later work postId = postDue store work postId ∧
    userDue later work postId = userDue store work postId := by
  have present (reference : DocumentReference) (same : later.firestore.lookup reference =
      store.firestore.lookup reference) : later.has reference = store.has reference := by
    rw [Cloud.has, Cloud.has, decide_eq_decide, ← Finmap.lookup_isSome, same, Finmap.lookup_isSome]
  refine ⟨?_, ?_, ?_⟩
  · rw [likesDue, alike _ (by simp)]
    rfl
  · rw [postDue, present _ (alike _ (by simp))]
    rfl
  · rw [userDue, present _ (alike _ (by simp))]
    rfl

private theorem Foretold.change (foretold : Foretold cell postId base store app work post)
    (alike : Alike currentUid postId store later) :
    Foretold cell postId base later app work post := by
  obtain ⟨likes, first, second⟩ := alike.dues work
  exact ⟨foretold.shown, foretold.about, first.trans foretold.first,
    second.trans foretold.second, likes.trans foretold.likes, foretold.counted, foretold.tags⟩

private theorem Wrong.change (wrong : Wrong cell postId base store app work)
    (alike : Alike currentUid postId store later) :
    Wrong cell postId base later app work := by
  obtain ⟨same, flag, -⟩ := alike.dues work
  intro liked likes first
  rw [same] at likes
  rw [flag] at first
  exact wrong liked likes first

end Work

section Run

/-- What may happen: a tap on the cell, a change of the store from elsewhere, or a signal. -/
inductive Input where
  | tap
  | change (later : Cloud)
  | signal (signal : Signal cloud)

/-- One step of the session. Its requests do not fail, and are served and answered in the order of
issue. -/
def step? (cell : Ref) (net : Network cloud App Unit Unit) :
    Input → Option (Network cloud App Unit Unit)
  | .tap => some (net.launch id () (FeedCell.onTapLike cell))
  | .change later => some { net with store := later }
  | .signal signal => if net.InOrder id signal ∧ succeeds signal = true then
      net.signal? id signal else none

/-- Nobody else acts on the post. -/
def Alone (currentUid : Uid) (postId : PostId) (net : Network cloud App Unit Unit) : Input → Prop
  | .change later => Alike currentUid postId net.store later
  | _ => True

/-- A tap while no like of the post is being written, on a copy that counts a like if the tap is to
take one back. -/
def Clean (currentUid : Uid) (cell : Ref) (postId : PostId) (net : Network cloud App Unit Unit) :
    Input → Prop
  | .tap => ∀ app ∈ net.clients (), ∀ post ∈ app.tapped? cell,
    (∀ pending ∈ net.flight, pending.call.request.likes? currentUid postId = none) ∧
    (post.didLike = true → 0 < post.likes)
  | _ => True

instance (currentUid : Uid) (cell : Ref) (postId : PostId) (net : Network cloud App Unit Unit)
    (input : Input) : Decidable (Clean currentUid cell postId net input) :=
  match input with
  | .tap => inferInstanceAs (Decidable (∀ app ∈ net.clients (), ∀ post ∈ app.tapped? cell,
      (∀ pending ∈ net.flight, pending.call.request.likes? currentUid postId = none) ∧
      (post.didLike = true → 0 < post.likes)))
  | .change _ | .signal _ => inferInstanceAs (Decidable True)

/-- A session with nothing in flight. -/
structure Resting (currentUid : Uid) (net : Network cloud App Unit Unit) : Prop where
  idle : net.flight = []
  quiet : net.listeners = []
  client : ∃ app, net.clients () = some app ∧ app.currentUser = some currentUid

/-- The store and the cell agree on the likes of the post, and on whether the account likes it. -/
structure Agrees (currentUid : Uid) (cell : Ref) (postId : PostId) (likes : ℤ) (liked : Bool)
    (net : Network cloud App Unit Unit) : Prop where
  shown : ∃ app ∈ net.clients (), ∃ post ∈ app.shown? cell,
    post.postId = postId ∧ post.didLike = liked ∧ post.likes = likes
  counted : ∃ data ∈ net.store.firestore.lookup (.post postId), data.int "likes" = likes
  first : net.store.has (.postLike postId currentUid) = liked
  second : net.store.has (.userLike currentUid postId) = liked

/-- The session is at work on its taps, and what is to come of the cell is what is to come of the
store. -/
def Told (currentUid : Uid) (cell : Ref) (postId : PostId) (base : ℤ)
    (net : Network cloud App Unit Unit) : Prop :=
  ∃ store app, ∃ work : List (Posted (Job.call currentUid)), ∃ post,
    net = .working (fun _ => ()) store app work ∧ app.currentUser = some currentUid ∧
      Foretold cell postId base store app work post

/-- The session is at work on its taps, and what is to come is wrong. -/
def Astray (currentUid : Uid) (cell : Ref) (postId : PostId) (base : ℤ)
    (net : Network cloud App Unit Unit) : Prop :=
  ∃ store app, ∃ work : List (Posted (Job.call currentUid)),
    net = .working (fun _ => ()) store app work ∧ app.currentUser = some currentUid ∧
      Wrong cell postId base store app work

variable {net next start final : Network cloud App Unit Unit} {inputs : List Input}

/-- The likes of the post are being written as long as a count is to be given to the cell. -/
private theorem Foretold.answered_iff (foretold : Foretold cell postId base store app work post) :
    completions work cell = [] ↔ ∀ pending ∈ (Network.working (fun _ => ()) store app work :
      Network cloud App Unit Unit).flight, pending.call.request.likes? currentUid postId = none := by
  rw [Network.working_flight, List.forall_mem_map, completions, List.append_eq_nil_iff, carried,
    carried, List.filterMap_eq_nil_iff, List.filterMap_eq_nil_iff, ← forall₂_and]
  refine forall₂_congr fun posted member => ?_
  have tags := foretold.tags posted member
  rcases posted with ⟨job, answer⟩
  cases job with
  | counter other likes => simp [Posted.pending, Job.call, Job.starts?, Job.completes?,
      Request.likes?, Request.writes?]
  | notice receiver data => simp [Posted.pending, Job.call, Job.starts?, Job.completes?,
      Request.likes?, Request.writes?]
  | postLike user other post =>
    obtain ⟨rfl, rfl⟩ := Prod.mk.inj (tags _ rfl)
    cases liked : post.didLike <;> simp [Posted.pending, Job.call, Job.starts?, Job.completes?,
      Request.likes?, Request.writes?, Request.put, liked]
  | userLike user other post =>
    obtain ⟨rfl, rfl⟩ := Prod.mk.inj (tags _ rfl)
    cases liked : post.didLike <;> simp [Posted.pending, Job.call, Job.starts?, Job.completes?,
      Request.likes?, Request.writes?, Request.put, liked]

/-- At rest, what is to come is what is there. -/
private theorem Agrees.told {likes : ℤ} {liked : Bool} (resting : Resting currentUid net)
    (agrees : Agrees currentUid cell postId likes liked net) :
    Told currentUid cell postId (likes - liked.toNat) net := by
  obtain ⟨app, running, signedIn⟩ := resting.client
  obtain ⟨_, same, post, shown, about, flag, count⟩ := agrees.shown
  obtain ⟨data, stored, number⟩ := agrees.counted
  obtain rfl := Option.some.inj (running.symm.trans same)
  subst flag count
  refine ⟨_, app, [], post, Network.eq_working _ _ running resting.idle resting.quiet, signedIn,
    shown, about, ?_, ?_, ?_, .inl ⟨rfl, ?_⟩, nofun⟩
  · exact agrees.first
  · exact agrees.second
  · rw [likesDue, stored, Option.map_some, number]
    simp
  · omega

private theorem Foretold.agrees (foretold : Foretold cell postId base store app
      ([] : List (Posted (Job.call currentUid))) post) :
    Agrees currentUid cell postId (base + post.didLike.toNat) post.didLike
      (.working (fun _ => ()) store app ([] : List (Posted (Job.call currentUid)))) := by
  obtain ⟨-, count⟩ | ⟨one, -⟩ := foretold.counted
  · refine ⟨⟨app, rfl, post, foretold.shown, foretold.about, rfl, count⟩, ?_, foretold.first,
      foretold.second⟩
    exact Option.map_eq_some_iff.mp foretold.likes
  · cases one

private theorem Wrong.not_agrees (wrong : Wrong cell postId base store app
      ([] : List (Posted (Job.call currentUid)))) (liked : Bool) :
    ¬ Agrees currentUid cell postId (base + liked.toNat) liked
      (.working (fun _ => ()) store app ([] : List (Posted (Job.call currentUid)))) := by
  rintro ⟨⟨_, ⟨⟩, post, shown, about, flag, -⟩, ⟨data, stored, count⟩, first, -⟩
  have stored : store.firestore.lookup (.post postId) = some data := stored
  refine wrong liked ?_ first post.likes ?_
  · rw [likesDue, stored, Option.map_some, count]
    rfl
  · rw [shownDue, shown, Option.map_some, about, flag]
    rfl

private theorem Told.step {input : Input} (told : Told currentUid cell postId base net)
    (alone : Alone currentUid postId net input) (clean : Clean currentUid cell postId net input)
    (taken : step? cell net input = some next) : Told currentUid cell postId base next := by
  obtain ⟨store, app, work, post, rfl, signedIn, foretold⟩ := told
  cases input with
  | change later =>
    obtain rfl := Option.some.inj taken
    exact ⟨later, app, work, post, rfl, signedIn, foretold.change alone⟩
  | signal signal =>
    simp only [step?] at taken
    split_ifs at taken with allowed
    obtain ⟨later, after, rest, rfl, signedIn, continues⟩ :=
      continues_signal signedIn allowed.1 allowed.2 taken
    obtain ⟨post, foretold⟩ := foretold.continues continues
    exact ⟨later, after, rest, post, rfl, signedIn, foretold⟩
  | tap =>
    obtain rfl := Option.some.inj taken
    cases reaches : app.tapped? cell with
    | none =>
      have ran : (FeedCell.onTapLike cell).run app =
          ⟨some app, ([] : List Job).map (Job.call currentUid), []⟩ := LikedOnce.onTapLike_idle reaches
      refine ⟨store, app, work, post, ?_, signedIn, foretold⟩
      rw [Network.launch_working ran fun _ _ => rfl, issue_nil, List.append_nil]
    | some copy =>
      obtain ⟨answered, counts⟩ := clean app rfl copy reaches
      obtain ⟨user, known⟩ : ∃ user, app.user = some user := known_of_tapped reaches
      have ran := tap_run signedIn known reaches
      obtain rfl := Option.some.inj
        (foretold.shown.symm.trans (LikedOnce.shown?_of_tapped reaches))
      obtain ⟨turned, foretold⟩ := foretold.tap (foretold.answered_iff.mpr answered) user
      rw [tapJobs, if_neg fun drops => absurd drops.2 (not_le.mpr (counts drops.1))] at ran
      exact ⟨store, _, _, turned, Network.launch_working ran fun _ _ => rfl, signedIn, foretold⟩

/-- A run goes wrong from a tap that is not clean. -/
private theorem Told.tap_wrong (told : Told currentUid cell postId base net)
    (unclean : ¬ Clean currentUid cell postId net .tap) (taken : step? cell net .tap = some next) :
    Astray currentUid cell postId base next := by
  obtain ⟨store, app, work, post, rfl, signedIn, foretold⟩ := told
  obtain rfl := Option.some.inj taken
  simp only [Clean, not_forall] at unclean
  obtain ⟨_, ⟨⟩, copy, reaches, unclean⟩ := unclean
  obtain ⟨user, known⟩ : ∃ user, app.user = some user := known_of_tapped reaches
  have ran := tap_run signedIn known reaches
  obtain rfl := Option.some.inj (foretold.shown.symm.trans (LikedOnce.shown?_of_tapped reaches))
  by_cases drops : post.didLike = true ∧ post.likes ≤ 0
  · rw [tapJobs, if_pos drops] at ran
    refine ⟨store, _, _, Network.launch_working ran fun _ _ => rfl, signedIn, ?_⟩
    rw [issue_nil, List.append_nil]
    exact foretold.tap_dropped
  · rw [tapJobs, if_neg drops] at ran
    refine ⟨store, _, _, Network.launch_working ran fun _ _ => rfl, signedIn, ?_⟩
    refine foretold.tap_early (fun answered => unclean ⟨foretold.answered_iff.mp answered, ?_⟩) _
    intro liked
    by_contra none
    exact drops ⟨liked, not_lt.mp none⟩

/-- Nothing but another tap sets it right. -/
private theorem Astray.step {input : Input} (astray : Astray currentUid cell postId base net)
    (alone : Alone currentUid postId net input) (noTap : input ≠ .tap)
    (taken : step? cell net input = some next) : Astray currentUid cell postId base next := by
  obtain ⟨store, app, work, rfl, signedIn, wrong⟩ := astray
  cases input with
  | tap => exact absurd rfl noTap
  | change later =>
    obtain rfl := Option.some.inj taken
    exact ⟨later, app, work, rfl, signedIn, wrong.change alone⟩
  | signal signal =>
    simp only [step?] at taken
    split_ifs at taken with allowed
    obtain ⟨later, after, rest, rfl, signedIn, continues⟩ :=
      continues_signal signedIn allowed.1 allowed.2 taken
    exact ⟨later, after, rest, rfl, signedIn, wrong.continues continues⟩

private theorem told_of_run {likes : ℤ} {liked : Bool} (resting : Resting currentUid start)
    (agrees : Agrees currentUid cell postId likes liked start)
    (run : Run (fun net input next => Alone currentUid postId net input ∧
      Clean currentUid cell postId net input ∧ step? cell net input = some next) start inputs net) :
    Told currentUid cell postId (likes - liked.toNat) net :=
  run.invariant (agrees.told resting) fun taken told => told.step taken.1 taken.2.1 taken.2.2

/-- As long as taps are clean, the cell and the store agree whenever nothing is in flight, on a count
that changed as the account's like did. After a tap that is not, they do not once everything is
answered. -/
theorem taps_agree {likes : ℤ} {liked : Bool} (resting : Resting currentUid start)
    (agrees : Agrees currentUid cell postId likes liked start)
    (run : Run (fun net input next => Alone currentUid postId net input ∧
      Clean currentUid cell postId net input ∧ step? cell net input = some next) start inputs net) :
    (net.flight = [] → ∃ now : Bool,
      Agrees currentUid cell postId (likes + (now.toNat - liked.toNat)) now net) ∧
    ∀ called later final, ¬ Clean currentUid cell postId net .tap →
      step? cell net .tap = some called →
      Run (fun net input next => Alone currentUid postId net input ∧ input ≠ .tap ∧
        step? cell net input = some next) called later final → final.flight = [] →
      ∀ now : Bool,
        ¬ Agrees currentUid cell postId (likes + (now.toNat - liked.toNat)) now final := by
  have told := told_of_run resting agrees run
  have count (now : Bool) : likes + ((now.toNat : ℤ) - liked.toNat) =
      likes - liked.toNat + now.toNat := by omega
  constructor
  · intro idle
    obtain ⟨store, app, work, post, rfl, -, foretold⟩ := told
    obtain rfl := Network.working_idle.mp idle
    refine ⟨post.didLike, ?_⟩
    rw [count]
    exact foretold.agrees
  · intro called inputs final unclean taken rest idle now
    have astray : Astray currentUid cell postId (likes - liked.toNat) final :=
      rest.invariant (told.tap_wrong unclean taken) fun taken astray =>
        astray.step taken.1 taken.2.1 taken.2.2
    obtain ⟨store, app, work, rfl, -, wrong⟩ := astray
    obtain rfl := Network.working_idle.mp idle
    rw [count]
    exact wrong.not_agrees now

/-- From a count that is right, a tap is clean as soon as no like of the post is being written. -/
theorem clean_of_answered {likes : ℤ} {liked : Bool} (resting : Resting currentUid start)
    (agrees : Agrees currentUid cell postId likes liked start) (counted : liked.toNat ≤ likes)
    (run : Run (fun net input next => Alone currentUid postId net input ∧
      Clean currentUid cell postId net input ∧ step? cell net input = some next) start inputs net)
    (answered : ∀ pending ∈ net.flight, pending.call.request.likes? currentUid postId = none) :
    Clean currentUid cell postId net .tap := by
  obtain ⟨store, app, work, post, rfl, -, foretold⟩ := told_of_run resting agrees run
  rintro _ ⟨⟩ copy reaches
  refine ⟨answered, fun flag => ?_⟩
  obtain rfl := Option.some.inj (foretold.shown.symm.trans (LikedOnce.shown?_of_tapped reaches))
  obtain ⟨-, count⟩ | ⟨one, -⟩ := foretold.counted
  · rw [flag, Bool.toNat_true] at count
    omega
  · cases (foretold.answered_iff.mpr answered).symm.trans one

end Run

section Examples

/-- A feed whose one cell shows the post, with the store's count of its likes. -/
def showing (likes : ℤ) : Network cloud App Unit Unit :=
  let user : User := ⟨"", "", "", "", "v", ⟨0, 0, 0⟩, false⟩
  let data := (PostService.data "" ⟨0, 0⟩ "" "v" user).updating (.ofList [("likes", .int likes)])
  let post := Post.ofDictionary ⟨0, 0⟩ "p" data
  { store := { firestore := .singleton (.post "p") data }
    clients := fun _ => some
      { currentUser := some "u"
        user := some { user with uid := "u" }
        objects := [⟨.feed ⟨[post], none⟩, true⟩, ⟨.feedCell ⟨some post, 0⟩, true⟩] } }

private theorem showing_resting (likes : ℤ) : Resting "u" (showing likes) := ⟨rfl, rfl, _, rfl, rfl⟩

private theorem showing_agrees (likes : ℤ) : Agrees "u" 1 "p" likes false (showing likes) := by
  refine ⟨⟨_, rfl, _, rfl, rfl, rfl, rfl⟩, ⟨_, Finmap.lookup_singleton_eq, rfl⟩, ?_, ?_⟩
  · simp [showing, Cloud.has]
  · simp [showing, Cloud.has]

/-- So many requests are served, drawing this name, and answered. -/
def answers (count : ℕ) (name : String) : List Input :=
  (List.range count).map (fun index => .signal (.serve index (.answer [] name))) ++
    .replicate count (.signal (.deliver 0))

/-- The post is liked, unliked and liked again, each time once the tap before is answered. -/
def three : List Input :=
  [.tap] ++ answers 2 "" ++ answers 1 "" ++ [.tap] ++ answers 3 "m" ++ answers 1 "" ++ [.tap] ++
    answers 2 "" ++ answers 1 "" ++ answers 1 "n"

/-- The cell and the store agree after these taps. -/
theorem taps_agree_three :
    ∃ net, Run (fun net input next => Alone "u" "p" net input ∧ Clean "u" 1 "p" net input ∧
        step? 1 net input = some next) (showing 4) three net ∧
      ∃ now : Bool, Agrees "u" 1 "p" (4 + (now.toNat - 0)) now net := by
  have completes : (replay? (fun net input => match input with
      | .change _ => none
      | input => if Clean "u" 1 "p" net input then step? 1 net input else none) (showing 4)
      three).any (fun net => decide (net.flight.isEmpty = true)) = true := by
    decide +kernel
  obtain ⟨net, replayed, empty⟩ := exists_run_of_replay? completes
  have run : Run (fun net input next => Alone "u" "p" net input ∧ Clean "u" 1 "p" net input ∧
      step? 1 net input = some next) (showing 4) three net := by
    refine replayed.mono fun {net input next} taken => ?_
    cases input with
    | change later => cases taken
    | tap =>
      dsimp only at taken
      split_ifs at taken with clean
      exact ⟨trivial, clean, taken⟩
    | signal signal =>
      dsimp only at taken
      split_ifs at taken with clean
      exact ⟨trivial, clean, taken⟩
  exact ⟨net, run, (taps_agree (showing_resting 4) (showing_agrees 4) run).1
    (List.isEmpty_iff.mp empty)⟩

/-- A post without likes is tapped twice before the first answer. The second tap takes nothing back
because the copy counts no like, and the cell no longer shows the like that is written. -/
theorem taps_disagree :
    ¬ ∀ (currentUid : Uid) (cell : Ref) (postId : PostId) (likes : ℤ) (liked : Bool)
      (start net : Network cloud App Unit Unit) (inputs : List Input), Resting currentUid start →
      Agrees currentUid cell postId likes liked start → 0 ≤ likes → (liked = true → 1 ≤ likes) →
      Run (fun net input next => Alone currentUid postId net input ∧
        step? cell net input = some next) start inputs net → net.flight = [] →
      ∃ now : Bool,
        Agrees currentUid cell postId (likes + (now.toNat - liked.toNat)) now net := by
  intro claim
  let answers (count : ℕ) : List Input :=
    (List.range count).map (fun index => .signal (.serve index (.answer [] "n"))) ++
      .replicate count (.signal (.deliver 0))
  have twice : (replay? (fun net input => match input with
      | .change _ => none
      | input => step? 1 net input) (showing 0) ([.tap, .tap] ++ answers 2 ++ answers 1 ++
        answers 1)).any (fun net => decide (net.flight.isEmpty = true ∧
          net.store.has (.postLike "p" "u") = true ∧
          ((net.clients ()).bind fun app => app.shown? 1).map Post.didLike = some false)) = true := by
    decide +kernel
  obtain ⟨net, replayed, empty, liked, shown⟩ := exists_run_of_replay? twice
  have run : Run (fun net input next => Alone "u" "p" net input ∧ step? 1 net input = some next)
      (showing 0) ([.tap, .tap] ++ answers 2 ++ answers 1 ++ answers 1) net := by
    refine replayed.mono fun {net input next} taken => ?_
    cases input with
    | change later => cases taken
    | tap => exact ⟨trivial, taken⟩
    | signal signal => exact ⟨trivial, taken⟩
  obtain ⟨now, ⟨app, running, post, displayed, -, flag, -⟩, -, first, -⟩ := claim "u" 1 "p" 0 false _ net
    _ (showing_resting 0) (showing_agrees 0) le_rfl nofun run (List.isEmpty_iff.mp empty)
  rw [Option.mem_def.mp running, Option.bind_some, Option.mem_def.mp displayed, Option.map_some,
    flag, ← first, liked] at shown
  cases shown

end Examples

end LikeTaps

end InstagramClone
