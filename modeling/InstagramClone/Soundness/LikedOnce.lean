import InstagramClone.Async.Pursuit
import InstagramClone.Discipline.Indifference
import InstagramClone.Soundness.MirroredDocuments
import InstagramClone.Soundness.WriteOwnership

/-! # An account likes a post at most once

A like tap decides by the copy of the post that its cell was handed. The app fills in the `didLike`
of a feed's posts when it checks them, but it checks neither a feed of one post nor a cell anew once
the post is tapped in another. A cell falls behind when it is handed a copy that is not as the
account's likes are, and by taps on the post elsewhere. The taps of a run like only posts that are
not liked, and unlike only those that are, exactly as long as none is made on a cell that is behind.
-/

namespace InstagramClone

open Async

/-- Whether the account likes the post after the request, where a like document says so. -/
def Request.likes? (uid : Uid) (post : PostId) (request : Request) : Option Bool :=
  (request.writes? (.postLike post uid)).or (request.writes? (.userLike uid post))

/-- The account whose like of some post the request writes. -/
def Request.liker? : Request → Option Uid
  | .setData (.postLike _ uid) _ | .setData (.userLike uid _) _ | .delete (.postLike _ uid)
  | .delete (.userLike uid _) => some uid
  | _ => none

private theorem Request.likes?_of_liker {uid : Uid} {request : Request}
    (other : request.liker? ≠ some uid) (post : PostId) : request.likes? uid post = none := by
  cases request with
  | setData reference data | delete reference =>
    cases reference <;> simp_all [liker?, likes?, writes?]
  | _ => rfl

/-- The post that a cell shows. -/
def App.shown? (app : App) (cell : Ref) : Option Post :=
  (app.find? FeedCell cell).bind FeedCell.viewModel

/-- The post that a feed hands to the cell of a row. -/
def App.handed? (app : App) (feed : Ref) (row : ℕ) : Option Post :=
  (app.find? FeedController feed).bind fun shown => shown.row? row

/-- The post for which a tap on the cell's like button calls a service. -/
def App.tapped? (app : App) (cell : Ref) : Option Post :=
  (app.find? FeedCell cell).bind fun shown =>
    if app.inTab shown.delegate && app.user.isSome then shown.viewModel else none

namespace LikedOnce

variable {ι : Type}

/-- Whether the account likes the post once the like writes in flight are in. -/
def likes (uid : Uid) (net : Network cloud App ι ι) (post : PostId) : Bool :=
  (net.flight.findSome? fun pending => pending.call.request.likes? uid post).getD
    (net.store.has (.postLike post uid))

/-- Every like tap of the account has been answered. -/
def Answered (uid : Uid) (net : Network cloud App ι ι) : Prop :=
  ∀ pending ∈ net.flight, pending.call.request.liker? ≠ some uid

instance (uid : Uid) (net : Network cloud App ι ι) : Decidable (Answered uid net) :=
  inferInstanceAs (Decidable (∀ pending ∈ net.flight, pending.call.request.liker? ≠ some uid))

section Events

variable [DecidableEq ι]

/-- The cell that the event hands a post to on this client. -/
def handOver? (me : ι) (net : Network cloud App ι ι) : Event cloud ι UserAction → Option (Ref × Post)
  | .act client (.feedCellForItemAt feed row cell) =>
    if client = me then (net.clients me).bind fun app =>
      (app.handed? feed row).map fun post => (cell, post)
    else none
  | _ => none

/-- The cell on which this client taps the like button, with the copy that decides. -/
def tap? (me : ι) (net : Network cloud App ι ι) : Event cloud ι UserAction → Option (Ref × Post)
  | .act client (.feedCellOnTapLike cell) =>
    if client = me then (net.clients me).bind fun app =>
      (app.tapped? cell).map fun post => (cell, post)
    else none
  | _ => none

/-- The sessions, and which feed cells of one of them are behind. -/
structure Watched (ι : Type) where
  net : Network cloud App ι ι
  behind : Ref → Bool := fun _ => false

/-- The cells that are behind after an event. A cell is brought up to date by a copy that is as the
account's likes are, and a tap in one cell turns the others that show the post. A tap that unlikes
at a counter of zero changes the copy and nothing else. -/
def behindAfter (uid : Uid) (me : ι) (watched : Watched ι) (event : Event cloud ι UserAction) :
    Ref → Bool :=
  match handOver? me watched.net event, tap? me watched.net event with
  | some (cell, post), _ => Function.update watched.behind cell
      (post.didLike ^^ likes uid watched.net post.postId)
  | none, some (cell, post) =>
    if post.didLike = true ∧ post.likes ≤ 0 then Function.update watched.behind cell true
    else fun other => watched.behind other ^^ (other ≠ cell ∧
      ((watched.net.clients me).bind fun app => app.shown? other).any (·.postId = post.postId))
  | none, none => watched.behind

/-- Nothing fails, and a like is tapped once the taps before it have been answered. -/
def Allowed (uid : Uid) (me : ι) (net : Network cloud App ι ι) : Event cloud ι UserAction → Prop
  | .signal signal => succeeds signal = true
  | event => (tap? me net event).isSome → Answered uid net

instance (uid : Uid) (me : ι) (net : Network cloud App ι ι) (event : Event cloud ι UserAction) :
    Decidable (Allowed uid me net event) :=
  match event with
  | .signal signal => inferInstanceAs (Decidable (succeeds signal = true))
  | .act client action =>
    inferInstanceAs (Decidable ((tap? me net (.act client action)).isSome → Answered uid net))

/-- One step of the sessions, with the cells that it leaves behind. -/
def step? (uid : Uid) (me : ι) (watched : Watched ι) (event : Event cloud ι UserAction) :
    Option (Watched ι) :=
  if Allowed uid me watched.net event then
    (watched.net.event? UserAction.perform event).map fun net =>
      ⟨net, behindAfter uid me watched event⟩
  else none

/-- A tap calls `likePost` for a post without the account's like, and `unlikePost` for one with
it. -/
def CallsOnce (uid : Uid) (me : ι) (net : Network cloud App ι ι) (event : Event cloud ι UserAction) :
    Prop :=
  ∀ tap ∈ tap? me net event,
    (tap.2.didLike = false → .postLike tap.2.postId uid ∉ net.store.firestore) ∧
    (tap.2.didLike = true → .postLike tap.2.postId uid ∈ net.store.firestore)

instance (uid : Uid) (me : ι) (net : Network cloud App ι ι) (event : Event cloud ι UserAction) :
    Decidable (CallsOnce uid me net event) :=
  inferInstanceAs (Decidable (∀ tap ∈ tap? me net event,
    (tap.2.didLike = false → .postLike tap.2.postId uid ∉ net.store.firestore) ∧
    (tap.2.didLike = true → .postLike tap.2.postId uid ∈ net.store.firestore)))

/-- A like is tapped on a cell that is not behind. -/
def UpToDate (me : ι) (watched : Watched ι) (event : Event cloud ι UserAction) : Prop :=
  ∀ tap ∈ tap? me watched.net event, watched.behind tap.1 = false

instance (me : ι) (watched : Watched ι) (event : Event cloud ι UserAction) :
    Decidable (UpToDate me watched event) :=
  inferInstanceAs (Decidable (∀ tap ∈ tap? me watched.net event, watched.behind tap.1 = false))

end Events

section Requests

/-- What a feed cell's copy says of the account's like. -/
def copy? (app : App) (cell : Ref) : Option (PostId × Bool) :=
  (app.shown? cell).map fun post => (post.postId, post.didLike)

/-- The session and the copies stay. -/
def motion : Motion App where
  moves before after := after.currentUser = before.currentUser ∧
    ∀ cell, copy? after cell = copy? before cell
  refl _ := ⟨rfl, fun _ => rfl⟩
  trans left right := ⟨right.1.trans left.1, fun cell => (right.2 cell).trans (left.2 cell)⟩

/-- The request writes no like. -/
def Apart (request : Request) : Prop := request.liker? = none

private theorem copy?_modify {α : Type} [Instance α] (app : App) (ref : Ref) (change : α → α)
    (apart : ∀ value : α, (Instance.project (Instance.inject value) : Option FeedCell) = none)
    (cell : Ref) : copy? (app.modify ref change) cell = copy? app cell := by
  rw [copy?, App.shown?, App.find?_modify_other apart]
  rfl

/-- What a heap object says of the account's like, if it is a feed cell. -/
def copyOf? : Object → Option (PostId × Bool)
  | .feedCell cell => cell.viewModel.map fun post => (post.postId, post.didLike)
  | _ => none

private theorem copy?_eq (app : App) (cell : Ref) :
    copy? app cell = app.objects[cell]?.bind fun entry => copyOf? entry.object := by
  simp only [copy?, App.shown?, App.find?]
  cases app.objects[cell]? with
  | none => rfl
  | some entry => cases same : entry.object <;> simp [same, Instance.project, copyOf?]

/-- New objects that show nothing leave the copies. -/
private theorem copy?_append {app later : App} {change : HeapObject → HeapObject}
    {objects : List HeapObject} (same : later.objects = app.objects.map change ++ objects)
    (kept : ∀ entry, (change entry).object = entry.object)
    (blank : ∀ entry ∈ objects, copyOf? entry.object = none) (cell : Ref) :
    copy? later cell = copy? app cell := by
  rw [copy?_eq, copy?_eq, same, List.getElem?_append]
  split_ifs with bound
  · rw [List.getElem?_map]
    cases app.objects[cell]? <;> simp [kept]
  · rw [List.length_map] at bound
    rw [List.getElem?_eq_none (Nat.le_of_not_lt bound)]
    cases found : objects[cell - (app.objects.map change).length]? with
    | none => rfl
    | some entry => exact blank entry (List.mem_of_getElem? found)

private theorem copy?_add (app : App) (object : Object) (inTab : Bool)
    (blank : ∀ cell, object = .feedCell cell → cell.viewModel = none) (cell : Ref) :
    copy? (app.add object inTab) cell = copy? app cell := by
  have same : (app.add object inTab).objects = app.objects.map id ++ [⟨object, inTab⟩] := by
    rw [List.map_id]
    rfl
  refine copy?_append same (fun _ => rfl) (fun entry member => ?_) cell
  obtain rfl := List.mem_singleton.mp member
  cases object with
  | feedCell shown => simp [copyOf?, blank shown rfl]
  | _ => rfl

private theorem copy?_setUser (app : App) (user : User) (cell : Ref) :
    copy? (MainTabController.setUser user app) cell = copy? app cell := by
  have same : (MainTabController.setUser user app).objects =
      app.objects.map (fun entry => { entry with inTab := false }) ++ _ := rfl
  exact copy?_append same (fun _ => rfl) (by simp [copyOf?]) cell

/-- Code that leaves the feed cells alone keeps their copies. -/
private theorem indifferent (base : App) : Indifferent Apart (motion.moves base) where
  reads request reads := by cases request <;> first | rfl | cases reads
  edges _ _ present := by cases present <;> exact ⟨rfl, rfl⟩
  entries _ _ present := by cases present <;> rfl
  posts _ := rfl
  comments _ _ := rfl
  notifies _ _ := rfl
  record _ _ := rfl
  updates _ _ := rfl
  modifies app ref change apart moved :=
    ⟨moved.1, fun cell => (copy?_modify app ref change apart cell).trans (moved.2 cell)⟩
  adds app object inTab blank moved :=
    ⟨moved.1, fun cell => (copy?_add app object inTab blank cell).trans (moved.2 cell)⟩
  tabs app user moved :=
    ⟨moved.1, fun cell => (copy?_setUser app user cell).trans (moved.2 cell)⟩

end Requests

section Actions

variable {app : App} {uid : Uid} {cell : Ref} {post : Post}

/-- A tap that calls no service does nothing. -/
theorem onTapLike_idle (idle : app.tapped? cell = none) :
    (FeedCell.onTapLike cell).run app = ⟨some app, [], []⟩ := by
  simp only [FeedCell.onTapLike, FeedCell.withViewModel, Code.withObject, Program.run_inspect]
  cases found : app.find? FeedCell cell with
  | none => rfl
  | some shown =>
    dsimp only
    cases model : shown.viewModel with
    | none => rfl
    | some post =>
      simp only [FeedController.didLike, Code.withTabUser, Program.run_inspect]
      cases inside : app.inTab shown.delegate with
      | false => rfl
      | true =>
        cases signed : app.user with
        | none => rfl
        | some user => simp [App.tapped?, found, inside, signed, model] at idle

/-- A change of one cell's post is seen in that cell only. -/
theorem shown?_modify (app : App) (ref cell : Ref) (change : FeedCell → FeedCell) :
    (app.modify ref change).shown? cell =
      if cell = ref then (app.find? FeedCell ref).bind fun shown => (change shown).viewModel
      else app.shown? cell := by
  split_ifs with same
  · rw [same, App.shown?, App.find?_modify]
    cases app.find? FeedCell ref <;> rfl
  · rw [App.shown?, App.find?_modify_of_ne app same]
    rfl

private theorem within_setLikes (cell : Ref) (likes : ℤ) :
    (FeedController.setLikes cell likes).Within motion Apart := by
  refine fun base => Code.preserves_modify fun app moved => ⟨moved.1, fun other => ?_⟩
  rw [← moved.2 other, copy?, shown?_modify]
  split_ifs with same
  · rw [same, copy?, App.shown?]
    cases app.find? FeedCell cell with
    | none => rfl
    | some shown => cases model : shown.viewModel <;> simp [model]
  · rfl

/-- `cell.viewModel?.post.didLike.toggle()` -/
def toggle (shown : FeedCell) : FeedCell :=
  { shown with viewModel := shown.viewModel.map fun post => { post with didLike := !post.didLike } }

/-- The write of the post's like document, with the account's to follow. -/
def likeCall (uid : Uid) (post : PostId) (liked : Bool)
    (completion : (Request.put (.userLike uid post) liked).Response → Code App) :
    Call firebase App :=
  ⟨.put (.postLike post uid) liked, fun _ => Code.call (.put (.userLike uid post) liked) completion⟩

/-- A tap toggles the copy, then likes or unlikes the post as the copy said, unless there is a like
to take back and the copy counts none. -/
private theorem onTapLike_run (signedIn : app.currentUser = some uid)
    (tapped : app.tapped? cell = some post) :
    ∃ calls, (FeedCell.onTapLike cell).run app = ⟨some (app.modify cell toggle), calls, []⟩ ∧
      if post.didLike = true ∧ post.likes ≤ 0 then calls = []
      else ∃ (likes : ℤ) (completion : _ → Code App),
        (∀ error, (completion error).Within motion Apart) ∧
        calls = [⟨.updateData (.post post.postId) (.ofList [("likes", .int likes)]), fun _ => .done⟩,
          likeCall uid post.postId (!post.didLike) completion] := by
  obtain ⟨shown, found, model⟩ := Option.bind_eq_some_iff.mp tapped
  obtain ⟨reaches, model⟩ := Option.ite_none_right_eq_some.mp model
  obtain ⟨inside, signed⟩ := Bool.and_eq_true_iff.mp reaches
  obtain ⟨user, signed⟩ := Option.isSome_iff_exists.mp signed
  have toggled : (app.modify cell toggle).currentUser = some uid := signedIn
  have ran : (FeedCell.onTapLike cell).run app =
      (if post.didLike then
        PostService.unlikePost post fun _ => FeedController.setLikes cell (post.likes - 1)
      else PostService.likePost post fun _ => .seq (FeedController.setLikes cell (post.likes + 1))
        (NotificationService.addNotification post.ownerUid user .like (some post))).run
        (app.modify cell toggle) := by
    simp only [FeedCell.onTapLike, FeedCell.withViewModel, Code.withObject, Program.run_inspect,
      found, model, FeedController.didLike, Code.withTabUser, inside, signed]
    rfl
  rw [ran]
  cases liked : post.didLike with
  | false =>
    refine ⟨_, PostService.run_likePost toggled post _, ?_⟩
    rw [if_neg (by simp)]
    refine ⟨post.likes + 1, _, fun error base => ?_, rfl⟩
    exact (within_setLikes cell _ base).seq
      (NotificationService.preserves_addNotification fun _ => rfl)
  | true =>
    by_cases positive : post.likes > 0
    · refine ⟨_, PostService.run_unlikePost toggled positive _, ?_⟩
      rw [if_neg (by omega)]
      exact ⟨post.likes - 1, _, fun error => within_setLikes cell _, rfl⟩
    · refine ⟨[], ?_, ?_⟩
      · rw [if_pos rfl, PostService.unlikePost, Code.run_withCurrentUser toggled, if_neg positive]
        rfl
      · rw [if_pos ⟨rfl, by omega⟩]

theorem shown?_of_tapped (tapped : app.tapped? cell = some post) : app.shown? cell = some post := by
  obtain ⟨shown, found, model⟩ := Option.bind_eq_some_iff.mp tapped
  rw [App.shown?, found]
  exact (Option.ite_none_right_eq_some.mp model).2

private theorem copy?_toggle (shown : app.shown? cell = some post) (other : Ref) :
    copy? (app.modify cell toggle) other =
      if other = cell then some (post.postId, !post.didLike) else copy? app other := by
  obtain ⟨value, found, model⟩ := Option.bind_eq_some_iff.mp shown
  rw [copy?, shown?_modify]
  split_ifs
  · simp [found, toggle, model]
  · rfl

/-- A feed without such a row hands nothing over. -/
private theorem cellForItemAt_idle {feed : Ref} {row : ℕ}
    (none : app.handed? feed row = none) :
    (FeedController.cellForItemAt feed row cell).run app = ⟨some app, [], []⟩ := by
  simp only [FeedController.cellForItemAt, Code.withObject, Program.run_inspect]
  cases found : app.find? FeedController feed with
  | none => rfl
  | some shown =>
    have missing : shown.row? row = Option.none := by simpa [App.handed?, found] using none
    simp only [missing, Program.run_done]

end Actions

section Contract

/-- A session signs in to its account only. -/
def policy (account : ι → Uid) (client : ι) : Policy Cloud :=
  .free (fun uid => uid = account client) (fun _ => True) (fun _ _ => True) (fun _ => True)
    fun _ _ _ => True

variable {account : ι → Uid} {client : ι}

private theorem policy_mono : (policy account client).Mono fun _ _ => True :=
  Policy.free_mono fun _ known => known

/-- The likes of an account are written by its own sessions, and no like is added under a name
that the backend draws. -/
def contract (account : ι → Uid) : Contract firebase Cloud App ι where
  invariant _ := True
  evolves _ _ := True
  holds client store app := (policy account client).Governs store app
  allows client _ request := (∀ uid ∈ request.liker?, uid = account client) ∧
    ∀ post, ¬ request.AddsTo (.postLikes post)
  opens _ _ _ := True
  replies _ _ _ := True
  reports _ _ _ := True
  mayTrap := True
  refl _ := trivial
  trans _ _ := trivial
  holds_mono _ valid := policy_mono.governs_mono trivial valid
  allows_mono _ := id
  opens_mono _ _ := trivial

private theorem allows_of_apart {store : Cloud} {request : Request} (apart : request.liker? = none)
    (adds : ∀ post, ¬ request.AddsTo (.postLikes post)) :
    (contract account).allows client store request :=
  ⟨by simp [apart], adds⟩

private theorem policy_reads : (policy account client).Reads (contract account) client := by
  refine Policy.free_reads (fun _ known => known) (fun _ _ => Iff.rfl) (fun _ request reads => ?_)
    (fun _ _ => trivial) (fun _ => trivial) fun _ _ _ => trivial
  cases request with
  | setData | updateData | delete | addDocument => cases reads
  | _ => exact allows_of_apart rfl fun _ => id

private theorem policy_writes : (policy account client).Writes (contract account) client where
  toReads := policy_reads
  like_counter _ _ _ := allows_of_apart rfl nofun
  like := by
    rintro store uid id owner image rfl known present
    cases present <;> exact ⟨⟨fun _ same => (Option.some.inj same).symm, nofun⟩,
      fun _ same => (Option.some.inj same).symm, nofun⟩
  edge _ _ _ present := by
    cases present <;> exact ⟨allows_of_apart rfl nofun, allows_of_apart rfl nofun⟩
  edge_notified _ _ present := by
    cases present <;> exact ⟨allows_of_apart rfl nofun, allows_of_apart rfl nofun⟩
  feed _ _ _ _ present := by cases present <;> exact allows_of_apart rfl nofun
  notify_follow _ _ _ _ _ _ := allows_of_apart rfl nofun
  notify_post _ _ _ _ _ _ _ := allows_of_apart rfl nofun
  comment _ _ _ _ := allows_of_apart rfl nofun
  upload _ _ _ _ := allows_of_apart rfl nofun
  save _ _ _ _ _ := allows_of_apart rfl nofun
  picture _ _ := allows_of_apart rfl nofun
  owner_image _ _ _ _ _ := allows_of_apart rfl nofun

private theorem lawful : cloud.Lawful (contract account) fun _ => True :=
  ⟨fun _ _ _ _ => ⟨trivial, trivial, trivial⟩, fun _ _ _ _ => trivial⟩

variable [DecidableEq ι] {net next : Network cloud App ι ι}

private theorem sound_event {event : Event cloud ι UserAction}
    (sound : net.Sound (contract account) id)
    (taken : net.event? UserAction.perform event = some next) : next.Sound (contract account) id := by
  refine (sound.event lawful (fun signal _ => ?_) (fun client action _ app running => ?_) taken).1
  · cases signal <;> trivial
  · refine policy_writes.effect_perform (sound.clients client app running)
      (UserAction.Signed.authored ?_)
    cases action with
    | feedCellOnTapLike | commentOnTapPost | profileOnTapEditProfile => exact fun _ _ => trivial
    | uploadOnTapShare => exact fun _ _ _ _ _ _ => trivial
    | _ => trivial

omit [DecidableEq ι] in
/-- What is in flight and writes a like of the account comes from its only session. -/
private theorem origin_of_liker {me : ι} (sound : net.Sound (contract account) id)
    (alone : ∀ client, account client = account me → client = me)
    {pending : Pending firebase App ι} (member : pending ∈ net.flight)
    (writes : pending.call.request.liker? = some (account me)) : pending.origin = me :=
  alone _ ((sound.flight pending member).1.1 _ writes).symm

end Contract

section Invariant

/-- The write of a like: of the post's document, with the account's to follow, or of the latter. -/
inductive Writing (uid : Uid) (post : PostId) (liked : Bool) : Bool → Call firebase App → Prop
  | first {completion : (Request.put (.userLike uid post) liked).Response → Code App} :
    (∀ error, (completion error).Within motion Apart) →
    Writing uid post liked false (likeCall uid post liked completion)
  | second {callback : (Request.put (.userLike uid post) liked).Response → Code App} :
    (∀ error, (callback error).Within motion Apart) →
    Writing uid post liked true ⟨.put (.userLike uid post) liked, callback⟩

/-- The requests in flight that write likes of the account. -/
def writing (uid : Uid) (net : Network cloud App ι ι) : List (Pending firebase App ι) :=
  net.flight.filter fun pending => pending.call.request.liker? = some uid

/-- The session is writing one like, and from the answer of the first write on the post's document
is as it should be. -/
structure Liking (uid : Uid) (me : ι) (store : Cloud) (post : PostId) (liked : Bool)
    (pending : Pending firebase App ι) : Prop where
  origin : pending.origin = me
  call : ∃ second, Writing uid post liked second pending.call ∧
    (second = true ∨ pending.answer.isSome = true → store.has (.postLike post uid) = liked)

/-- The session writes at most one like at a time, all its other code leaves copies and likes alone,
and a cell's copy is as the account's likes are, unless the cell is behind. -/
structure Tidy (uid : Uid) (me : ι) (net : Network cloud App ι ι) (behind : Ref → Bool) : Prop where
  signedIn : ∀ app ∈ net.clients me, app.currentUser = some uid
  listeners : ∀ listener ∈ net.listeners, listener.origin = me →
    listener.subscription.Within motion Apart
  calm : ∀ pending ∈ net.flight, pending.call.request.liker? ≠ some uid → pending.origin = me →
    ∀ answer, (pending.call.callback answer).Within motion Apart
  single : writing uid net = [] ∨ ∃ pending post liked, writing uid net = [pending] ∧
    Liking uid me net.store post liked pending
  copies : ∀ app ∈ net.clients me, ∀ cell post didLike, copy? app cell = some (post, didLike) →
    behind cell = (didLike ^^ likes uid net post)

variable {uid : Uid} {me : ι} {net next : Network cloud App ι ι} {behind : Ref → Bool}
  {post other : PostId} {liked second : Bool} {call : Call firebase App}
  {pending : Pending firebase App ι}

private theorem Writing.liker (writes : Writing uid post liked second call) :
    call.request.liker? = some uid := by
  cases writes <;> cases liked <;> rfl

private theorem Writing.likes? (writes : Writing uid post liked second call) (other : PostId) :
    call.request.likes? uid other = if post = other then some liked else none := by
  cases writes <;> cases liked <;> simp [likeCall, Request.likes?, Request.put, Request.writes?]

private theorem Writing.writes? (writes : Writing uid post liked second call) (other : PostId) :
    call.request.writes? (.postLike other uid) =
      if second = false ∧ post = other then some liked else none := by
  cases writes <;> cases liked <;> simp [likeCall, Request.put, Request.writes?]

/-- The likes are those stored, but for the writes in flight. -/
private theorem likes_eq (uid : Uid) (net : Network cloud App ι ι) (post : PostId) :
    likes uid net post = ((writing uid net).findSome? fun pending =>
      pending.call.request.likes? uid post).getD (net.store.has (.postLike post uid)) := by
  unfold likes writing
  congr 1
  induction net.flight with
  | nil => rfl
  | cons pending rest ih =>
    by_cases writes : pending.call.request.liker? = some uid
    · rw [List.filter_cons_of_pos (by simpa using writes), List.findSome?_cons, List.findSome?_cons,
        ih]
    · rw [List.filter_cons_of_neg (by simpa using writes), List.findSome?_cons, ih,
        Request.likes?_of_liker writes]

private theorem likes_idle (idle : writing uid net = []) (post : PostId) :
    likes uid net post = net.store.has (.postLike post uid) := by
  rw [likes_eq, idle]
  rfl

private theorem likes_writing (only : writing uid net = [pending])
    (writes : Writing uid post liked second pending.call) (other : PostId) :
    likes uid net other = if post = other then liked else net.store.has (.postLike other uid) := by
  rw [likes_eq, only, List.findSome?_cons, writes.likes? other]
  split_ifs <;> rfl

private theorem answered_iff : Answered uid net ↔ writing uid net = [] := by
  simp [Answered, writing, List.filter_eq_nil_iff]

variable [DecidableEq ι] {origin : ι} {program : Code App}

omit [DecidableEq ι] in
/-- The invariant is about the writes in flight and the copies only. -/
private theorem Tidy.congr (tidy : Tidy uid me net behind) (store : next.store = net.store)
    (clients : next.clients = net.clients) (flight : ∀ pending ∈ next.flight, pending ∈ net.flight)
    (listeners : ∀ listener ∈ next.listeners, listener.origin = me →
      listener.subscription.Within motion Apart)
    (same : writing uid next = writing uid net) : Tidy uid me next behind where
  signedIn := clients ▸ tidy.signedIn
  listeners := listeners
  calm pending member := tidy.calm pending (flight pending member)
  single := by
    rw [same, store]
    exact tidy.single
  copies := by
    simp only [likes_eq, same, store, clients]
    simpa only [likes_eq] using tidy.copies

/-- Code that leaves copies and likes alone, or is another client's. -/
private theorem Tidy.launch (tidy : Tidy uid me net behind)
    (within : origin = me → program.Within motion Apart)
    (theirs : ∀ pending ∈ (net.launch id origin program).flight,
      pending.call.request.liker? = some uid → pending.origin = me) :
    Tidy uid me (net.launch id origin program) behind := by
  cases running : net.clients origin with
  | none => rwa [Network.launch_trapped running]
  | some state =>
    rw [Network.launch_running running] at theirs ⊢
    have apart : ∀ call ∈ (program.run state).calls, call.request.liker? ≠ some uid := by
      intro call issued writes
      have mine : origin = me := theirs ⟨origin, call, none⟩
        (List.mem_append_right _ (List.mem_map_of_mem issued)) writes
      rw [(((within mine).run state).2.1 call issued).1] at writes
      cases writes
    have same : writing uid { net with
        clients := Function.update net.clients (id origin) (program.run state).state
        flight := net.flight ++ (program.run state).calls.map (fun call => ⟨origin, call, none⟩)
        listeners := net.listeners ++ (program.run state).subscriptions.map
          (fun subscription => ⟨origin, subscription, cloud.start⟩) } = writing uid net := by
      have none : ((program.run state).calls.map fun call =>
          (⟨origin, call, none⟩ : Pending firebase App ι)).filter
            (fun pending => pending.call.request.liker? = some uid) = [] := by
        simpa [List.filter_eq_nil_iff] using apart
      rw [writing, List.filter_append, none, List.append_nil]
      rfl
    have moved : ∀ app ∈ (Function.update net.clients (id origin) (program.run state).state) me,
        ∃ before ∈ net.clients me, motion.moves before app := by
      intro app now
      by_cases mine : origin = me
      · subst mine
        rw [id_eq, Function.update_self] at now
        exact ⟨state, running, ((within rfl).run state).1 app now⟩
      · rw [id_eq, Function.update_of_ne (Ne.symm mine)] at now
        exact ⟨app, now, motion.refl app⟩
    refine ⟨fun app now => ?_, fun listener member mine => ?_, fun pending member other mine => ?_,
      ?_, fun app now cell post didLike shown => ?_⟩
    · obtain ⟨before, known, moved⟩ := moved app now
      exact moved.1.trans (tidy.signedIn before known)
    · rcases List.mem_append.mp member with member | member
      · exact tidy.listeners listener member mine
      · obtain ⟨subscription, opened, rfl⟩ := List.mem_map.mp member
        exact ((within mine).run state).2.2 subscription opened
    · rcases List.mem_append.mp member with member | member
      · exact tidy.calm pending member other mine
      · obtain ⟨call, issued, rfl⟩ := List.mem_map.mp member
        exact (((within mine).run state).2.1 call issued).2
    · rw [same]
      exact tidy.single
    · obtain ⟨before, known, moved⟩ := moved app now
      rw [moved.2 cell] at shown
      rw [tidy.copies before known cell post didLike shown, likes_eq, likes_eq, same]

private theorem Tidy.notify (tidy : Tidy uid me net behind)
    (theirs : ∀ pending ∈ next.flight, pending.call.request.liker? = some uid → pending.origin = me)
    {index : ℕ} {choice : Choice} (notified : net.notify? id index choice = some next) :
    Tidy uid me next behind := by
  obtain ⟨before, after, origin, subscription, cursor, event, seen, split, -, rfl⟩ :=
    Network.notify?_cases notified
  have mine := tidy.listeners ⟨origin, subscription, cursor⟩ (by simp [split])
  refine Tidy.launch (tidy.congr rfl rfl (fun _ => id) (fun listener member same => ?_) rfl)
    (fun same => mine same event) theirs
  simp only [List.mem_append, List.mem_cons] at member
  rcases member with member | rfl | member
  · exact tidy.listeners listener (by simp [split, member]) same
  · exact mine same
  · exact tidy.listeners listener (by simp [split, member]) same

omit [DecidableEq ι] in
/-- The only write in flight, when one is singled out. -/
private theorem writing_split {before after : List (Pending firebase App ι)}
    (split : net.flight = before ++ pending :: after)
    (writes : pending.call.request.liker? = some uid) {only : Pending firebase App ι}
    (single : writing uid net = [only]) :
    pending = only ∧ (before ++ after).filter
      (fun pending => pending.call.request.liker? = some uid) = [] := by
  rw [writing, split, List.filter_append, List.filter_cons_of_pos (by simpa using writes)] at single
  rcases List.append_eq_singleton_iff.mp single with ⟨none, rest⟩ | ⟨-, rest⟩
  · obtain ⟨rfl, later⟩ := List.cons.inj rest
    exact ⟨rfl, by rw [List.filter_append, none, later, List.append_nil]⟩
  · cases rest

omit [DecidableEq ι] in
/-- A write is issued while none is in flight, and the copies are as it will leave the likes. -/
private theorem Tidy.write {old : List (Pending firebase App ι)}
    (signedIn : ∀ app ∈ next.clients me, app.currentUser = some uid)
    (listeners : ∀ listener ∈ next.listeners, listener.origin = me →
      listener.subscription.Within motion Apart)
    (flight : next.flight = old ++ [⟨me, call, none⟩])
    (calm : ∀ pending ∈ old, pending.call.request.liker? ≠ some uid ∧ (pending.origin = me →
      ∀ answer, (pending.call.callback answer).Within motion Apart))
    (writes : Writing uid post liked second call)
    (stored : second = true → next.store.has (.postLike post uid) = liked)
    (copies : ∀ app ∈ next.clients me, ∀ cell other didLike, copy? app cell = some (other, didLike) →
      behind cell = (didLike ^^ if post = other then liked
        else next.store.has (.postLike other uid))) : Tidy uid me next behind := by
  have single : writing uid next = [⟨me, call, none⟩] := by
    have none : old.filter (fun pending => pending.call.request.liker? = some uid) = [] := by
      simpa [List.filter_eq_nil_iff] using fun pending member => (calm pending member).1
    rw [writing, flight, List.filter_append, none,
      List.filter_cons_of_pos (by simpa using writes.liker)]
    rfl
  refine ⟨signedIn, listeners, fun pending member other => ?_, .inr ⟨_, post, liked, single, rfl,
    second, writes, fun answered => stored (answered.resolve_right (by simp))⟩, ?_⟩
  · rw [flight] at member
    rcases List.mem_append.mp member with member | member
    · exact (calm pending member).2
    · obtain rfl := List.mem_singleton.mp member
      exact absurd writes.liker other
  · intro app now cell other didLike shown
    rw [copies app now cell other didLike shown, likes_writing single writes]

/-- An answer reaches the session: the second write follows the first, and nothing else writes. -/
private theorem Tidy.deliver (tidy : Tidy uid me net behind)
    (theirs : ∀ pending ∈ next.flight, pending.call.request.liker? = some uid → pending.origin = me)
    {index : ℕ} (delivered : net.deliver? id index = some next) : Tidy uid me next behind := by
  obtain ⟨before, after, origin, call, answer, split, -, rfl⟩ := Network.deliver?_cases delivered
  have inside : ∀ pending ∈ before ++ after, pending ∈ net.flight := by
    intro pending member
    simp only [split, List.mem_append, List.mem_cons] at member ⊢
    tauto
  by_cases writes : call.request.liker? = some uid
  · rcases tidy.single with idle | ⟨only, post, liked, single, liking⟩
    · have member : (⟨origin, call, some answer⟩ : Pending firebase App ι) ∈ writing uid net :=
        List.mem_filter.mpr ⟨by simp [split], by simpa using writes⟩
      rw [idle] at member
      cases member
    · obtain ⟨rfl, idle⟩ := writing_split split writes single
      obtain ⟨rfl, second, write, stored⟩ := liking
      have done : net.store.has (.postLike post uid) = liked := stored (.inr rfl)
      have settled (other : PostId) : (if post = other then liked
          else net.store.has (.postLike other uid)) = net.store.has (.postLike other uid) := by
        split_ifs with same
        · rw [← same, done]
        · rfl
      have idle : writing uid { net with flight := before ++ after } = [] := idle
      have known := likes_writing single write
      have dropped : Tidy uid origin { net with flight := before ++ after } behind := by
        refine ⟨tidy.signedIn, tidy.listeners, fun pending member => tidy.calm pending
          (inside pending member), .inl idle, fun app now cell other didLike shown => ?_⟩
        rw [likes_idle idle, tidy.copies app now cell other didLike shown, known, settled]
      cases write with
      | second within => exact dropped.launch (fun _ => within answer) theirs
      | first within =>
        cases running : net.clients origin with
        | none => rwa [Network.launch_trapped running]
        | some app =>
          rw [Network.launch_running running]
          have still : ∀ now, Function.update net.clients origin (some app) origin = some now →
              net.clients origin = some now := by
            rw [Function.update_self, running]
            exact fun _ => id
          refine Tidy.write (fun now is => tidy.signedIn now (still now is))
            (by simpa using tidy.listeners) rfl (fun pending member => ⟨?_, ?_⟩) (.second within)
            (fun _ => done) fun now is cell other didLike shown => ?_
          · simpa using List.filter_eq_nil_iff.mp idle pending member
          · refine tidy.calm pending (inside pending member) ?_
            simpa using List.filter_eq_nil_iff.mp idle pending member
          · rw [tidy.copies now (still now is) cell other didLike shown, known]
  · refine Tidy.launch (tidy.congr rfl rfl inside tidy.listeners ?_) (fun mine =>
      tidy.calm ⟨origin, call, some answer⟩ (by simp [split]) writes mine answer) theirs
    rw [writing, writing, split, List.filter_append, List.filter_append,
      List.filter_cons_of_neg (by simpa using writes)]

omit [DecidableEq ι] in
/-- A request is served: the first write of a like reaches the post's document. -/
private theorem Tidy.serve (tidy : Tidy uid me net behind)
    (adds : ∀ pending ∈ net.flight, ∀ post, ¬ pending.call.request.AddsTo (.postLikes post))
    {index : ℕ} {choice : Choice} (succeeds : choice.succeeds = true)
    (served : net.serve? index choice = some next) : Tidy uid me next behind := by
  obtain ⟨before, after, origin, call, store, answer, split, -, resolved, rfl⟩ :=
    Network.serve?_cases served
  obtain ⟨fresh, applied, -⟩ := serve_firestore succeeds resolved
  have mine : (⟨origin, call, none⟩ : Pending firebase App ι) ∈ net.flight := by simp [split]
  have has (other : PostId) : store.has (.postLike other uid) =
      (call.request.writes? (.postLike other uid)).getD (net.store.has (.postLike other uid)) := by
    have apart : ¬ call.request.AddsTo (DocumentReference.postLike other uid).parent :=
      adds _ mine other
    rw [Cloud.has, applied, Request.mem_apply apart]
    rfl
  have calm : ∀ pending ∈ before ++ ⟨origin, call, some answer⟩ :: after,
      pending.call.request.liker? ≠ some uid → pending.origin = me →
      ∀ answer, (pending.call.callback answer).Within motion Apart := by
    intro pending member
    simp only [List.mem_append, List.mem_cons] at member
    rcases member with member | rfl | member
    · exact tidy.calm pending (by simp [split, member])
    · exact tidy.calm ⟨origin, call, none⟩ mine
    · exact tidy.calm pending (by simp [split, member])
  by_cases writes : call.request.liker? = some uid
  · rcases tidy.single with idle | ⟨only, post, liked, single, liking⟩
    · have member : (⟨origin, call, none⟩ : Pending firebase App ι) ∈ writing uid net :=
        List.mem_filter.mpr ⟨mine, by simpa using writes⟩
      rw [idle] at member
      cases member
    · obtain ⟨rfl, idle⟩ := writing_split split writes single
      obtain ⟨mine, second, write, stored⟩ := liking
      have now : writing uid { net with
          store := store
          flight := before ++ ⟨origin, call, some answer⟩ :: after } =
            [⟨origin, call, some answer⟩] := by
        rw [List.filter_append] at idle
        obtain ⟨none, rest⟩ := List.append_eq_nil_iff.mp idle
        rw [writing, List.filter_append, none, List.filter_cons_of_pos (by simpa using writes), rest]
        rfl
      have after : store.has (.postLike post uid) = liked ∧ ∀ other, post ≠ other →
          store.has (.postLike other uid) = net.store.has (.postLike other uid) := by
        have written (other : PostId) := (has other).trans (by rw [write.writes? other])
        cases second with
        | false =>
          refine ⟨by simp [written], fun other apart => ?_⟩
          simp [written, apart]
        | true =>
          refine ⟨?_, fun other _ => by simp [written]⟩
          rw [← stored (.inl rfl)]
          simp [written]
      refine ⟨tidy.signedIn, tidy.listeners, calm, .inr ⟨_, post, liked, now, mine, second, write,
        fun _ => after.1⟩, fun app running cell other didLike shown => ?_⟩
      rw [tidy.copies app running cell other didLike shown, likes_writing single write,
        likes_writing now write]
      split_ifs with same
      · rfl
      · rw [after.2 other same]
  · have same (other : PostId) :
        store.has (.postLike other uid) = net.store.has (.postLike other uid) := by
      rw [has, (Option.or_eq_none_iff.mp (Request.likes?_of_liker writes other)).1]
      rfl
    have still : writing uid { net with
        store := store
        flight := before ++ ⟨origin, call, some answer⟩ :: after } = writing uid net := by
      rw [writing, writing, split, List.filter_append, List.filter_append,
        List.filter_cons_of_neg (by simpa using writes),
        List.filter_cons_of_neg (by simpa using writes)]
    refine ⟨tidy.signedIn, tidy.listeners, calm, ?_, fun app now cell other didLike shown => ?_⟩
    · rw [still]
      refine tidy.single.imp_right fun ⟨pending, post, liked, single, mine, second, call, stored⟩ =>
        ⟨pending, post, liked, single, mine, second, call, fun known => ?_⟩
      exact (same post).trans (stored known)
    · rw [tidy.copies app now cell other didLike shown, likes_eq, likes_eq, still]
      dsimp only
      rw [same]

end Invariant

section Steps

variable {uid : Uid} {me : ι} {net : Network cloud App ι ι} {behind : Ref → Bool} [DecidableEq ι]
  {event : Event cloud ι UserAction}

/-- The tap of an event, on the app that the session shows. -/
private theorem tap?_cases {tap : Ref × Post} (tapped : tap ∈ tap? me net event) :
    ∃ app, net.clients me = some app ∧ app.tapped? tap.1 = some tap.2 ∧
      event = .act me (.feedCellOnTapLike tap.1) := by
  unfold tap? at tapped
  split at tapped
  · obtain ⟨rfl, tapped⟩ := Option.ite_none_right_eq_some.mp tapped
    obtain ⟨app, running, tapped⟩ := Option.bind_eq_some_iff.mp tapped
    obtain ⟨post, reached, rfl⟩ := Option.map_eq_some_iff.mp tapped
    exact ⟨app, running, reached, rfl⟩
  · cases tapped

/-- With all taps answered, a tap is right exactly on a cell that is not behind. -/
private theorem Tidy.callsOnce_iff (tidy : Tidy uid me net behind)
    (answered : (tap? me net event).isSome → Answered uid net) :
    CallsOnce uid me net event ↔ UpToDate me ⟨net, behind⟩ event := by
  refine forall₂_congr fun tap tapped => ?_
  have answered := answered (Option.isSome_of_mem tapped)
  obtain ⟨app, running, tapped, -⟩ := tap?_cases tapped
  have copy : copy? app tap.1 = some (tap.2.postId, tap.2.didLike) := by
    rw [copy?, shown?_of_tapped tapped]
    rfl
  have known := tidy.copies app running tap.1 _ _ copy
  rw [likes_idle (answered_iff.mp answered)] at known
  dsimp only
  rw [← Cloud.has_iff, known]
  cases tap.2.didLike <;> cases net.store.has (.postLike tap.2.postId uid) <;> simp

/-- The session changes what its cells show, and issues nothing. -/
private theorem Tidy.shows {app later : App} {program : Code App} {behind' : Ref → Bool}
    (tidy : Tidy uid me net behind) (running : net.clients me = some app)
    (ran : program.run app = ⟨some later, [], []⟩) (same : later.currentUser = app.currentUser)
    (copies : ∀ cell post didLike, copy? later cell = some (post, didLike) →
      behind' cell = (didLike ^^ likes uid net post)) :
    Tidy uid me (net.launch id me program) behind' := by
  rw [Network.launch_running (show net.clients (id me) = some app from running), ran]
  simp only [List.map_nil, List.append_nil, id_eq]
  refine ⟨fun now is => ?_, tidy.listeners, tidy.calm, tidy.single, fun now is => ?_⟩
  · obtain rfl : later = now := by simpa using is
    exact same.trans (tidy.signedIn app running)
  · obtain rfl : later = now := by simpa using is
    exact copies

/-- A tap on a cell that is not behind. -/
private theorem Tidy.tap {app : App} {cell : Ref} {post : Post} (tidy : Tidy uid me net behind)
    (answered : Answered uid net) (running : net.clients me = some app)
    (tapped : app.tapped? cell = some post) (upToDate : behind cell = false) :
    Tidy uid me (net.launch id me (FeedCell.onTapLike cell))
      (behindAfter uid me ⟨net, behind⟩ (.act me (.feedCellOnTapLike cell))) := by
  have signedIn := tidy.signedIn app running
  have idle := answered_iff.mp answered
  have shown := shown?_of_tapped tapped
  have copy : copy? app cell = some (post.postId, post.didLike) := by
    rw [copy?, shown]
    rfl
  have right : post.didLike = likes uid net post.postId := by
    have known := tidy.copies app running cell _ _ copy
    rw [upToDate] at known
    simpa using known
  have after : behindAfter uid me ⟨net, behind⟩ (.act me (.feedCellOnTapLike cell)) =
      if post.didLike = true ∧ post.likes ≤ 0 then Function.update behind cell true
      else fun other => behind other ^^ (other ≠ cell ∧
        (app.shown? other).any (·.postId = post.postId)) := by
    simp [behindAfter, handOver?, tap?, running, tapped]
  obtain ⟨calls, ran, what⟩ := onTapLike_run signedIn tapped
  rw [after]
  split_ifs at what ⊢
  · subst what
    refine tidy.shows running ran rfl fun other target didLike seen => ?_
    rw [copy?_toggle shown] at seen
    split_ifs at seen with same
    · obtain ⟨rfl, rfl⟩ := Prod.mk.inj (Option.some.inj seen)
      rw [same, Function.update_self, ← right]
      cases post.didLike <;> rfl
    · rw [Function.update_of_ne same]
      exact tidy.copies app running other target didLike seen
  · obtain ⟨number, completion, within, rfl⟩ := what
    rw [Network.launch_running (show net.clients (id me) = some app from running), ran]
    refine Tidy.write (fun now is => ?_) (by simpa using tidy.listeners) (List.append_assoc
      net.flight [_] [_]).symm (fun pending member => ?_) (.first within) nofun
      fun now is other target didLike seen => ?_
    · obtain rfl : app.modify cell toggle = now := by simpa using is
      exact signedIn
    · rcases List.mem_append.mp member with member | member
      · exact ⟨answered pending member, tidy.calm pending member (answered pending member)⟩
      · obtain rfl := List.mem_singleton.mp member
        exact ⟨nofun, fun _ _ _ => trivial⟩
    · obtain rfl : app.modify cell toggle = now := by simpa using is
      rw [copy?_toggle shown] at seen
      split_ifs at seen with same
      · obtain ⟨rfl, rfl⟩ := Prod.mk.inj (Option.some.inj seen)
        simp [same, upToDate]
      · have known := tidy.copies app running other target didLike seen
        obtain ⟨model, visible, pair⟩ := Option.map_eq_some_iff.mp seen
        obtain ⟨rfl, rfl⟩ := Prod.mk.inj pair
        dsimp only
        rw [known, visible]
        by_cases about : model.postId = post.postId
        · simp [same, about, ← right]
        · simp [about, Ne.symm about, likes_idle idle]

private theorem Tidy.handOver {app : App} {feed cell : Ref} {row : ℕ} {post : Post}
    (tidy : Tidy uid me net behind) (running : net.clients me = some app)
    (handed : app.handed? feed row = some post) :
    Tidy uid me (net.launch id me (FeedController.cellForItemAt feed row cell))
      (behindAfter uid me ⟨net, behind⟩ (.act me (.feedCellForItemAt feed row cell))) := by
  have after : behindAfter uid me ⟨net, behind⟩ (.act me (.feedCellForItemAt feed row cell)) =
      Function.update behind cell (post.didLike ^^ likes uid net post.postId) := by
    simp [behindAfter, handOver?, running, handed]
  have ran : (FeedController.cellForItemAt feed row cell).run app =
      ⟨some (app.modify cell fun _ : FeedCell => ⟨some post, feed⟩), [], []⟩ := by
    obtain ⟨shown, found, present⟩ := Option.bind_eq_some_iff.mp handed
    simp only [FeedController.cellForItemAt, Code.withObject, Program.run_inspect, found, present]
    rfl
  rw [after]
  refine tidy.shows running ran rfl fun other target didLike seen => ?_
  rw [copy?, shown?_modify] at seen
  split_ifs at seen with same
  · obtain ⟨model, visible, pair⟩ := Option.map_eq_some_iff.mp seen
    obtain ⟨rfl, rfl⟩ := Prod.mk.inj pair
    obtain ⟨_, -, shows⟩ := Option.bind_eq_some_iff.mp visible
    obtain rfl := Option.some.inj shows
    rw [same, Function.update_self]
  · rw [Function.update_of_ne same]
    exact tidy.copies app running other target didLike seen

/-- A hand-over of nothing, or a tap that calls no service. -/
private theorem Tidy.idle {app : App} {program : Code App} (tidy : Tidy uid me net behind)
    (running : net.clients me = some app) (ran : program.run app = ⟨some app, [], []⟩) :
    Tidy uid me (net.launch id me program) behind :=
  tidy.shows running ran rfl (tidy.copies app running)

/-- One step by a tap that meets the condition, or by anything else. -/
private theorem Tidy.step {account : ι → Uid} {watched later : Watched ι}
    (tidy : Tidy (account me) me watched.net watched.behind)
    (sound : watched.net.Sound (contract account) id)
    (alone : ∀ client, account client = account me → client = me)
    (upToDate : UpToDate me watched event)
    (taken : step? (account me) me watched event = some later) :
    later.net.Sound (contract account) id ∧ Tidy (account me) me later.net later.behind := by
  unfold step? at taken
  split_ifs at taken with allowed
  obtain ⟨next, stepped, rfl⟩ := Option.map_eq_some_iff.mp taken
  have after := sound_event sound stepped
  have theirs : ∀ pending ∈ next.flight, pending.call.request.liker? = some (account me) →
      pending.origin = me := fun pending member => origin_of_liker after alone member
  refine ⟨after, ?_⟩
  dsimp only
  cases event with
  | signal signal =>
    have adds : ∀ pending ∈ watched.net.flight, ∀ post,
        ¬ pending.call.request.AddsTo (.postLikes post) :=
      fun pending member => (sound.flight pending member).1.2
    cases signal with
    | serve index choice => exact tidy.serve adds allowed stepped
    | deliver index => exact tidy.deliver theirs stepped
    | notify index choice => exact tidy.notify theirs stepped
  | act client action =>
    obtain rfl := Option.some.inj stepped
    by_cases mine : client = me
    · subst mine
      cases running : watched.net.clients client with
      | none =>
        have same : behindAfter (account client) client watched (.act client action) =
            watched.behind := by
          cases action <;> simp [behindAfter, handOver?, tap?, running]
        rw [same, Network.launch_trapped running]
        exact tidy
      | some app =>
        by_cases apart : action.changesCopy = false
        · have same : behindAfter (account client) client watched (.act client action) =
              watched.behind := by
            cases action <;> first | rfl | cases apart
          rw [same]
          exact tidy.launch (fun _ base => (indifferent base).perform apart) theirs
        · cases action with
          | feedCellForItemAt feed row cell =>
            cases handed : app.handed? feed row with
            | some post => exact tidy.handOver running handed
            | none =>
              have same : behindAfter (account client) client watched
                  (.act client (.feedCellForItemAt feed row cell)) = watched.behind := by
                simp [behindAfter, handOver?, tap?, running, handed]
              rw [same]
              exact tidy.idle running (cellForItemAt_idle handed)
          | feedCellOnTapLike cell =>
            cases tapped : app.tapped? cell with
            | some post =>
              have taps : tap? client watched.net (.act client (.feedCellOnTapLike cell)) =
                  some (cell, post) := by simp [tap?, running, tapped]
              exact tidy.tap (allowed (by simp [taps])) running tapped (upToDate _ taps)
            | none =>
              have same : behindAfter (account client) client watched
                  (.act client (.feedCellOnTapLike cell)) = watched.behind := by
                simp [behindAfter, handOver?, tap?, running, tapped]
              rw [same]
              exact tidy.idle running (onTapLike_idle tapped)
          | _ => exact absurd rfl apart
    · have same : behindAfter (account me) me watched (.act client action) = watched.behind := by
        cases action <;> simp [behindAfter, handOver?, tap?, mine]
      rw [same]
      exact tidy.launch (fun same => absurd same mine) theirs

private theorem answered_of_step {watched next : Watched ι}
    (taken : step? uid me watched event = some next) (taps : (tap? me watched.net event).isSome) :
    Answered uid watched.net := by
  unfold step? at taken
  split_ifs at taken with allowed
  cases event with
  | signal signal => cases taps
  | act client action => exact allowed taps

/-- The taps of a run are right, one and all, exactly if each is made on a cell that is not behind. -/
theorem likes_once_iff {account : ι → Uid} {me : ι} {net : Network cloud App ι ι}
    {events : List (Event cloud ι UserAction)} {final : Watched ι}
    (alone : ∀ client, account client = account me → client = me)
    (opened : ∀ client app, net.clients client = some app →
      WriteOwnership.Opened (account client) app)
    (idle : net.flight = []) (quiet : net.listeners = []) :
    Run (fun watched event next => step? (account me) me watched event = some next ∧
        CallsOnce (account me) me watched.net event) ⟨net, fun _ => false⟩ events final ↔
      Run (fun watched event next => step? (account me) me watched event = some next ∧
        UpToDate me watched event) ⟨net, fun _ => false⟩ events final := by
  have blank (client : ι) (app : App) (running : net.clients client = some app) (cell : Ref) :
      copy? app cell = none := by
    rw [copy?_eq, (opened client app running).objects]
    rfl
  refine Run.congr (fun watched => watched.net.Sound (contract account) id ∧
    Tidy (account me) me watched.net watched.behind) ⟨?_, ?_⟩ ?_ ?_
  · refine ⟨trivial, fun _ _ => trivial, fun client app running => ?_, by simp [idle],
      by simp [quiet]⟩
    obtain ⟨current, user, objects⟩ := opened client app running
    refine ⟨fun uid shown => ?_, fun _ _ => ⟨⟨trivial, trivial⟩, trivial⟩,
      fun _ _ => trivial, by simp [objects]⟩
    exact (Option.some.inj (current.symm.trans shown)).symm
  · refine ⟨fun app running => (opened me app running).currentUser, by simp [quiet],
      by simp [idle], .inl (by simp [writing, idle]), fun app running cell post didLike shown => ?_⟩
    rw [blank me app running] at shown
    cases shown
  · intro watched event next taken steady
    exact steady.2.callsOnce_iff (answered_of_step taken)
  · exact fun taken upToDate steady => steady.2.step steady.1 alone upToDate taken

end Steps

section Examples

/-- A session of `u` on a store with a post in its feed, which the account may like. -/
def loading (owner : Uid) (liked : Bool) : Network cloud App Unit Unit where
  store :=
    let store := ((((∅ : Firestore).insert (.user "u") (UserService.data "" "" "" "u" "u")).insert
      (.post "p") (.ofList [("ownerUid", .string owner), ("likes", .int 1)])).insert
      (.userFeed "u" "p") .empty)
    { firestore := if liked then (store.insert (.postLike "p" "u") .empty).insert
        (.userLike "u" "p") .empty else store }
  clients _ := some { currentUser := some "u" }

/-- The oldest requests are answered with what is stored. -/
def answers (count : ℕ) : List (Event cloud Unit UserAction) :=
  drain (.replicate count (Choice.answer [] ""))

/-- The feed is loaded and its post is checked before a cell is handed it. -/
def showingFeed : List (Event cloud Unit UserAction) :=
  [.act () .tabsViewDidLoad] ++ answers 1 ++ [.act () (.feedViewDidLoad 0)] ++
    drain [Choice.answer [.userFeed "u" "p"] ""] ++ answers 1 ++ answers 1 ++
    [.act () (.feedNewCell 0), .act () (.feedCellForItemAt 0 0 5)]

/-- The post is opened from the account's own profile page. -/
def showingPost : List (Event cloud Unit UserAction) :=
  [.act () .tabsViewDidLoad] ++ answers 1 ++ [.act () (.profileViewDidLoad 3)] ++
    drain [Choice.answer [] "", Choice.answer [] "", Choice.answer [.post "p"] ""] ++
    [.act () (.profileDidSelectItemAt 3 0), .act () (.feedViewDidLoad 4), .act () (.feedNewCell 4),
      .act () (.feedCellForItemAt 4 0 5)]

private theorem loading_opened {owner : Uid} {liked : Bool} (client : Unit) (app : App)
    (running : (loading owner liked).clients client = some app) :
    WriteOwnership.Opened "u" app := by
  obtain rfl := Option.some.inj running
  exact ⟨rfl, nofun, rfl⟩

/-- A post of the feed is liked and unliked again. -/
def tappedTwice : List (Event cloud Unit UserAction) :=
  showingFeed ++ [.act () (.feedCellOnTapLike 5)] ++ answers 2 ++ answers 1 ++
    drain [Choice.answer [] "n"] ++ [.act () (.feedCellOnTapLike 5)] ++ answers 2 ++ answers 1

/-- Each tap calls the service once. -/
theorem likes_once_tapped :
    ∃ final, Run (fun watched event next => step? "u" () watched event = some next ∧
        CallsOnce "u" () watched.net event) ⟨loading "v" false, fun _ => false⟩ tappedTwice final ∧
      final.net.flight = [] ∧ .postLike "p" "u" ∉ final.net.store.firestore := by
  have completes : (replay? (fun watched event =>
      if UpToDate () watched event then step? "u" () watched event else none)
      ⟨loading "v" false, fun _ => false⟩ tappedTwice).any (fun final =>
        decide (final.net.flight.isEmpty = true ∧
          .postLike "p" "u" ∉ final.net.store.firestore)) = true := by
    decide +kernel
  obtain ⟨final, run, idle, unliked⟩ := exists_legal_run_of_replay? completes
  have upToDate := run.mono fun {watched event next} taken =>
    show step? "u" () watched event = some next ∧ UpToDate () watched event from ⟨taken.2, taken.1⟩
  exact ⟨final, (@likes_once_iff Unit _ (fun _ => "u") () _ _ _ (fun _ _ => rfl) loading_opened rfl
    rfl).mpr upToDate, List.isEmpty_iff.mp idle, unliked⟩

/-- A post that the account likes is opened from a profile page, and tapping its like button likes
it once more. -/
theorem likes_not_once :
    ¬ ∀ (account : Unit → Uid) (me : Unit) (net : Network cloud App Unit Unit)
      (events : List (Event cloud Unit UserAction)) (final : Watched Unit),
      (∀ client, account client = account me → client = me) →
      (∀ client app, net.clients client = some app →
        WriteOwnership.Opened (account client) app) → net.flight = [] → net.listeners = [] →
      Run (fun watched event next => step? (account me) me watched event = some next)
        ⟨net, fun _ => false⟩ events final →
      ∀ event, Allowed (account me) me final.net event →
        CallsOnce (account me) me final.net event := by
  intro claim
  have completes : (replay? (step? "u" ()) ⟨loading "u" true, fun _ => false⟩ showingPost).any
      (fun final => decide (Allowed "u" () final.net (.act () (.feedCellOnTapLike 5)) ∧
        ¬ CallsOnce "u" () final.net (.act () (.feedCellOnTapLike 5)))) = true := by
    decide +kernel
  obtain ⟨final, run, allowed, wrong⟩ := exists_run_of_replay? completes
  exact wrong (claim (fun _ => "u") () _ _ final (fun _ _ => rfl) loading_opened rfl rfl run _
    allowed)

end Examples

end LikedOnce

end InstagramClone
