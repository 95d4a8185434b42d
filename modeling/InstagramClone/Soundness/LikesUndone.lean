import InstagramClone.API.PostService
import InstagramClone.Async.Passage
import InstagramClone.Model.Contracts
import InstagramClone.Soundness.MirroredDocuments

/-! # Taking back a like

Sessions like and unlike with whatever copies of posts they hold. The service looks at the counter
of the copy before it takes a like back: from a positive counter both documents of the like go and
the handler is called, whatever else happens meanwhile. Stale copies can bring the stored counter
down to 0 while a like is still there, and then the like stays.
-/

namespace InstagramClone

open Async

namespace LikesUndone

variable {ι : Type}

/-- A session with the posts it holds and the numbers of its calls whose handler was called. -/
structure Taker where
  currentUser : Option Uid
  now : Timestamp := ⟨0, 0⟩
  held : List Post := []
  completed : List ℕ := []

instance : Device Taker where
  currentUser := Taker.currentUser
  setCurrentUser uid taker := { taker with currentUser := uid }
  now := Taker.now
  googleProfile _ := none

/-- A session fetches a post with its like, or calls one of the services with a post it holds. -/
inductive TakeAction where
  | fetchPost (postId : PostId)
  | likePost (post : Post)
  | unlikePost (post : Post)
deriving DecidableEq

/-- A call of a client, under a number of its own. -/
abbrev Origin (ι : Type) := ι × ℕ × TakeAction

namespace TakeAction

def completion (number : ℕ) (_ : Option BackendError) : Code Taker :=
  .update (fun taker => { taker with completed := taker.completed ++ [number] }) .done

def perform (number : ℕ) : TakeAction → Code Taker
  | fetchPost postId => PostService.fetchPost postId fun post =>
      PostService.isUserLikedPost post fun didLike =>
        .update (fun taker => { taker with held := taker.held ++ [{ post with didLike }] }) .done
  | likePost post => PostService.likePost post (completion number)
  | unlikePost post => PostService.unlikePost post (completion number)

/-- The post that the call is given, if it is given one. -/
def post? : TakeAction → Option Post
  | fetchPost _ => none
  | likePost post | unlikePost post => some post

end TakeAction

/-- The call makes the like of the account. -/
def Likes (account : ι → Uid) (uid : Uid) (postId : PostId) (origin : Origin ι) : Prop :=
  account origin.1 = uid ∧ ∃ post, origin.2.2 = .likePost post ∧ post.postId = postId

section Step

variable [DecidableEq ι]

/-- One step: a client calls with a post it holds and a number not used yet, or the surroundings
act, without failures. -/
def takeStep? (net : Network cloud Taker (Origin ι) ι) :
    Event cloud ι (ℕ × TakeAction) → Option (Network cloud Taker (Origin ι) ι)
  | .act client (number, action) =>
    if (∀ pending ∈ net.flight, pending.origin.1 = client → pending.origin.2.1 ≠ number) ∧
        (∀ taker ∈ net.clients client, number ∉ taker.completed ∧
          ∀ post ∈ action.post?, post ∈ taker.held) then
      some (net.launch Prod.fst (client, number, action) (action.perform number))
    else none
  | .signal signal => if succeeds signal then net.signal? Prod.fst signal else none

/-- One step of the sessions. -/
abbrev Takes (net : Network cloud Taker (Origin ι) ι) (event : Event cloud ι (ℕ × TakeAction))
    (next : Network cloud Taker (Origin ι) ι) : Prop :=
  takeStep? net event = some next

/-- A call that found nothing of its number in flight, or a signal that is no failure. -/
private theorem takes_cases {net next : Network cloud Taker (Origin ι) ι}
    {event : Event cloud ι (ℕ × TakeAction)} (taken : Takes net event next) :
    (∃ signal, event = .signal signal ∧ succeeds signal = true ∧
      net.signal? Prod.fst signal = some next) ∨
    ∃ client number action, event = .act client (number, action) ∧
      (∀ pending ∈ net.flight, pending.origin ≠ (client, number, action)) ∧
      next = net.launch Prod.fst (client, number, action) (action.perform number) := by
  cases event with
  | signal signal =>
    simp only [Takes, takeStep?] at taken
    split_ifs at taken with allowed
    exact .inl ⟨signal, rfl, allowed, taken⟩
  | act client call =>
    rcases call with ⟨number, action⟩
    simp only [Takes, takeStep?] at taken
    split_ifs at taken with unused
    refine .inr ⟨client, number, action, rfl, fun pending member same => ?_,
      (Option.some.inj taken).symm⟩
    exact unused.1 pending member (by rw [same]) (by rw [same])

private theorem marked : Marked Prod.fst (fun signal => succeeds signal = true)
    (Takes : Network cloud Taker (Origin ι) ι → _ → _ → Prop) := by
  intro net event next taken
  rcases takes_cases taken with ⟨signal, -, allowed, taken⟩ | ⟨_, _, _, -, fresh, rfl⟩
  · exact .inl ⟨signal, allowed, taken⟩
  · exact .inr ⟨_, _, fresh, rfl⟩

end Step

/-- Sessions stay on their accounts, and make no like but by calls that do. -/
def taking (account : ι → Uid) : Contract firebase Cloud Taker (Origin ι) where
  invariant _ := True
  evolves _ _ := True
  holds origin _ taker := taker.currentUser = some (account origin.1)
  allows origin _ request := ∀ uid postId,
    ¬ request.AddsTo (.postLikes postId) ∧ ¬ request.AddsTo (.userLikes uid) ∧
    (request.writes? (.postLike postId uid) = some true ∨
      request.writes? (.userLike uid postId) = some true → Likes account uid postId origin)
  opens _ _ _ := False
  replies _ _ _ := True
  reports _ _ _ := True
  mayTrap := False
  refl _ := trivial
  trans _ _ := trivial
  holds_mono _ valid := valid
  allows_mono _ allowed := allowed
  opens_mono _ opened := opened

private theorem taking_lawful (account : ι → Uid) :
    cloud.Lawful (taking account) fun choice => choice.succeeds = true :=
  ⟨fun _ _ _ _ => ⟨trivial, trivial, trivial⟩, fun _ _ _ _ => trivial⟩

private theorem taking_shared {account : ι → Uid} {first second : Origin ι}
    (same : first.1 = second.1) {store : Cloud} {taker : Taker}
    (valid : (taking account).holds first store taker) :
    (taking account).holds second store taker := by
  have signedIn : taker.currentUser = some (account first.1) := valid
  rw [same] at signedIn
  exact signedIn

variable {account : ι → Uid} {origin : Origin ι} {store : Cloud}

/-- A request other than a like of the call is allowed to it. -/
private theorem taking_allows {request : Request}
    (likes : ∀ uid postId, request.writes? (.postLike postId uid) = some true ∨
      request.writes? (.userLike uid postId) = some true → Likes account uid postId origin)
    (adds : ∀ collection, ¬ request.AddsTo collection) :
    (taking account).allows origin store request :=
  fun uid postId => ⟨adds _, adds _, likes uid postId⟩

/-- Handlers do nothing but note the call. -/
private theorem keeps_completion (number : ℕ) (error : Option BackendError) :
    (TakeAction.completion number error).Keeps (taking account) origin store :=
  ⟨fun _ _ _ valid => valid, trivial⟩

private theorem keeps_perform {client : ι} {number : ℕ} (action : TakeAction) :
    (action.perform number).Keeps (taking account) (client, number, action) store := by
  cases action with
  | fetchPost postId =>
    refine Code.keeps_call (taking_allows (by simp [Request.writes?]) fun _ => id) ?_
    intro later answer _ _
    rcases answer with _ | _ | data
    · trivial
    · trivial
    · refine Code.keeps_withTimestamp fun later _ _ => ?_
      refine Code.keeps_withCurrentUser fun later _ uid _ _ _ => ?_
      refine Code.keeps_call (taking_allows (by simp [Request.writes?]) fun _ => id) ?_
      intro later answer _ _
      cases answer with
      | error _ => trivial
      | ok snapshot => exact ⟨fun _ _ _ valid => valid, trivial⟩
  | likePost post =>
    refine Code.keeps_withCurrentUser fun later taker uid _ valid signedIn => ?_
    obtain rfl : account client = uid := Option.some.inj (valid.symm.trans signedIn)
    have mine : Likes account (account client) post.postId (client, number, .likePost post) :=
      ⟨rfl, post, rfl, rfl⟩
    refine ⟨⟨taking_allows (by simp [Request.writes?]) fun _ => id, fun _ _ _ _ => trivial⟩, ?_⟩
    refine Code.keeps_call (taking_allows ?_ fun _ => id) fun later _ _ _ => ?_
    · rintro uid postId (written | written) <;> simp [Request.writes?] at written
      obtain ⟨rfl, rfl⟩ := written
      exact mine
    · refine Code.keeps_call (taking_allows ?_ fun _ => id) fun later error _ _ =>
        keeps_completion number error
      rintro uid postId (written | written) <;> simp [Request.writes?] at written
      obtain ⟨rfl, rfl⟩ := written
      exact mine
  | unlikePost post =>
    refine Code.keeps_withCurrentUser fun later taker uid _ _ _ => ?_
    split_ifs
    · refine ⟨⟨taking_allows (by simp [Request.writes?]) fun _ => id, fun _ _ _ _ => trivial⟩, ?_⟩
      refine Code.keeps_call (taking_allows (by simp [Request.writes?]) fun _ => id) ?_
      intro later _ _ _
      exact Code.keeps_call (taking_allows (by simp [Request.writes?]) fun _ => id)
        fun later error _ _ => keeps_completion number error
    · trivial

section Run

variable [DecidableEq ι] {account : ι → Uid}
  {start net next called final : Network cloud Taker (Origin ι) ι}

/-- Sessions signed in to their accounts, with nothing under way. -/
structure Opened (account : ι → Uid) (net : Network cloud Taker (Origin ι) ι) : Prop where
  idle : net.flight = []
  quiet : net.listeners = []
  clients : ∀ client, ∃ taker, net.clients client = some taker ∧
    taker.currentUser = some (account client)

omit [DecidableEq ι] in
private theorem Opened.sound (opened : Opened account net) : net.Sound (taking account) Prod.fst := by
  refine ⟨trivial, fun origin trapped => ?_, fun origin taker running => ?_, by simp [opened.idle],
    by simp [opened.quiet]⟩
  · obtain ⟨taker, running, -⟩ := opened.clients origin.1
    cases trapped.symm.trans running
  · obtain ⟨other, present, signedIn⟩ := opened.clients origin.1
    obtain rfl := Option.some.inj (present.symm.trans running)
    exact signedIn

private theorem sound_step {event : Event cloud ι (ℕ × TakeAction)} (taken : Takes net event next)
    (sound : net.Sound (taking account) Prod.fst) : next.Sound (taking account) Prod.fst := by
  rcases takes_cases taken with ⟨signal, -, allowed, taken⟩ | ⟨client, number, action, -, -, rfl⟩
  · exact (sound.signal taking_shared (taking_lawful account) (chosen_of_succeeds allowed) taken).1
  · exact sound.launch taking_shared (keeps_perform action)

omit [DecidableEq ι] in
/-- Nobody listens to anything. -/
private theorem quiet_of_sound (sound : net.Sound (taking account) Prod.fst) : net.listeners = [] :=
  List.eq_nil_iff_forall_not_mem.mpr fun listener member => (sound.listeners listener member).1

omit [DecidableEq ι] in
/-- Code launched in a sound network runs on a client that is signed in. -/
private theorem running_of_sound (sound : net.Sound (taking account) Prod.fst) (client : ι) :
    ∃ taker, net.clients client = some taker ∧ taker.currentUser = some (account client) := by
  obtain ⟨taker, running⟩ := Option.ne_none_iff_exists'.mp
    fun trapped => sound.running (client, 0, .fetchPost "") trapped
  exact ⟨taker, running, sound.clients (client, 0, .fetchPost "") taker running⟩

variable {client : ι} {number : ℕ} {post : Post} {labels : List (Event cloud ι (ℕ × TakeAction))}

/-- A client whose code left the network sound was running. -/
private theorem running_of_launch {origin : Origin ι} {program : Code Taker}
    (sound : (net.launch Prod.fst origin program).Sound (taking account) Prod.fst) :
    ∃ taker, net.clients origin.1 = some taker := by
  refine Option.ne_none_iff_exists'.mp fun trapped => ?_
  rw [Network.launch_trapped trapped] at sound
  exact sound.running origin trapped

/-- The deletion of a document passes: the document is gone in some state of the run, and the
handler runs later. -/
private theorem deletion_passes {origin : Origin ι} {reference : DocumentReference}
    {callback : Option BackendError → Code Taker} (sound : net.Sound (taking account) Prod.fst)
    (run : Run Takes net labels final)
    (tracks : net.Tracks origin ⟨Request.delete reference, callback⟩ none)
    (gone : ∀ pending ∈ final.flight, pending.origin ≠ origin) :
    Run.Visits Takes net labels final (fun net => reference ∉ net.store.firestore) ∧
    ∃ past future error, ∃ between : Network cloud Taker (Origin ι) ι, labels = past ++ future ∧
      Idle origin between.flight ∧ (∀ listener ∈ between.listeners, listener.origin ≠ origin) ∧
      (between.launch Prod.fst origin (callback error)).Sound (taking account) Prod.fst ∧
      Run Takes net past (between.launch Prod.fst origin (callback error)) ∧
      Run Takes (between.launch Prod.fst origin (callback error)) future final := by
  obtain ⟨past, future, before, middle, index, choice, error, rfl, allowed, served, tracks, first,
    last⟩ := run.served marked tracks gone
  obtain ⟨_, applied, -⟩ := serve_firestore allowed served
  refine ⟨⟨past, future, middle, rfl, first, by simp [applied, Request.apply], last⟩, ?_⟩
  obtain ⟨later, rest, between, rfl, idle, quiet, second, third⟩ := last.answered marked tracks gone
  refine ⟨past ++ later, rest, error, between, by simp, idle, quiet, ?_, first.append second, third⟩
  exact (first.append second).invariant sound sound_step

/-- The handler of the call was called. -/
def Completed (client : ι) (number : ℕ) (net : Network cloud Taker (Origin ι) ι) : Prop :=
  ∃ taker, net.clients client = some taker ∧ number ∈ taker.completed

/-- Neither a call in flight nor one of these steps makes the like of the account. -/
def Settled (account : ι → Uid) (uid : Uid) (postId : PostId)
    (net : Network cloud Taker (Origin ι) ι) (labels : List (Event cloud ι (ℕ × TakeAction))) :
    Prop :=
  (∀ pending ∈ net.flight, ¬ Likes account uid postId pending.origin) ∧
  ∀ client call, .act client call ∈ labels → ¬ Likes account uid postId (client, call)

/-- A sound network in which no call in flight makes the like. -/
structure Calm (account : ι → Uid) (uid : Uid) (postId : PostId)
    (net : Network cloud Taker (Origin ι) ι) : Prop where
  sound : net.Sound (taking account) Prod.fst
  others : ∀ pending ∈ net.flight, ¬ Likes account uid postId pending.origin

variable {uid : Uid} {postId : PostId} {reference : DocumentReference}

/-- Code of a call adds nothing of another call. -/
private theorem others_launch {origin : Origin ι} {program : Code Taker}
    (others : ∀ pending ∈ net.flight, ¬ Likes account uid postId pending.origin)
    (other : ¬ Likes account uid postId origin) :
    ∀ pending ∈ (net.launch Prod.fst origin program).flight,
      ¬ Likes account uid postId pending.origin := by
  cases running : net.clients origin.1 with
  | none =>
    rw [Network.launch_trapped running]
    exact others
  | some taker =>
    rw [Network.launch_running running]
    intro pending member
    rcases List.mem_append.mp member with member | member
    · exact others pending member
    · obtain ⟨_, -, rfl⟩ := List.mem_map.mp member
      exact other

/-- A signal starts no call. -/
private theorem Calm.signal (calm : Calm account uid postId net) {signal : Signal cloud}
    (taken : net.signal? Prod.fst signal = some next) :
    ∀ pending ∈ next.flight, ¬ Likes account uid postId pending.origin := by
  cases signal with
  | serve index choice =>
    obtain ⟨before, after, origin, call, _, _, split, -, -, rfl⟩ := Network.serve?_cases taken
    intro pending member
    simp only [List.mem_append, List.mem_cons] at member
    rcases member with member | rfl | member
    · exact calm.others pending (by simp [split, member])
    · exact calm.others ⟨origin, call, none⟩ (by simp [split])
    · exact calm.others pending (by simp [split, member])
  | deliver index =>
    obtain ⟨before, after, origin, call, answer, split, -, rfl⟩ := Network.deliver?_cases taken
    refine others_launch (fun pending member => calm.others pending ?_)
      (calm.others ⟨origin, call, some answer⟩ (by simp [split]))
    simp only [split, List.mem_append, List.mem_cons] at member ⊢
    tauto
  | notify index choice =>
    obtain ⟨before, after, origin, subscription, cursor, _, _, split, -⟩ :=
      Network.notify?_cases taken
    simp [quiet_of_sound calm.sound] at split

private theorem Calm.step (calm : Calm account uid postId net)
    {event : Event cloud ι (ℕ × TakeAction)}
    (other : ∀ client call, event = .act client call → ¬ Likes account uid postId (client, call))
    (taken : Takes net event next) : Calm account uid postId next := by
  refine ⟨sound_step taken calm.sound, ?_⟩
  rcases takes_cases taken with ⟨signal, -, -, taken⟩ | ⟨client, number, action, rfl, -, rfl⟩
  · exact calm.signal taken
  · exact others_launch calm.others (other client _ rfl)

/-- A document of the like that is gone stays away. -/
private theorem Calm.absent (calm : Calm account uid postId net)
    {event : Event cloud ι (ℕ × TakeAction)}
    (either : reference = .postLike postId uid ∨ reference = .userLike uid postId)
    (absent : reference ∉ net.store.firestore) (taken : Takes net event next) :
    reference ∉ next.store.firestore := by
  rcases takes_cases taken with ⟨signal, -, allowed, taken⟩ | ⟨_, _, _, -, -, rfl⟩
  · cases signal with
    | serve index choice =>
      obtain ⟨before, after, origin, call, _, _, split, -, resolved, rfl⟩ :=
        Network.serve?_cases taken
      have member : ⟨origin, call, none⟩ ∈ net.flight := by simp [split]
      have allows := (calm.sound.flight _ member).1 uid postId
      obtain ⟨fresh, applied, -⟩ := serve_firestore allowed resolved
      have adds : ¬ call.request.AddsTo reference.parent := by
        rcases either with rfl | rfl
        · exact allows.1
        · exact allows.2.1
      have writes : call.request.writes? reference ≠ some true := by
        intro written
        refine calm.others _ member (allows.2.2 ?_)
        rcases either with rfl | rfl
        · exact .inl written
        · exact .inr written
      have still := @Request.mem_apply call.request fresh net.store.firestore reference adds
      rw [← applied] at still
      cases decided : call.request.writes? reference with
      | none => simpa [decided, absent] using still
      | some present =>
        cases present with
        | true => exact absurd decided writes
        | false => simpa [decided] using still
    | deliver index =>
      obtain ⟨_, _, _, _, _, -, -, rfl⟩ := Network.deliver?_cases taken
      rwa [Network.launch_store]
    | notify index choice =>
      obtain ⟨_, _, _, _, _, _, _, -, -, rfl⟩ := Network.notify?_cases taken
      rwa [Network.launch_store]
  · rwa [Network.launch_store]

/-- Where the account does not like the post again, what is gone at some state stays away. -/
private theorem absent_final (calm : Calm account uid postId net)
    (either : reference = .postLike postId uid ∨ reference = .userLike uid postId)
    (quiet : ∀ client call, .act client call ∈ labels → ¬ Likes account uid postId (client, call))
    (visits : Run.Visits Takes net labels final fun net => reference ∉ net.store.firestore) :
    reference ∉ final.store.firestore := by
  obtain ⟨past, future, middle, rfl, first, absent, last⟩ := visits
  have other (event) (member : event ∈ past ++ future) (client call)
      (same : event = .act client call) : ¬ Likes account uid postId (client, call) :=
    quiet client call (same ▸ member)
  have before : Calm account uid postId middle :=
    (first.restrict fun event member => other event (List.mem_append_left _ member)).invariant calm
      fun taken calm => calm.step taken.1 taken.2
  have after : Calm account uid postId final ∧ reference ∉ final.store.firestore := by
    refine (last.restrict fun event member => other event (List.mem_append_right _ member)).history
      (fun _ net => Calm account uid postId net ∧ reference ∉ net.store.firestore)
      ⟨before, absent⟩ ?_
    exact fun taken valid => ⟨valid.1.step taken.1 taken.2, valid.1.absent either valid.2 taken.2⟩
  exact after.2

/-- The like is taken back between the two states: each of its documents goes, the handler of the
call is called, and the documents stay away if the account does not like the post again. -/
structure TakenBack (account : ι → Uid) (client : ι) (number : ℕ) (post : Post)
    (called : Network cloud Taker (Origin ι) ι) (labels : List (Event cloud ι (ℕ × TakeAction)))
    (final : Network cloud Taker (Origin ι) ι) : Prop where
  postLike : Run.Visits Takes called labels final fun net =>
    .postLike post.postId (account client) ∉ net.store.firestore
  userLike : Run.Visits Takes called labels final fun net =>
    .userLike (account client) post.postId ∉ net.store.firestore
  completed : Run.Visits Takes called labels final (Completed client number)
  stays : Settled account (account client) post.postId called labels →
    .postLike post.postId (account client) ∉ final.store.firestore ∧
      .userLike (account client) post.postId ∉ final.store.firestore

/-- Whatever sessions did with stale copies, a like that is taken back with a copy whose counter
is positive is taken back. -/
theorem likes_undone {before after : List (Event cloud ι (ℕ × TakeAction))}
    {called : Network cloud Taker (Origin ι) ι} (opened : Opened account start)
    (history : Run Takes start before net) (counted : 0 < post.likes)
    (taken : Takes net (.act client (number, .unlikePost post)) called)
    (run : Run Takes called after final)
    (answered : ∀ pending ∈ final.flight, pending.origin ≠ (client, number, .unlikePost post)) :
    TakenBack account client number post called after final := by
  have sound := history.invariant opened.sound sound_step
  have calledSound := sound_step taken sound
  obtain ⟨taker, running, signedIn⟩ := running_of_sound sound client
  obtain ⟨signal, impossible, -⟩ | ⟨_, _, _, same, fresh, rfl⟩ := takes_cases taken
  · cases impossible
  cases same
  have tracks : (net.launch Prod.fst (client, number, .unlikePost post)
      (TakeAction.perform number (.unlikePost post))).Tracks (client, number, .unlikePost post)
      ⟨Request.delete (.postLike post.postId (account client)), _⟩ none :=
    .of_launch [_] [] running
      (PostService.run_unlikePost signedIn counted (TakeAction.completion number)) (by simp)
      (fun pending member same => absurd same (fresh pending member))
      (by simp [quiet_of_sound sound])
  obtain ⟨postLike, past, future, error, between, rfl, idle, quiet, launched, first, last⟩ :=
    deletion_passes calledSound run tracks answered
  obtain ⟨waiting, running⟩ := running_of_launch launched
  have tracks : (between.launch Prod.fst (client, number, .unlikePost post) _).Tracks
      (client, number, .unlikePost post)
      ⟨Request.delete (.userLike (account client) post.postId), TakeAction.completion number⟩ none :=
    .of_launch [] [] running (Code.run_call ..) (by simp) idle quiet
  obtain ⟨userLike, later, rest, error, between, rfl, -, -, launched, second, third⟩ :=
    deletion_passes launched last tracks answered
  obtain ⟨waiting, running⟩ := running_of_launch launched
  refine ⟨postLike, userLike.append first, ?_, fun settled => ⟨?_, ?_⟩⟩
  · refine ⟨past ++ later, rest, _, by simp, first.append second, ?_, third⟩
    rw [Network.launch_running running]
    exact ⟨_, Function.update_self .., by simp⟩
  · exact absent_final ⟨calledSound, settled.1⟩ (.inl rfl) settled.2 postLike
  · exact absent_final ⟨calledSound, settled.1⟩ (.inr rfl) settled.2 (userLike.append first)

end Run

section Examples

/-- Sessions of two accounts. -/
def uids (client : Bool) : Uid := if client then "u" else "v"

def unliked : Dictionary := PostService.data "" ⟨0, 0⟩ "" "w" ⟨"", "", "", "", "w", ⟨0, 0, 0⟩, false⟩

/-- A copy of the post. -/
def copy (likes : ℤ) (didLike : Bool) : Post :=
  { Post.ofDictionary ⟨0, 0⟩ "p" unliked with likes, didLike }

def sessions : Network cloud Taker (Origin Bool) Bool where
  store := { firestore := .singleton (.post "p") unliked }
  clients client := some { currentUser := some (uids client) }

/-- A session likes the post, with a copy that has no likes. -/
def liking (client : Bool) : List (Event cloud Bool (ℕ × TakeAction)) :=
  .act client (1, .likePost (copy 0 false)) ::
    (drain [Choice.drawing "", Choice.drawing ""] ++ drain [Choice.drawing ""])

def fetching (client : Bool) (number : ℕ) : List (Event cloud Bool (ℕ × TakeAction)) :=
  .act client (number, .fetchPost "p") :: (drain [Choice.drawing ""] ++ drain [Choice.drawing ""])

/-- The answers to what takes a like back. -/
def takingBack : List (Event cloud Bool (ℕ × TakeAction)) :=
  drain [Choice.drawing "", Choice.drawing ""] ++ drain [Choice.drawing ""]

/-- Both like the post from copies without a like, and the second fetches it again. -/
def stale : List (Event cloud Bool (ℕ × TakeAction)) :=
  fetching true 0 ++ fetching false 0 ++ liking true ++ liking false ++ fetching false 2

end Examples

/-- Two sessions have liked a post from stale copies, which leaves its counter at 1. The second takes
its like back. -/
theorem likes_undone_stale :
    ∃ net called final, Run Takes sessions stale net ∧
      Takes net (.act false (3, .unlikePost (copy 1 true))) called ∧
      Run Takes called takingBack final ∧
      TakenBack uids false 3 (copy 1 true) called takingBack final := by
  have completes : (replay? takeStep? sessions
      (stale ++ (.act false (3, .unlikePost (copy 1 true)) :: takingBack))).any
        (fun final => decide (final.flight.isEmpty = true)) = true := by
    decide +kernel
  obtain ⟨final, run, empty⟩ := exists_run_of_replay? completes
  obtain ⟨net, history, run⟩ := run.passes
  cases run with
  | @cons _ called _ _ _ taken rest =>
    refine ⟨net, called, final, history, taken, rest, ?_⟩
    exact likes_undone ⟨rfl, rfl, fun _ => ⟨_, rfl, rfl⟩⟩ history (by decide) taken rest
      (by simp [List.isEmpty_iff.mp empty])

/-- Two sessions like a post from copies without a like. The second takes its like back, and the
first is left with a like that its fresh copy, whose counter is 0, cannot take back. -/
theorem likes_not_undone :
    ¬ ∀ (account : Bool → Uid) (start net called final : Network cloud Taker (Origin Bool) Bool)
      (before after : List (Event cloud Bool (ℕ × TakeAction))) (client : Bool) (number : ℕ)
      (post : Post), Opened account start → Run Takes start before net → post.didLike = true →
      .postLike post.postId (account client) ∈ net.store.firestore →
      Takes net (.act client (number, .unlikePost post)) called → Run Takes called after final →
      (∀ pending ∈ final.flight, pending.origin ≠ (client, number, .unlikePost post)) →
      TakenBack account client number post called after final := by
  intro claim
  have stuck : (replay? takeStep? sessions
      (stale ++ .act false (3, .unlikePost (copy 1 true)) :: takingBack ++ fetching true 2)).any
      (fun net => decide (.postLike "p" "u" ∈ net.store.firestore ∧
        (takeStep? net (.act true (3, .unlikePost (copy 0 true)))).any (fun called =>
          decide (called.flight.isEmpty = true ∧ .postLike "p" "u" ∈ called.store.firestore)))) =
        true := by
    decide +kernel
  obtain ⟨net, run, present, called⟩ := exists_run_of_replay? stuck
  obtain ⟨called, taken, empty, still⟩ : ∃ called,
      Takes net (.act true (3, .unlikePost (copy 0 true))) called ∧
      called.flight.isEmpty = true ∧ .postLike "p" "u" ∈ called.store.firestore := by
    simpa [Option.any_eq_true] using called
  have taken := claim uids sessions net called called _ [] true 3 (copy 0 true)
    ⟨rfl, rfl, fun _ => ⟨_, rfl, rfl⟩⟩ run rfl present taken (.nil _)
    (by simp [List.isEmpty_iff.mp empty])
  obtain ⟨past, future, middle, split, first, absent, -⟩ := taken.postLike
  obtain ⟨rfl, rfl⟩ := List.append_eq_nil_iff.mp split.symm
  cases first
  exact absent still

end LikesUndone

end InstagramClone
