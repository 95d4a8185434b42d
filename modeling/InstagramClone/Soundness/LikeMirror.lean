import InstagramClone.API.PostService
import InstagramClone.Soundness.MirroredDocuments

/-! # The two documents of a like

With one session on an account, calls of `likePost` and `unlikePost` may overlap in any way: once
they have all been answered, the two documents exist or not as the last effective call says.
-/

namespace InstagramClone

open Async

variable {ι : Type}

/-- A call of one of the two services, with its completion handler. -/
inductive LikeCall where
  | likePost (post : Post) (completion : Option BackendError → Code Session)
  | unlikePost (post : Post) (completion : Option BackendError → Code Session)

namespace LikeCall

def perform : LikeCall → Code Session
  | likePost post completion => PostService.likePost post completion
  | unlikePost post completion => PostService.unlikePost post completion

def post : LikeCall → Post
  | likePost post _ | unlikePost post _ => post

def completion : LikeCall → Option BackendError → Code Session
  | likePost _ completion | unlikePost _ completion => completion

/-- Whether a call leaves its post liked: an unlike at a counter of zero does nothing. -/
def effect? : LikeCall → Option Bool
  | likePost .. => some true
  | unlikePost post _ => if post.likes > 0 then some false else none

end LikeCall

/-- The handlers of a call write none of the like documents. -/
def LikeCall.Quiet (account : ι → Uid) : Event cloud ι LikeCall → Prop
  | .act client call => ∀ post uid,
    Leaves (.postLike post uid) (.userLike uid post) account client call.completion
  | .signal _ => True

/-- A call by an account that is not this one, or on another post, leaves these two alone. -/
private theorem LikeCall.keeps {account : ι → Uid} {client : ι} {call : LikeCall} {store : Cloud}
    {post : PostId} {uid : Uid}
    (quiet : Leaves (.postLike post uid) (.userLike uid post) account client call.completion)
    (apart : call.post.postId = post → account client = uid → call.effect? = none) :
    call.perform.Keeps (leaving (.postLike post uid) (.userLike uid post) account) client store := by
  have counter (number : ℤ) (next : Code Session)
      (keeps : ∀ later, next.Keeps (leaving (.postLike post uid) (.userLike uid post) account)
        client later) (later : Cloud) :
      (Program.send (Request.updateData (.post call.post.postId) (.ofList [("likes", .int number)]))
        (fun _ => .done) next).Keeps (leaving (.postLike post uid) (.userLike uid post) account)
          client later :=
    ⟨⟨⟨⟨id, id⟩, rfl, rfl⟩, fun _ _ _ _ => trivial⟩, keeps later⟩
  cases call with
  | likePost liked completion =>
    have other : liked.postId = post → account client ≠ uid := fun same mine =>
      absurd (apart same mine) (by simp [LikeCall.effect?])
    refine keeps_withCurrentUser fun later => counter (liked.likes + 1) _ (fun later => ?_) later
    refine keeps_call ⟨⟨id, id⟩, ?_, ?_⟩ fun later _ => ?_
    · simpa [mirrored, Request.writes?] using other
    · simp [mirrored, Request.writes?]
    · refine keeps_call ⟨⟨id, id⟩, ?_, ?_⟩ fun later error => quiet error later
      · simp [mirrored, Request.writes?]
      · simpa [mirrored, Request.writes?, imp_not_comm] using other
  | unlikePost unliked completion =>
    refine keeps_withCurrentUser fun later => ?_
    split_ifs with positive
    · have other : unliked.postId = post → account client ≠ uid := fun same mine =>
        absurd (apart same mine) (by simp [LikeCall.effect?, positive])
      refine counter (unliked.likes - 1) _ (fun later => ?_) later
      refine keeps_call ⟨⟨id, id⟩, ?_, ?_⟩ fun later _ => ?_
      · simpa [mirrored, Request.writes?] using other
      · simp [mirrored, Request.writes?]
      · refine keeps_call ⟨⟨id, id⟩, ?_, ?_⟩ fun later error => quiet error later
        · simp [mirrored, Request.writes?]
        · simpa [mirrored, Request.writes?, imp_not_comm] using other
    · trivial

/-- An effective call writes the counter and starts a chain over the two documents. -/
private theorem LikeCall.run_perform {session : Session} {uid : Uid} {call : LikeCall} {liked : Bool}
    (signedIn : session.currentUser = some uid) (effect : call.effect? = some liked) :
    ∃ (likes : ℤ) (request next : Request) (callback : next.Response → Code Session),
      call.perform.run session = ⟨some session,
        [⟨.updateData (.post call.post.postId) (.ofList [("likes", .int likes)]),
          fun _ => .done⟩] ++ [⟨request, fun _ => Code.call next callback⟩], []⟩ ∧
      request.writes? (.postLike call.post.postId uid) = some liked ∧
      next.writes? (.userLike uid call.post.postId) = some liked ∧
      ∀ answer, ∃ error, callback answer = call.completion error := by
  cases call with
  | likePost post completion =>
    obtain rfl : true = liked := Option.some.inj effect
    refine ⟨post.likes + 1, .setData (.postLike post.postId uid) .empty,
      .setData (.userLike uid post.postId) .empty, completion,
      PostService.run_likePost signedIn post completion, if_pos rfl, if_pos rfl, ?_⟩
    exact fun answer => ⟨answer, rfl⟩
  | unlikePost post completion =>
    obtain ⟨positive, same⟩ := Option.ite_none_right_eq_some.mp effect
    obtain rfl : false = liked := Option.some.inj same
    refine ⟨post.likes - 1, .delete (.postLike post.postId uid),
      .delete (.userLike uid post.postId), completion,
      PostService.run_unlikePost signedIn positive completion, if_pos rfl, if_pos rfl, ?_⟩
    exact fun answer => ⟨answer, rfl⟩

section

variable [DecidableEq ι]

/-- One step of the sessions. -/
def likeStep? (net : Network cloud Session ι ι) (event : Event cloud ι LikeCall) :
    Option (Network cloud Session ι ι) :=
  if Orderly net event then net.event? LikeCall.perform event else none

/-- What an event makes of this session's like of the post. -/
def likeEffect? (me : ι) (post : PostId) : Event cloud ι LikeCall → Option Bool
  | .act client call => if client = me ∧ call.post.postId = post then call.effect? else none
  | .signal _ => none

/-- Whether this session's last effective call on the post was `likePost`. -/
def lastEffective? (me : ι) (post : PostId) (events : List (Event cloud ι LikeCall)) :
    Option Bool :=
  events.foldl (fun last event => (likeEffect? me post event).or last) none

/-- One step tracks the like of every post by this session, at its last effective call. -/
private theorem likeStep_tracks {account : ι → Uid} {me : ι} (alone : ∀ client,
    account client = account me → client = me) {post : PostId}
    {net next : Network cloud Session ι ι} {event : Event cloud ι LikeCall} {desired : Bool}
    (quiet : LikeCall.Quiet account event) (taken : likeStep? net event = some next)
    (tracks : (mirrored (.postLike post (account me)) (.userLike (account me) post)).Tracks id
      (SignedIn account) (· = me) desired net) :
    (mirrored (.postLike post (account me)) (.userLike (account me) post)).Tracks id
      (SignedIn account) (· = me) ((likeEffect? me post event).getD desired) next := by
  unfold likeStep? at taken
  split_ifs at taken with orderly
  cases event with
  | signal signal => exact tracks_signal tracks orderly.1 orderly.2 taken
  | act client call =>
    obtain rfl := Option.some.inj taken
    have handlers := quiet post (account me)
    cases effect : likeEffect? me post (.act client call : Event cloud ι LikeCall) with
    | none =>
      refine tracks.launch (LikeCall.keeps handlers fun same mine => ?_)
      simpa [likeEffect?, same, alone client mine] using effect
    | some liked =>
      obtain ⟨⟨rfl, rfl⟩, effective⟩ := Option.ite_none_right_eq_some.mp effect
      obtain ⟨session, running, signedIn⟩ := tracks.clients client
      obtain ⟨likes, request, following, callback, ran, writes, writesNext, completes⟩ :=
        LikeCall.run_perform signedIn effective
      refine tracks.start running ran signedIn ?_
        (chained_of_writes (by simp) writes writesNext ?_) writes rfl ?_
      · intro other member
        obtain rfl := List.mem_singleton.mp member
        exact ⟨⟨⟨id, id⟩, rfl, rfl⟩, fun _ _ _ _ => trivial⟩
      · intro store answer
        obtain ⟨error, same⟩ := completes answer
        rw [same]
        exact handlers error store
      · intro pending member foreign other written
        have own := tracks.origins pending member (Option.isSome_iff_exists.mpr ⟨other, written⟩)
        exact absurd own foreign

/-- The like documents of an account with one session: for every sequence of its calls, at any
moments and on any posts, once nothing of the session is in flight the two documents of a post
agree, and they exist as the last effective call on it says. -/
theorem likes_mirrored {store : Cloud} {account : ι → Uid} {me : ι}
    {events : List (Event cloud ι LikeCall)} {final : Network cloud Session ι ι}
    (alone : ∀ client, account client = account me → client = me)
    (agree : ∀ post, .postLike post (account me) ∈ store.firestore ↔
      .userLike (account me) post ∈ store.firestore)
    (quiet : ∀ event ∈ events, LikeCall.Quiet account event)
    (run : Run (fun net event next => likeStep? net event = some next)
      (sessions store account) events final)
    (idle : ∀ pending ∈ final.flight, pending.origin ≠ me) (post : PostId) :
    (.postLike post (account me) ∈ final.store.firestore ↔
      .userLike (account me) post ∈ final.store.firestore) ∧
    (.postLike post (account me) ∈ final.store.firestore ↔
      (lastEffective? me post events).getD (store.has (.postLike post (account me))) = true) := by
  have tracks := (run.restrict quiet).history (fun past net =>
      (mirrored (.postLike post (account me)) (.userLike (account me) post)).Tracks id
        (SignedIn account) (· = me)
        ((lastEffective? me post past).getD (store.has (.postLike post (account me)))) net)
    (tracks_sessions (· = me) (by simpa [Cloud.has] using agree post)) (by
      intro past net event next taken tracks
      have stepped := likeStep_tracks alone taken.1 taken.2 tracks
      rw [lastEffective?, List.foldl_append]
      cases effect : likeEffect? me post event with
      | none => simpa [effect, lastEffective?] using stepped
      | some liked => simpa [effect] using stepped)
  obtain ⟨first, second⟩ := tracks.settles fun pending member => by
    by_contra writes
    exact idle pending member (tracks.origins pending member (Option.isSome_iff_ne_none.mpr writes))
  have posted : final.store.has (.postLike post (account me)) = _ := first
  have owned : final.store.has (.userLike (account me) post) = _ := second
  rw [← Cloud.has_iff, ← Cloud.has_iff, posted, owned]
  exact ⟨Iff.rfl, Iff.rfl⟩

/-- Two devices of two accounts. -/
def accounts (second : Bool) : Uid := if second then "v" else "u"

/-- The copy of the post that both hold. -/
def copy : Post := ⟨"p", "", "", 3, "v", "", "", ⟨0, 0⟩, false⟩

def rated : Cloud := { firestore := (∅ : Firestore).insert (.post "p") .empty }

/-- A like and an unlike of one session, beside a like by another. -/
def overlapping : List (Event cloud Bool LikeCall) :=
  [.act false (.likePost copy fun _ => .done), .act false (.unlikePost copy fun _ => .done),
    .act true (.likePost copy fun _ => .done)] ++ drain (.replicate 6 (Choice.drawing "")) ++
    drain (.replicate 3 (Choice.drawing ""))

/-- A like and an unlike of one session overlap, beside a like by another account. -/
theorem likes_mirrored_overlapping :
    ∃ final, Run (fun net event next => likeStep? net event = some next)
        (sessions rated accounts) overlapping final ∧
      (.postLike "p" "u" ∈ final.store.firestore ↔ .userLike "u" "p" ∈ final.store.firestore) ∧
      (.postLike "p" "u" ∈ final.store.firestore ↔ false = true) := by
  have completes : (replay? likeStep? (sessions rated accounts) overlapping).any
      (fun final => decide (final.flight.isEmpty = true)) = true := by decide +kernel
  obtain ⟨final, run, empty⟩ := exists_run_of_replay? completes
  have quiet : ∀ event ∈ overlapping, LikeCall.Quiet accounts event := by
    simp only [overlapping, drain, List.replicate, List.mapIdx_cons, List.mapIdx_nil, List.map_cons,
      List.map_nil, List.cons_append, List.nil_append, List.forall_mem_cons]
    simp [LikeCall.Quiet, Leaves, LikeCall.completion]
  have alone : ∀ client, accounts client = accounts false → client = false := by decide
  have agree : ∀ post, .postLike post (accounts false) ∈ rated.firestore ↔
      .userLike (accounts false) post ∈ rated.firestore := by
    simp [rated, Finmap.notMem_empty]
  have idle : ∀ pending ∈ final.flight, pending.origin ≠ false := by
    simp [List.isEmpty_iff.mp empty]
  have last : (lastEffective? false "p" overlapping).getD (rated.has (.postLike "p" "u")) = false := by
    decide +kernel
  have mirrored := likes_mirrored alone agree quiet run idle "p"
  rw [show accounts false = "u" from rfl, last] at mirrored
  exact ⟨final, run, mirrored⟩

end

end InstagramClone
