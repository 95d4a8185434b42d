import InstagramClone.API.UserService
import InstagramClone.Soundness.MirroredDocuments

/-! # The two documents of a follow

Each device of an account may call `follow` and `unFollow` at any time. The two documents of an
edge agree once all is answered, as long as no device starts a call on the edge while another
device of the same account has an opposite one in flight: two such calls can cross.
-/

namespace InstagramClone

open Async

variable {ι : Type}

/-- A call of one of the two services, with its completion handler. -/
inductive FollowCall where
  | follow (uid : Uid) (completion : Option BackendError → Code Session)
  | unFollow (uid : Uid) (completion : Option BackendError → Code Session)

namespace FollowCall

def perform : FollowCall → Code Session
  | follow uid completion => UserService.follow uid completion
  | unFollow uid completion => UserService.unFollow uid completion

def uid : FollowCall → Uid
  | follow uid _ | unFollow uid _ => uid

def completion : FollowCall → Option BackendError → Code Session
  | follow _ completion | unFollow _ completion => completion

/-- Whether the call leaves the account followed. -/
def follows : FollowCall → Bool
  | follow .. => true
  | unFollow .. => false

/-- The handlers of a call write no follow document. -/
def Quiet (account : ι → Uid) : Event cloud ι FollowCall → Prop
  | .act client call => ∀ follower followed,
    Leaves (.following follower followed) (.follower followed follower) account client
      call.completion
  | .signal _ => True

/-- A call issues one request, which starts a chain over the two documents of its edge. -/
private theorem run_perform {session : Session} {account : Uid} (call : FollowCall)
    (signedIn : session.currentUser = some account) :
    ∃ (request next : Request) (callback : next.Response → Code Session),
      call.perform.run session =
        ⟨some session, [] ++ [⟨request, fun _ => Code.call next callback⟩], []⟩ ∧
      request.writes? (.following account call.uid) = some call.follows ∧
      next.writes? (.follower call.uid account) = some call.follows ∧
      ∀ answer, ∃ error, callback answer = call.completion error := by
  cases call with
  | follow uid completion =>
    refine ⟨.setData (.following account uid) .empty, .setData (.follower uid account) .empty,
      completion, UserService.run_follow signedIn uid completion, if_pos rfl, if_pos rfl, ?_⟩
    exact fun answer => ⟨answer, rfl⟩
  | unFollow uid completion =>
    refine ⟨.delete (.following account uid), .delete (.follower uid account), completion,
      UserService.run_unFollow signedIn uid completion, if_pos rfl, if_pos rfl, ?_⟩
    exact fun answer => ⟨answer, rfl⟩

/-- A call on another edge leaves these two documents alone. -/
private theorem keeps {account : ι → Uid} {client : ι} {call : FollowCall} {store : Cloud}
    {follower followed : Uid}
    (quiet : Leaves (.following follower followed) (.follower followed follower) account client
      call.completion)
    (apart : account client = follower → call.uid ≠ followed) :
    call.perform.Keeps (leaving (.following follower followed) (.follower followed follower)
      account) client store := by
  cases call with
  | follow uid completion =>
    have apart : account client = follower → uid ≠ followed := apart
    refine keeps_withCurrentUser fun later => keeps_call ⟨⟨id, id⟩, ?_, ?_⟩ fun later _ => ?_
    · simpa [mirrored, Request.writes?] using apart
    · simp [mirrored, Request.writes?]
    · refine keeps_call ⟨⟨id, id⟩, ?_, ?_⟩ fun later error => quiet error later
      · simp [mirrored, Request.writes?]
      · simpa [mirrored, Request.writes?, imp_not_comm] using apart
  | unFollow uid completion =>
    have apart : account client = follower → uid ≠ followed := apart
    refine keeps_withCurrentUser fun later => keeps_call ⟨⟨id, id⟩, ?_, ?_⟩ fun later _ => ?_
    · simpa [mirrored, Request.writes?] using apart
    · simp [mirrored, Request.writes?]
    · refine keeps_call ⟨⟨id, id⟩, ?_, ?_⟩ fun later error => quiet error later
      · simp [mirrored, Request.writes?]
      · simpa [mirrored, Request.writes?, imp_not_comm] using apart

end FollowCall

/-- No other device of the same account has an opposite call on the edge in flight. -/
def Uncontested (account : ι → Uid) (net : Network cloud Session ι ι) :
    Event cloud ι FollowCall → Prop
  | .act client call => ∀ pending ∈ net.flight, pending.origin ≠ client →
    account pending.origin = account client →
    ∀ follows ∈ (mirrored (.following (account client) call.uid)
      (.follower call.uid (account client))).outstanding? pending, follows = call.follows
  | .signal _ => True

section

variable [DecidableEq ι]

instance (account : ι → Uid) (net : Network cloud Session ι ι) (event : Event cloud ι FollowCall) :
    Decidable (Uncontested account net event) :=
  match event with
  | .act client call => inferInstanceAs (Decidable (∀ pending ∈ net.flight,
      pending.origin ≠ client → account pending.origin = account client →
      ∀ follows ∈ (mirrored (.following (account client) call.uid)
        (.follower call.uid (account client))).outstanding? pending, follows = call.follows))
  | .signal _ => inferInstanceAs (Decidable True)

/-- One step of the sessions. -/
def followStep? (net : Network cloud Session ι ι) (event : Event cloud ι FollowCall) :
    Option (Network cloud Session ι ι) :=
  if Orderly net event then net.event? FollowCall.perform event else none

/-- One uncontested step tracks every edge. -/
private theorem followStep_tracks {account : ι → Uid} {follower followed : Uid}
    {net next : Network cloud Session ι ι} {event : Event cloud ι FollowCall}
    (quiet : FollowCall.Quiet account event) (uncontested : Uncontested account net event)
    (taken : followStep? net event = some next)
    (tracks : ∃ desired, (mirrored (.following follower followed)
      (.follower followed follower)).Tracks id (SignedIn account) (account · = follower) desired
        net) :
    ∃ desired, (mirrored (.following follower followed) (.follower followed follower)).Tracks id
      (SignedIn account) (account · = follower) desired next := by
  obtain ⟨desired, tracks⟩ := tracks
  unfold followStep? at taken
  split_ifs at taken with orderly
  cases event with
  | signal signal => exact ⟨desired, tracks_signal tracks orderly.1 orderly.2 taken⟩
  | act client call =>
    obtain rfl := Option.some.inj taken
    have handlers := quiet follower followed
    by_cases mine : account client = follower ∧ call.uid = followed
    · obtain ⟨rfl, rfl⟩ := mine
      obtain ⟨session, running, signedIn⟩ := tracks.clients client
      obtain ⟨request, following, callback, ran, writes, writesNext, completes⟩ :=
        FollowCall.run_perform call signedIn
      refine ⟨call.follows, tracks.start running ran signedIn (by simp)
        (chained_of_writes (by simp) writes writesNext ?_) writes rfl ?_⟩
      · intro store answer
        obtain ⟨error, same⟩ := completes answer
        rw [same]
        exact handlers error store
      · intro pending member foreign other written
        have own := tracks.origins pending member (Option.isSome_iff_exists.mpr ⟨other, written⟩)
        exact uncontested pending member foreign own other written
    · refine ⟨desired, tracks.launch (FollowCall.keeps handlers fun own same => ?_)⟩
      exact mine ⟨own, same⟩

/-- The edges of a store without contested calls: whenever nothing is in flight, the documents of
every edge agree, and a follower count is the number of accounts whose following list contains
the account. -/
theorem edges_mirrored {account : ι → Uid} {events : List (Event cloud ι FollowCall)}
    {final : Network cloud Session ι ι}
    (quiet : ∀ event ∈ events, FollowCall.Quiet account event)
    (run : Run (fun net event next =>
      Uncontested account net event ∧ followStep? net event = some next)
      (sessions {} account) events final)
    (idle : final.flight = []) :
    (∀ follower followed, .following follower followed ∈ final.store.firestore ↔
      .follower followed follower ∈ final.store.firestore) ∧
    ∀ followed choice next answer, choice.succeeds = true →
      cloud.serve choice final.store (.getDocuments { collection := .userFollowers followed }) =
        some (next, answer) →
      UserService.count answer =
        {follower | .following follower followed ∈ final.store.firestore}.ncard := by
  have agree (follower followed : Uid) : .following follower followed ∈ final.store.firestore ↔
      .follower followed follower ∈ final.store.firestore := by
    have tracked : ∃ desired, (mirrored (.following follower followed)
        (.follower followed follower)).Tracks id (SignedIn account) (account · = follower) desired
          final :=
      (run.restrict quiet).invariant ⟨_, tracks_sessions _ rfl⟩ fun taken tracks =>
        followStep_tracks taken.1 taken.2.1 taken.2.2 tracks
    obtain ⟨desired, tracks⟩ := tracked
    obtain ⟨first, second⟩ := tracks.settles (by simp [idle])
    have one : final.store.has (.following follower followed) = desired := first
    have two : final.store.has (.follower followed follower) = desired := second
    rw [← Cloud.has_iff, ← Cloud.has_iff, one, two]
  refine ⟨agree, ?_⟩
  intro followed choice next answer succeeds served
  obtain ⟨order, fresh, transfer, resolved⟩ := serve_succeeds succeeds served
  obtain ⟨documents, answered, same⟩ := Option.map_eq_some_iff.mp resolved
  obtain ⟨rfl, rfl⟩ := Prod.mk.inj same
  rw [UserService.count, Query.length_answer? answered]
  simp only [agree]
  rfl

/-- Both devices are of one account. -/
def shared (_ : Bool) : Uid := "a"

/-- The devices follow together, then one of them unfollows. -/
def together : List (Event cloud Bool FollowCall) :=
  [.act false (.follow "b" fun _ => .done), .act true (.follow "b" fun _ => .done)] ++
    drain [Choice.drawing "", Choice.drawing ""] ++ drain [Choice.drawing "", Choice.drawing ""] ++
    [.act true (.unFollow "b" fun _ => .done)] ++ drain [Choice.drawing ""] ++
    drain [Choice.drawing ""]

/-- Two devices of one account follow together, then one of them unfollows. -/
theorem edges_mirrored_devices :
    ∃ final, Run (fun net event next =>
        Uncontested shared net event ∧ followStep? net event = some next)
        (sessions {} shared) together final ∧
      ((∀ follower followed, .following follower followed ∈ final.store.firestore ↔
        .follower followed follower ∈ final.store.firestore) ∧
      ∀ followed choice next answer, choice.succeeds = true →
        cloud.serve choice final.store (.getDocuments { collection := .userFollowers followed }) =
          some (next, answer) →
        UserService.count answer =
          {follower | .following follower followed ∈ final.store.firestore}.ncard) := by
  have completes : (replay?
      (fun net event => if Uncontested shared net event then followStep? net event else none)
      (sessions {} shared) together).any (fun final => decide (final.flight.isEmpty = true)) =
        true := by
    decide +kernel
  obtain ⟨final, run, empty⟩ := exists_legal_run_of_replay? completes
  have quiet : ∀ event ∈ together, FollowCall.Quiet shared event := by
    simp only [together, drain, List.mapIdx_cons, List.mapIdx_nil, List.map_cons, List.map_nil,
      List.cons_append, List.nil_append, List.forall_mem_cons]
    simp [FollowCall.Quiet, Leaves, FollowCall.completion]
  exact ⟨final, run, edges_mirrored quiet run (List.isEmpty_iff.mp empty)⟩

/-- Contested calls cross: one device unfollows while the follow of another waits for its first
acknowledgement, and the follower's document outlives the edge. -/
theorem edges_not_mirrored :
    ¬ ∀ (account : Bool → Uid) (events : List (Event cloud Bool FollowCall))
      (final : Network cloud Session Bool Bool),
      (∀ event ∈ events, FollowCall.Quiet account event) →
      Run (fun net event next => followStep? net event = some next)
        (sessions {} account) events final →
      final.flight = [] → ∀ follower followed,
        .following follower followed ∈ final.store.firestore ↔
          .follower followed follower ∈ final.store.firestore := by
  intro claim
  let ok : Choice := .answer [] ""
  let events : List (Event cloud Bool FollowCall) :=
    [.act false (.follow "b" fun _ => .done), .signal (.serve 0 ok),
      .act true (.unFollow "b" fun _ => .done), .signal (.serve 1 ok), .signal (.deliver 1),
      .signal (.serve 1 ok), .signal (.deliver 1), .signal (.deliver 0), .signal (.serve 0 ok),
      .signal (.deliver 0)]
  have crosses : (replay? followStep? (sessions {} fun _ : Bool => "a") events).any (fun final =>
      decide (final.flight.isEmpty = true ∧ .following "a" "b" ∉ final.store.firestore ∧
        .follower "b" "a" ∈ final.store.firestore)) = true := by
    decide +kernel
  obtain ⟨final, run, empty, absent, present⟩ := exists_run_of_replay? crosses
  have quiet : ∀ event ∈ events, FollowCall.Quiet (fun _ : Bool => "a") event := by
    simp [events, FollowCall.Quiet, Leaves, FollowCall.completion]
  exact absent ((claim _ events final quiet run (List.isEmpty_iff.mp empty) "a" "b").mpr present)

end

end InstagramClone
