import InstagramClone.API.UserService
import InstagramClone.Soundness.LikeCounter

/-! # Two-step writes under failure

The handlers of `follow`, `unFollow`, `likePost` and `unlikePost` ignore the error they are given
and go on. Each write therefore succeeds or fails by itself, and the store ends with the writes
that succeeded. That is all or nothing only when every write took effect or none made a change.
-/

namespace InstagramClone.Atomicity

open Async

/-- The writes of a call: of the counter, if any, and of the two documents of the pair. -/
structure PairWrites where
  counter : Option Request
  first : Request
  next : Request

namespace PairWrites

def requests (writes : PairWrites) : List Request :=
  writes.counter.toList ++ [writes.first, writes.next]

/-- Each write names one document, and no two the same. -/
structure Separate (writes : PairWrites) : Prop where
  named : ∀ request ∈ writes.requests, ∃ target, request.target? = some target
  nodup : (writes.requests.map Request.target?).Nodup

private theorem Separate.same {writes : PairWrites} (separate : writes.Separate) {one other : Request}
    (first : one ∈ writes.requests) (second : other ∈ writes.requests)
    (targets : one.target? = other.target?) : one = other :=
  List.inj_on_of_nodup_map separate.nodup first second targets

private theorem Separate.nextApart {writes : PairWrites} (separate : writes.Separate) :
    writes.next.target? ≠ writes.first.target? := by
  have nodup := separate.nodup
  rw [requests, List.map_append, List.nodup_append] at nodup
  simpa [eq_comm] using nodup.2.1

private theorem Separate.counterApart {writes : PairWrites} (separate : writes.Separate)
    {counter : Request} (present : counter ∈ writes.counter) :
    counter.target? ≠ writes.first.target? := by
  have nodup := separate.nodup
  rw [requests, List.map_append, List.nodup_append] at nodup
  exact nodup.2.2 _ (List.mem_map_of_mem (Option.mem_toList.mpr present)) _ (by simp)

/-- What a call issues: the counter write, and the first write of the chain. -/
def calls (writes : PairWrites) (callback : writes.next.Response → Code Session) :
    List (Call firebase Session) :=
  writes.counter.toList.map (fun request => ⟨request, fun _ => .done⟩) ++
    [⟨writes.first, fun _ => Code.call writes.next callback⟩]

end PairWrites

/-- The store ends at what the writes that succeeded make of it, document by document. -/
structure Decided (writes : PairWrites) (outcome : DocumentReference → Bool)
    (before after : Firestore) (reference : DocumentReference) : Prop where
  written : ∀ request ∈ writes.requests, request.target? = some reference →
    after.lookup reference =
      if outcome reference then (request.apply "" before).lookup reference
      else before.lookup reference
  kept : (∀ request ∈ writes.requests, request.target? ≠ some reference) →
    after.lookup reference = before.lookup reference

/-- A handler that issues nothing. -/
def Silent {α : Type} (callback : α → Code Session) : Prop :=
  ∀ answer session, ∃ after, (callback answer).run session = ⟨some after, [], []⟩

/-- Each write of a document is served with the outcome given for it. -/
def Follows (outcome : DocumentReference → Bool) (net : Network cloud Session Unit Unit) :
    Signal cloud → Prop
  | .serve index choice => ∀ pending ∈ net.flight[index]?.toList,
    ∀ target ∈ pending.call.request.target?, choice.succeeds = outcome target
  | _ => True

instance (outcome : DocumentReference → Bool) (net : Network cloud Session Unit Unit)
    (signal : Signal cloud) : Decidable (Follows outcome net signal) :=
  match signal with
  | .serve index choice => inferInstanceAs (Decidable (∀ pending ∈ net.flight[index]?.toList,
      ∀ target ∈ pending.call.request.target?, choice.succeeds = outcome target))
  | .deliver _ | .notify .. => inferInstanceAs (Decidable True)

/-- One signal, with the outcomes as given; the requests may be served and answered in any order. -/
def outcomeStep? (outcome : DocumentReference → Bool) (net : Network cloud Session Unit Unit)
    (signal : Signal cloud) : Option (Network cloud Session Unit Unit) :=
  if Follows outcome net signal then net.signal? id signal else none

section Run

variable (writes : PairWrites) (callback : writes.next.Response → Code Session)

/-- How many writes of the document a pending request still brings about. -/
def outstanding (reference : DocumentReference) (pending : Pending firebase Session Unit) : ℕ :=
  (if pending.answer = none ∧ pending.call.request.target? = some reference then 1 else 0) +
    if pending.call.request.target? = writes.first.target? ∧
      writes.next.target? = some reference then 1 else 0

/-- A pending request of the call. -/
def Belongs (call : Call firebase Session) : Prop :=
  call = ⟨writes.first, fun _ => Code.call writes.next callback⟩ ∨
    (call.request ∈ writes.requests ∧ call.request ≠ writes.first ∧ Silent call.callback)

/-- The requests of one call on their way: what is served has been decided, and what is not will
be served once. -/
structure Underway (outcome : DocumentReference → Bool) (before : Firestore)
    (net : Network cloud Session Unit Unit) : Prop where
  running : ∀ client, ∃ session, net.clients client = some session
  flight : ∀ pending ∈ net.flight, Belongs writes callback pending.call
  listeners : net.listeners = []
  documents : ∀ reference,
    ((net.flight.map (outstanding writes reference)).sum = 1 ∧
      net.store.firestore.lookup reference = before.lookup reference) ∨
    ((net.flight.map (outstanding writes reference)).sum = 0 ∧
      Decided writes outcome before net.store.firestore reference)

end Run

variable {writes : PairWrites} {callback : writes.next.Response → Code Session}
  {outcome : DocumentReference → Bool} {before : Firestore}
  {net next : Network cloud Session Unit Unit}

private theorem Decided.congr {first second : Firestore} {reference : DocumentReference}
    (decided : Decided writes outcome before first reference)
    (same : second.lookup reference = first.lookup reference) :
    Decided writes outcome before second reference :=
  ⟨fun request member names => by rw [same, decided.written request member names],
    fun none => by rw [same, decided.kept none]⟩

private theorem Belongs.mem {call : Call firebase Session} (belongs : Belongs writes callback call) :
    call.request ∈ writes.requests := by
  rcases belongs with rfl | ⟨member, -⟩
  · simp [PairWrites.requests]
  · exact member

/-- Serving a request decides its document, by the outcome given, and no other. -/
private theorem Underway.serve (underway : Underway writes callback outcome before net)
    (separate : writes.Separate) {index : ℕ} {choice : Choice}
    (follows : Follows outcome net (.serve index choice))
    (served : net.serve? index choice = some next) :
    Underway writes callback outcome before next := by
  obtain ⟨earlier, later, origin, call, store, answer, split, rfl, resolved, rfl⟩ :=
    Network.serve?_cases served
  have belongs := underway.flight ⟨origin, call, none⟩ (by simp [split])
  obtain ⟨target, names⟩ := separate.named _ belongs.mem
  have chosen : choice.succeeds = outcome target :=
    follows ⟨origin, call, none⟩ (by simp [split]) target names
  refine ⟨underway.running, fun pending member => ?_, underway.listeners, fun reference => ?_⟩
  · simp only [List.mem_append, List.mem_cons] at member
    rcases member with member | rfl | member
    · exact underway.flight pending (by simp [split, member])
    · exact belongs
    · exact underway.flight pending (by simp [split, member])
  have documents := underway.documents reference
  simp only [split, List.map_append, List.map_cons, List.sum_append, List.sum_cons] at documents ⊢
  by_cases same : target = reference
  · subst same
    have waiting : outstanding writes target ⟨origin, call, none⟩ =
        1 + outstanding writes target ⟨origin, call, some answer⟩ := by
      simp [outstanding, names]
    rw [waiting] at documents
    rcases documents with ⟨once, present⟩ | ⟨never, -⟩
    · refine .inr ⟨by omega, fun request member also => ?_, fun none => ?_⟩
      · obtain rfl := separate.same belongs.mem member (names.trans also.symm)
        cases choice with
        | fail error =>
          obtain ⟨rfl, -⟩ := Prod.mk.inj (Option.some.inj resolved)
          rw [← chosen]
          exact present
        | answer order fresh =>
          rw [← chosen, (Request.resolve_firestore resolved).1]
          exact Request.lookup_apply_target names present fresh ""
        | snapshot => cases resolved
      · exact absurd names (none _ belongs.mem)
    · omega
  · have other : outstanding writes reference ⟨origin, call, none⟩ =
        outstanding writes reference ⟨origin, call, some answer⟩ := by
      simp [outstanding, names, same]
    have untouched : store.firestore.lookup reference = net.store.firestore.lookup reference := by
      cases choice with
      | fail error =>
        obtain ⟨rfl, -⟩ := Prod.mk.inj (Option.some.inj resolved)
        rfl
      | answer order fresh =>
        rw [(Request.resolve_firestore resolved).1, Request.lookup_apply]
        rwa [Request.touches_iff_of_target names]
      | snapshot => cases resolved
    rw [other] at documents
    rcases documents with ⟨once, present⟩ | ⟨never, decided⟩
    · exact .inl ⟨once, untouched.trans present⟩
    · exact .inr ⟨never, decided.congr untouched⟩

/-- Delivering the first write's answer issues the second write; nothing else is ever issued. -/
private theorem Underway.deliver (underway : Underway writes callback outcome before net)
    (separate : writes.Separate) (silent : Silent callback) {index : ℕ}
    (delivered : net.deliver? id index = some next) :
    Underway writes callback outcome before next := by
  obtain ⟨earlier, later, origin, call, answer, split, -, rfl⟩ := Network.deliver?_cases delivered
  have belongs := underway.flight ⟨origin, call, some answer⟩ (by simp [split])
  obtain ⟨session, running⟩ := underway.running (id origin)
  have still : Network.clients { net with flight := earlier ++ later } (id origin) =
      some session := running
  have kept : ∀ pending ∈ earlier ++ later, Belongs writes callback pending.call := by
    intro pending member
    refine underway.flight pending ?_
    simp only [split, List.mem_append, List.mem_cons] at member ⊢
    tauto
  have documents := underway.documents
  simp only [split, List.map_append, List.map_cons, List.sum_append, List.sum_cons] at documents
  rcases belongs with rfl | ⟨member, notFirst, quiet⟩
  · have ran : (Code.call writes.next callback).run session =
        ⟨some session, [⟨writes.next, callback⟩], []⟩ := rfl
    rw [Network.launch_running still, ran]
    refine ⟨fun client => ⟨session, ?_⟩, fun pending member => ?_, ?_, fun reference => ?_⟩
    · rw [Subsingleton.elim client (id origin)]
      dsimp only
      exact Function.update_self ..
    · rcases List.mem_append.mp member with member | member
      · exact kept pending member
      · obtain ⟨call, issued, rfl⟩ := List.mem_map.mp member
        obtain rfl := List.mem_singleton.mp issued
        exact .inr ⟨by simp [PairWrites.requests], ne_of_apply_ne _ separate.nextApart, silent⟩
    · simpa using underway.listeners
    · have moved : outstanding writes reference ⟨origin, ⟨writes.next, callback⟩, none⟩ =
          outstanding writes reference
            ⟨origin, ⟨writes.first, fun _ => Code.call writes.next callback⟩, some answer⟩ := by
        simp [outstanding, separate.nextApart]
      have documents := documents reference
      simp only [List.map_append, List.map_cons, List.map_nil, List.sum_append, List.sum_cons,
        List.sum_nil]
      rw [moved]
      refine documents.imp (fun once => ⟨?_, once.2⟩) fun never => ⟨?_, never.2⟩
      · omega
      · omega
  · obtain ⟨after, ran⟩ := quiet answer session
    rw [Network.launch_running still, ran]
    refine ⟨fun client => ⟨after, ?_⟩, fun pending member => kept pending ?_, ?_,
      fun reference => ?_⟩
    · rw [Subsingleton.elim client (id origin)]
      dsimp only
      exact Function.update_self ..
    · simpa using member
    · simpa using underway.listeners
    · have apart : call.request.target? ≠ writes.first.target? := fun same =>
        notFirst (separate.same member (by simp [PairWrites.requests]) same)
      have nothing : outstanding writes reference ⟨origin, call, some answer⟩ = 0 := by
        simp [outstanding, apart]
      have documents := documents reference
      simp only [List.map_append, List.map_nil, List.append_nil, List.sum_append]
      rw [nothing, zero_add] at documents
      exact documents

/-- A client that has just issued the writes of one call. -/
def issued (store : Cloud) (session : Session) (writes : PairWrites)
    (callback : writes.next.Response → Code Session) : Network cloud Session Unit Unit where
  store
  clients _ := some session
  flight := (writes.calls callback).map fun call => ⟨(), call, none⟩

/-- At the start each write of the call is still to be served. -/
private theorem underway_issued (separate : writes.Separate) (store : Cloud) (session : Session) :
    Underway writes callback outcome store.firestore (issued store session writes callback) := by
  refine ⟨fun _ => ⟨session, rfl⟩, fun pending member => ?_, rfl, fun reference => ?_⟩
  · obtain ⟨call, issued, rfl⟩ := List.mem_map.mp member
    rcases List.mem_append.mp issued with issued | issued
    · obtain ⟨request, counter, rfl⟩ := List.mem_map.mp issued
      refine .inr ⟨List.mem_append_left _ counter, ?_, fun _ session => ⟨session, rfl⟩⟩
      exact ne_of_apply_ne _ (separate.counterApart (Option.mem_toList.mp counter))
    · obtain rfl := List.mem_singleton.mp issued
      exact .inl rfl
  -- every write that names the document is outstanding once, and at most one does
  have total : ((issued store session writes callback).flight.map
      (outstanding writes reference)).sum =
        (writes.requests.map Request.target?).count (some reference) := by
    cases found : writes.counter with
    | none =>
      simp [issued, PairWrites.calls, PairWrites.requests, found, outstanding, List.count_cons]
      omega
    | some counter =>
      have apart := separate.counterApart found
      simp [issued, PairWrites.calls, PairWrites.requests, found, outstanding, List.count_cons,
        apart]
      omega
  by_cases named : some reference ∈ writes.requests.map Request.target?
  · exact .inl ⟨total.trans (List.count_eq_one_of_mem separate.nodup named), rfl⟩
  · refine .inr ⟨total.trans (List.count_eq_zero.mpr named), fun request member names => ?_,
      fun _ => rfl⟩
    exact absurd (List.mem_map.mpr ⟨request, member, names⟩) named

/-- Once all answers are in, every document is as the outcomes decide. -/
private theorem decided_of_idle (separate : writes.Separate) (silent : Silent callback)
    {store : Cloud} {session : Session} {signals : List (Signal cloud)}
    {final : Network cloud Session Unit Unit}
    (run : Run (fun net signal next => outcomeStep? outcome net signal = some next)
      (issued store session writes callback) signals final) (idle : final.flight = [])
    (reference : DocumentReference) :
    Decided writes outcome store.firestore final.store.firestore reference := by
  have underway : Underway writes callback outcome store.firestore final :=
    run.invariant (underway_issued separate store session) fun {net signal next} taken underway => by
      unfold outcomeStep? at taken
      split_ifs at taken with follows
      cases signal with
      | serve index choice => exact underway.serve separate follows taken
      | deliver index => exact underway.deliver separate silent taken
      | notify index choice =>
        obtain ⟨before, after, _, _, _, _, _, split, -⟩ := Network.notify?_cases taken
        simp [underway.listeners] at split
  rcases underway.documents reference with ⟨once, -⟩ | ⟨-, decided⟩
  · simp [idle] at once
  · exact decided

/-- A call of one of the four services. -/
inductive PairCall where
  | follow (uid : Uid)
  | unFollow (uid : Uid)
  | likePost (post : Post)
  | unlikePost (post : Post)

namespace PairCall

def perform (completion : Option BackendError → Code Session) : PairCall → Code Session
  | follow uid => UserService.follow uid completion
  | unFollow uid => UserService.unFollow uid completion
  | likePost post => PostService.likePost post completion
  | unlikePost post => PostService.unlikePost post completion

/-- The two documents of the pair. -/
def pair (uid : Uid) : PairCall → DocumentReference × DocumentReference
  | follow other | unFollow other => (.following uid other, .follower other uid)
  | likePost post | unlikePost post => (.postLike post.postId uid, .userLike uid post.postId)

/-- What the call makes of both documents. -/
def value : PairCall → Option Dictionary
  | follow _ | likePost _ => some .empty
  | unFollow _ | unlikePost _ => none

/-- The post whose counter the call moves, and by how much. -/
def counter? : PairCall → Option (Post × ℤ)
  | follow _ | unFollow _ => none
  | likePost post => some (post, 1)
  | unlikePost post => some (post, -1)

def writes? (uid : Uid) : PairCall → Option PairWrites
  | follow other =>
    some ⟨none, .setData (.following uid other) .empty, .setData (.follower other uid) .empty⟩
  | unFollow other => some ⟨none, .delete (.following uid other), .delete (.follower other uid)⟩
  | likePost post => some
    ⟨some (.updateData (.post post.postId) (.ofList [("likes", .int (post.likes + 1))])),
      .setData (.postLike post.postId uid) .empty, .setData (.userLike uid post.postId) .empty⟩
  | unlikePost post =>
    if post.likes > 0 then some
      ⟨some (.updateData (.post post.postId) (.ofList [("likes", .int (post.likes - 1))])),
        .delete (.postLike post.postId uid), .delete (.userLike uid post.postId)⟩
    else none

/-- The call took effect: both documents are as it makes them, and the counter has moved. -/
def Applied (uid : Uid) (call : PairCall) (before after : Firestore) : Prop :=
  after.lookup (call.pair uid).1 = call.value ∧ after.lookup (call.pair uid).2 = call.value ∧
    ∀ counter ∈ call.counter?, ∃ likes, likes? before counter.1.postId = some likes ∧
      likes? after counter.1.postId = some (likes + counter.2)

end PairCall

/-- The write would change nothing. -/
def Idle (before : Firestore) (request : Request) : Prop :=
  ∀ target ∈ request.target?, (request.apply "" before).lookup target = before.lookup target

/-- The write succeeds with these outcomes. -/
def Succeeds (outcome : DocumentReference → Bool) (request : Request) : Prop :=
  ∀ target ∈ request.target?, outcome target = true

/-- Either each write of the pair succeeds or has nothing to change, and the counter write succeeds
on the counter the session cached; or each write of the call fails or has nothing to change. An
unlike at a cached counter of zero makes no write. -/
def AllOrNothing (uid : Uid) (call : PairCall) (outcome : DocumentReference → Bool)
    (before : Firestore) : Prop :=
  ∀ writes ∈ call.writes? uid,
    ((∀ request ∈ [writes.first, writes.next], Succeeds outcome request ∨ Idle before request) ∧
      ∀ counter ∈ call.counter?, outcome (.post counter.1.postId) = true ∧
        likes? before counter.1.postId = some counter.1.likes) ∨
    ∀ request ∈ writes.requests, ¬ Succeeds outcome request ∨ Idle before request

/-- One session about to make the call. -/
def client (store : Cloud) (session : Session) : Network cloud Session Unit Unit where
  store
  clients _ := some session

/-- The store is as before exactly if no write that succeeded made a change. -/
private theorem unchanged_iff (separate : writes.Separate) {after : Firestore}
    (decided : ∀ reference, Decided writes outcome before after reference) :
    after = before ↔ ∀ request ∈ writes.requests, ¬ Succeeds outcome request ∨ Idle before request := by
  constructor
  · rintro rfl request member
    obtain ⟨target, names⟩ := separate.named request member
    by_cases succeeds : outcome target = true
    · refine .inr fun other also => ?_
      obtain rfl : target = other := Option.some.inj (names.symm.trans also)
      have written := (decided target).written request member names
      rw [if_pos succeeds] at written
      exact written.symm
    · exact .inl fun all => succeeds (all target names)
  · intro each
    refine Finmap.ext_lookup fun reference => ?_
    by_cases named : ∃ request ∈ writes.requests, request.target? = some reference
    · obtain ⟨request, member, names⟩ := named
      rw [(decided reference).written request member names]
      split_ifs with succeeds
      · rcases each request member with fails | idle
        · refine absurd (fun target also => ?_) fails
          rwa [← Option.some.inj (names.symm.trans also)]
        · exact idle reference names
      · rfl
    · push Not at named
      exact (decided reference).kept named

/-- A document is as its write makes it exactly if the write succeeds or changes nothing. -/
private theorem written_iff {after : Firestore} {request : Request} {reference : DocumentReference}
    {value : Option Dictionary} (decided : Decided writes outcome before after reference)
    (member : request ∈ writes.requests) (names : request.target? = some reference)
    (makes : (request.apply "" before).lookup reference = value) :
    after.lookup reference = value ↔ Succeeds outcome request ∨ Idle before request := by
  have succeeds : Succeeds outcome request ↔ outcome reference = true := by
    simp [Succeeds, names]
  have idle : Idle before request ↔ value = before.lookup reference := by
    simp [Idle, names, makes]
  rw [decided.written request member names, makes, succeeds, idle]
  split_ifs with done
  · simp [done]
  · simp [done, eq_comm]

/-- The counter has moved exactly if its write succeeds on the counter that the session cached. -/
private theorem moved_iff {after : Firestore} {post : Post} {amount : ℤ} (nonzero : amount ≠ 0)
    (decided : Decided writes outcome before after (.post post.postId))
    (member : .updateData (.post post.postId) (.ofList [("likes", .int (post.likes + amount))]) ∈
      writes.requests) :
    (∃ likes, likes? before post.postId = some likes ∧
      likes? after post.postId = some (likes + amount)) ↔
    outcome (.post post.postId) = true ∧ likes? before post.postId = some post.likes := by
  have written := decided.written _ member rfl
  by_cases succeeds : outcome (.post post.postId) = true
  · rw [if_pos succeeds] at written
    have moved {likes : ℤ} (present : likes? before post.postId = some likes) :
        likes? after post.postId = some (post.likes + amount) := by
      rw [likes?, written]
      exact likes?_updateData present (post.likes + amount)
    constructor
    · rintro ⟨likes, present, after⟩
      have same := Option.some.inj ((moved present).symm.trans after)
      obtain rfl : likes = post.likes := by omega
      exact ⟨succeeds, present⟩
    · rintro ⟨-, present⟩
      exact ⟨_, present, moved present⟩
  · rw [if_neg succeeds] at written
    have still : likes? after post.postId = likes? before post.postId := by
      rw [likes?, written]
      rfl
    constructor
    · rintro ⟨likes, present, after⟩
      rw [still, present] at after
      have same := Option.some.inj after
      omega
    · rintro ⟨done, -⟩
      exact absurd done succeeds

/-- A call that writes is underway as its writes; any other leaves the client as it is. -/
private theorem launch_perform {uid : Uid} {session : Session}
    (signedIn : session.currentUser = some uid) (store : Cloud)
    (completion : Option BackendError → Code Session) (silent : Silent completion) (call : PairCall) :
    (call.writes? uid = none ∧
      (client store session).launch id () (call.perform completion) = client store session) ∨
    ∃ writes callback, call.writes? uid = some writes ∧ writes.Separate ∧ Silent callback ∧
      (client store session).launch id () (call.perform completion) =
        issued store session writes callback := by
  have launched {program : Code Session} {calls : List (Call firebase Session)}
      (ran : program.run session = ⟨some session, calls, []⟩) :
      (client store session).launch id () program =
        { client store session with flight := calls.map fun call => ⟨(), call, none⟩ } := by
    rw [Network.launch_running rfl, ran]
    simp [client]
  cases call with
  | follow other =>
    refine .inr ⟨_, completion, rfl, ⟨by simp [PairWrites.requests, Request.target?],
      by simp [PairWrites.requests, Request.target?]⟩, silent, ?_⟩
    exact launched (UserService.run_follow signedIn other completion)
  | unFollow other =>
    refine .inr ⟨_, completion, rfl, ⟨by simp [PairWrites.requests, Request.target?],
      by simp [PairWrites.requests, Request.target?]⟩, silent, ?_⟩
    exact launched (UserService.run_unFollow signedIn other completion)
  | likePost post =>
    refine .inr ⟨_, completion, rfl, ⟨by simp [PairWrites.requests, Request.target?],
      by simp [PairWrites.requests, Request.target?]⟩, silent, ?_⟩
    exact launched (PostService.run_likePost signedIn post completion)
  | unlikePost post =>
    by_cases positive : post.likes > 0
    · refine .inr ⟨_, completion, if_pos positive, ⟨by simp [PairWrites.requests, Request.target?],
        by simp [PairWrites.requests, Request.target?]⟩, silent, ?_⟩
      exact launched (PostService.run_unlikePost signedIn positive completion)
    · refine .inl ⟨if_neg positive, ?_⟩
      have ran : (PairCall.perform completion (.unlikePost post)).run session =
          ⟨some session, [], []⟩ := by
        rw [PairCall.perform, PostService.unlikePost, Code.run_withCurrentUser signedIn,
          if_neg positive]
        rfl
      exact launched ran

/-- What the writes of a call make of its documents. -/
private theorem applied_iff {uid : Uid} {call : PairCall} (writing : call.writes? uid = some writes)
    {after : Firestore} (decided : ∀ reference, Decided writes outcome before after reference) :
    call.Applied uid before after ↔
      (∀ request ∈ [writes.first, writes.next], Succeeds outcome request ∨ Idle before request) ∧
        ∀ counter ∈ call.counter?, outcome (.post counter.1.postId) = true ∧
          likes? before counter.1.postId = some counter.1.likes := by
  have pairs (first : writes.first.target? = some (call.pair uid).1)
      (next : writes.next.target? = some (call.pair uid).2)
      (makes : (writes.first.apply "" before).lookup (call.pair uid).1 = call.value)
      (makesNext : (writes.next.apply "" before).lookup (call.pair uid).2 = call.value)
      (counter : ∀ counter ∈ call.counter?, counter.2 ≠ 0 ∧
        .updateData (.post counter.1.postId)
          (.ofList [("likes", .int (counter.1.likes + counter.2))]) ∈ writes.requests) :
      call.Applied uid before after ↔
        (∀ request ∈ [writes.first, writes.next], Succeeds outcome request ∨ Idle before request) ∧
        ∀ counter ∈ call.counter?, outcome (.post counter.1.postId) = true ∧
          likes? before counter.1.postId = some counter.1.likes := by
    rw [PairCall.Applied, written_iff (decided _) (by simp [PairWrites.requests]) first makes,
      written_iff (decided _) (by simp [PairWrites.requests]) next makesNext, ← and_assoc]
    refine and_congr (by simp) (forall₂_congr fun moved member => ?_)
    exact moved_iff (counter moved member).1 (decided _) (counter moved member).2
  cases call with
  | follow other =>
    obtain rfl := Option.some.inj writing
    exact pairs rfl rfl (by simp [Request.apply, PairCall.pair, PairCall.value])
      (by simp [Request.apply, PairCall.pair, PairCall.value]) (by simp [PairCall.counter?])
  | unFollow other =>
    obtain rfl := Option.some.inj writing
    exact pairs rfl rfl (by simp [Request.apply, PairCall.pair, PairCall.value])
      (by simp [Request.apply, PairCall.pair, PairCall.value]) (by simp [PairCall.counter?])
  | likePost post =>
    obtain rfl := Option.some.inj writing
    exact pairs rfl rfl (by simp [Request.apply, PairCall.pair, PairCall.value])
      (by simp [Request.apply, PairCall.pair, PairCall.value])
      (by simp [PairCall.counter?, PairWrites.requests])
  | unlikePost post =>
    obtain ⟨-, same⟩ := Option.ite_none_right_eq_some.mp writing
    obtain rfl := Option.some.inj same
    exact pairs rfl rfl (by simp [Request.apply, PairCall.pair, PairCall.value])
      (by simp [Request.apply, PairCall.pair, PairCall.value])
      (by simp [PairCall.counter?, PairWrites.requests, sub_eq_add_neg])

/-- When all answers to one call are in, the call took effect or the store is as before, exactly
if its writes all took effect or none made a change. -/
theorem atomic_iff {uid : Uid} {session : Session} (signedIn : session.currentUser = some uid)
    {store : Cloud} {completion : Option BackendError → Code Session} (silent : Silent completion)
    {call : PairCall} {signals : List (Signal cloud)} {final : Network cloud Session Unit Unit}
    (run : Run (fun net signal next => outcomeStep? outcome net signal = some next)
      ((client store session).launch id () (call.perform completion)) signals final)
    (idle : final.flight = []) :
    (call.Applied uid store.firestore final.store.firestore ∨
      final.store.firestore = store.firestore) ↔
    AllOrNothing uid call outcome store.firestore := by
  rcases launch_perform signedIn store completion silent call with
    ⟨nothing, launched⟩ | ⟨writes, callback, writing, separate, silent, launched⟩
  · rw [launched] at run
    have still : final = client store session := by
      cases run with
      | nil => rfl
      | cons taken _ =>
        unfold outcomeStep? at taken
        split_ifs at taken
        rename_i signal _ _ _
        cases signal <;> cases taken
    simp [still, client, AllOrNothing, nothing]
  · rw [launched] at run
    have decided := decided_of_idle separate silent run idle
    rw [applied_iff writing decided, unchanged_iff separate decided]
    simp [AllOrNothing, writing]

/-- The first write of a follow fails, and the second succeeds. -/
def mixed (reference : DocumentReference) : Bool := decide (reference = .follower "b" "a")

/-- The follow of a session that nobody awaits. -/
def following : Network cloud Session Unit Unit :=
  (client {} { currentUser := some "a" }).launch id () ((PairCall.follow "b").perform fun _ => .done)

def answers : List (Signal cloud) :=
  [.serve 0 (.fail .permissionDenied), .deliver 0, .serve 0 (.answer [] ""), .deliver 0]

/-- A follow whose first write fails and whose second succeeds. -/
theorem atomic_iff_mixed :
    ∃ final, Run (fun net signal next => outcomeStep? mixed net signal = some next) following answers
        final ∧
      (((PairCall.follow "b").Applied "a" ∅ final.store.firestore ∨ final.store.firestore = ∅) ↔
        AllOrNothing "a" (.follow "b") mixed ∅) := by
  have completes : (replay? (outcomeStep? mixed) following answers).any
      (fun final => decide (final.flight.isEmpty = true)) = true := by
    decide +kernel
  obtain ⟨final, run, empty⟩ := exists_run_of_replay? completes
  exact ⟨final, run, atomic_iff rfl (fun _ session => ⟨session, rfl⟩) run
    (List.isEmpty_iff.mp empty)⟩

/-- A follow of an account that is not followed: the edge is written, its mirror fails. -/
theorem not_atomic :
    ¬ ∀ (uid : Uid) (session : Session) (store : Cloud) (outcome : DocumentReference → Bool)
      (completion : Option BackendError → Code Session) (call : PairCall)
      (signals : List (Signal cloud)) (final : Network cloud Session Unit Unit),
      session.currentUser = some uid → Silent completion →
      ((call.pair uid).1 ∈ store.firestore ↔ (call.pair uid).2 ∈ store.firestore) →
      Run (fun net signal next => outcomeStep? outcome net signal = some next)
        ((client store session).launch id () (call.perform completion)) signals final →
      final.flight = [] →
      call.Applied uid store.firestore final.store.firestore ∨
        final.store.firestore = store.firestore := by
  intro claim
  let outcome := fun reference => decide (reference = DocumentReference.following "a" "b")
  let session : Session := { currentUser := some "a" }
  let completion : Option BackendError → Code Session := fun _ => .done
  have half : (replay? (outcomeStep? outcome)
      ((client {} session).launch id () ((PairCall.follow "b").perform completion))
      [.serve 0 (.answer [] ""), .deliver 0, .serve 0 (.fail .permissionDenied), .deliver 0]).any
        (fun final => decide (final.flight.isEmpty = true ∧
          .following "a" "b" ∈ final.store.firestore ∧
          .follower "b" "a" ∉ final.store.firestore)) = true := by
    decide +kernel
  obtain ⟨final, run, empty, present, absent⟩ := exists_run_of_replay? half
  rcases claim "a" session {} outcome completion (.follow "b") _ final rfl
      (fun _ session => ⟨session, rfl⟩) (by simp [PairCall.pair, Finmap.notMem_empty]) run
      (List.isEmpty_iff.mp empty) with applied | unchanged
  · exact absent (Finmap.mem_of_lookup_eq_some applied.2.1)
  · rw [unchanged] at present
    exact Finmap.notMem_empty present

end InstagramClone.Atomicity
