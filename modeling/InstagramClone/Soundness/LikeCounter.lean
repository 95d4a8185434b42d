import InstagramClone.API.PostService
import InstagramClone.Async.Contract

/-! # The like counter of a post

A call writes the counter as the value its session fetched, plus or minus one, and the like
document beside it. The counter is the number of like documents as long as every write lands on a
store in which it counts: the counter still reads what the session fetched, and the document is
not there yet (for a like) or still there (for an unlike).
-/

namespace InstagramClone

open Async

variable {ι : Type}

/-- A session with the posts it has fetched so far. -/
structure Liker where
  currentUser : Option Uid
  now : Timestamp := ⟨0, 0⟩
  fetched : List Post := []
  waiting : Bool := false

instance : Device Liker where
  currentUser := Liker.currentUser
  setCurrentUser uid liker := { liker with currentUser := uid }
  now := Liker.now
  googleProfile _ := none

inductive LikeAction where
  | fetchPost (postId : PostId)
  | likePost (post : Post)
  | unlikePost (post : Post)

namespace LikeAction

/-- The completion handler of a call: the session waits no longer. -/
def completed (_ : Option BackendError) : Code Liker :=
  .update (fun liker => { liker with waiting := false }) .done

/-- A session waits for the completion of its call; an unlike at a counter of zero makes none. -/
def perform : LikeAction → Code Liker
  | fetchPost postId => PostService.fetchPost postId fun post =>
    .update (fun liker => { liker with fetched := post :: liker.fetched }) .done
  | likePost post =>
    .update (fun liker => { liker with waiting := true }) <| PostService.likePost post completed
  | unlikePost post =>
    .update (fun liker => { liker with waiting := decide (post.likes > 0) }) <|
    PostService.unlikePost post completed

/-- The cached post of a call. -/
def post? : LikeAction → Option Post
  | fetchPost _ => none
  | likePost post | unlikePost post => some post

/-- What the call adds to the counter and to the like documents. -/
def amount : LikeAction → ℤ
  | fetchPost _ => 0
  | likePost _ => 1
  | unlikePost _ => -1

/-- When a session may act: it waits for no completion, it fetched the post before, and its like
document is absent for a like and present for an unlike. -/
def Permitted (store : Firestore) (liker : Liker) : LikeAction → Prop
  | fetchPost _ => liker.waiting = false
  | likePost post => liker.waiting = false ∧ post ∈ liker.fetched ∧
    ∀ uid ∈ liker.currentUser, .postLike post.postId uid ∉ store
  | unlikePost post => liker.waiting = false ∧ post ∈ liker.fetched ∧
    ∀ uid ∈ liker.currentUser, .postLike post.postId uid ∈ store

instance (store : Firestore) (liker : Liker) (action : LikeAction) :
    Decidable (action.Permitted store liker) :=
  match action with
  | fetchPost _ => inferInstanceAs (Decidable (liker.waiting = false))
  | likePost post => inferInstanceAs (Decidable (liker.waiting = false ∧ post ∈ liker.fetched ∧
    ∀ uid ∈ liker.currentUser, DocumentReference.postLike post.postId uid ∉ store))
  | unlikePost post => inferInstanceAs (Decidable (liker.waiting = false ∧ post ∈ liker.fetched ∧
    ∀ uid ∈ liker.currentUser, DocumentReference.postLike post.postId uid ∈ store))

end LikeAction

/-- The sessions, where every request in flight remembers the action it descends from. -/
abbrev Likers (ι : Type) := Network cloud Liker (ι × LikeAction) ι

/-- The counter field of a post. -/
def likes? (store : Firestore) (post : PostId) : Option ℤ :=
  match (store.lookup (.post post)).bind (fun data => data "likes") with
  | some (.int likes) => some likes
  | _ => none

/-- The counter reads the number of like documents. -/
def CountsLikes (store : Firestore) (post : PostId) : Prop :=
  likes? store post = some (store.count (.postLikes post))

instance (store : Firestore) (post : PostId) : Decidable (CountsLikes store post) :=
  inferInstanceAs (Decidable (likes? store post = some (store.count (.postLikes post) : ℤ)))

/-- The post whose counter the request writes. -/
def counterOf? : Request → Option PostId
  | .updateData (.post post) _ => some post
  | _ => none

/-- The post and user of the like document that the request writes. -/
def likeOf? : Request → Option (PostId × Uid)
  | .setData (.postLike post uid) _ | .delete (.postLike post uid) => some (post, uid)
  | _ => none

/-- The write counts, if the request is one of a call's two writes to the post: the counter reads
what the call's session fetched, and the like document is absent for a like and present for an
unlike. -/
def Lands (store : Firestore) (action : LikeAction) (request : Request) : Prop :=
  (∀ post ∈ counterOf? request, ∀ cached ∈ action.post?,
    likes? store post = some cached.likes) ∧
  ∀ like ∈ likeOf? request, .postLike like.1 like.2 ∈ store ↔ action.amount < 0

instance (store : Firestore) (action : LikeAction) (request : Request) :
    Decidable (Lands store action request) :=
  inferInstanceAs (Decidable ((∀ post ∈ counterOf? request, ∀ cached ∈ action.post?,
    likes? store post = some cached.likes) ∧
    ∀ like ∈ likeOf? request, .postLike like.1 like.2 ∈ store ↔ action.amount < 0))

/-- Every write of a call that the event serves counts. -/
def Counts (net : Likers ι) : Event cloud ι LikeAction → Prop
  | .signal (.serve index _) => ∀ pending ∈ net.flight[index]?.toList,
    Lands net.store.firestore pending.origin.2 pending.call.request
  | _ => True

instance (net : Likers ι) (event : Event cloud ι LikeAction) : Decidable (Counts net event) :=
  match event with
  | .signal (.serve index _) => inferInstanceAs (Decidable (∀ pending ∈ net.flight[index]?.toList,
    Lands net.store.firestore pending.origin.2 pending.call.request))
  | .signal (.deliver _) | .signal (.notify ..) | .act .. => inferInstanceAs (Decidable True)

/-- Each client is signed in to its account and has fetched nothing. -/
def likers (store : Cloud) (account : ι → Uid) : Likers ι where
  store
  clients client := some { currentUser := some (account client) }

section

variable [DecidableEq ι]

/-- One step: a session acts when it may, or a request is served or answered, in any order. -/
def likerStep? (net : Likers ι) : Event cloud ι LikeAction → Option (Likers ι)
  | .act client action =>
    if ∀ liker ∈ net.clients client, action.Permitted net.store.firestore liker then
      some (net.launch Prod.fst (client, action) action.perform)
    else none
  | .signal signal => if succeeds signal then net.signal? Prod.fst signal else none

end

/-- What the unserved writes of one kind will add for the post. -/
def owed (kind? : Request → Option PostId) (post : PostId)
    (flight : List (Pending firebase Liker (ι × LikeAction))) : ℤ :=
  (flight.map fun pending =>
    if pending.answer.isNone ∧ kind? pending.call.request = some post then pending.origin.2.amount
    else 0).sum

section Owed

variable {kind? : Request → Option PostId} {post : PostId}
  {flight before after : List (Pending firebase Liker (ι × LikeAction))}
  {origin : ι × LikeAction} {call : Call firebase Liker}
  {answer : firebase.Response call.request}

@[simp] theorem owed_nil :
    owed kind? post ([] : List (Pending firebase Liker (ι × LikeAction))) = 0 := rfl

@[simp] theorem owed_append :
    owed kind? post (before ++ after) = owed kind? post before + owed kind? post after := by
  simp [owed]

@[simp] theorem owed_cons_none : owed kind? post (⟨origin, call, none⟩ :: flight) =
    (if kind? call.request = some post then origin.2.amount else 0) + owed kind? post flight := by
  simp [owed]

@[simp] theorem owed_cons_some :
    owed kind? post (⟨origin, call, some answer⟩ :: flight) = owed kind? post flight := by
  simp [owed]

end Owed

/-- Code that changes no post and no like document of a post. -/
def leavingLikes (account : ι → Uid) : Contract firebase Cloud Liker (ι × LikeAction) where
  invariant _ := True
  evolves _ _ := True
  holds origin _ liker := liker.currentUser = some (account origin.1)
  allows _ _ request :=
    (∀ post, ¬ request.Touches (.post post)) ∧ ∀ post uid, ¬ request.Touches (.postLike post uid)
  opens _ _ _ := True
  replies _ _ _ := True
  reports _ _ _ := True
  mayTrap := False
  refl _ := trivial
  trans _ _ := trivial
  holds_mono _ valid := valid
  allows_mono _ allowed := allowed
  opens_mono _ opened := opened

/-- The two writes to a post that a call issues. -/
def LikeAction.writes (uid : Uid) : LikeAction → List Request
  | fetchPost _ => []
  | likePost post =>
    [.updateData (.post post.postId) (.ofList [("likes", .int (post.likes + 1))]),
      .setData (.postLike post.postId uid) .empty]
  | unlikePost post => if post.likes > 0 then
      [.updateData (.post post.postId) (.ofList [("likes", .int (post.likes - 1))]),
        .delete (.postLike post.postId uid)]
    else []

/-- A request in flight is a write of its call to the post, or touches no post. -/
structure Issued (account : ι → Uid) (origin : ι × LikeAction) (call : Call firebase Liker) :
    Prop where
  request : call.request ∈ origin.2.writes (account origin.1) ∨
    ∀ store, (leavingLikes account).allows origin store call.request
  callback : ∀ store answer, (call.callback answer).Keeps (leavingLikes account) origin store

/-- The counter and the unserved increments agree with the documents and the unserved likes. -/
structure Balanced (account : ι → Uid) (post : PostId) (net : Likers ι) : Prop where
  clients : ∀ client, ∃ liker, net.clients client = some liker ∧
    liker.currentUser = some (account client)
  listeners : ∀ listener ∈ net.listeners,
    listener.subscription.Keeps (leavingLikes account) listener.origin net.store
  flight : ∀ pending ∈ net.flight, Issued account pending.origin pending.call
  counter : ∃ likes, likes? net.store.firestore post = some likes ∧
    likes + owed counterOf? post net.flight =
      net.store.firestore.count (.postLikes post) +
        owed (fun request => (likeOf? request).map Prod.fst) post net.flight

/-- A request that touches no post owes nothing. -/
private theorem kinds_of_allowed {account : ι → Uid} {origin : ι × LikeAction} {store : Cloud}
    {request : Request} (allowed : (leavingLikes account).allows origin store request) :
    counterOf? request = none ∧ likeOf? request = none := by
  constructor
  · rcases request with _ | ⟨reference, fields⟩ | _ | _ | _ | _ | _ | _ | _ | _ | _ | _
    case updateData => cases reference <;> first | rfl | exact absurd rfl (allowed.1 _)
    all_goals rfl
  · rcases request with ⟨reference, data⟩ | _ | reference | _ | _ | _ | _ | _ | _ | _ | _ | _
    case setData => cases reference <;> first | rfl | exact absurd rfl (allowed.2 _ _)
    case delete => cases reference <;> first | rfl | exact absurd rfl (allowed.2 _ _)
    all_goals rfl

section Store

variable {store : Firestore} {request : Request} {fresh : String} {post : PostId}

private theorem likes?_apply (apart : ¬ request.Touches (.post post)) :
    likes? (request.apply fresh store) post = likes? store post := by
  rw [likes?, Request.lookup_apply apart]
  rfl

/-- Writing the counter of a post that has one. -/
theorem likes?_updateData {likes : ℤ} (present : likes? store post = some likes) (number : ℤ) :
    likes? ((Request.updateData (.post post) (.ofList [("likes", .int number)])).apply fresh store)
      post = some number := by
  unfold likes? at present
  cases stored : store.lookup (.post post) with
  | none => simp [stored] at present
  | some data => simp [likes?, Request.apply, stored, Dictionary.updating, Dictionary.ofList]

private theorem count_apply (apart : ∀ uid, ¬ request.Touches (.postLike post uid)) :
    Firestore.count (request.apply fresh store) (.postLikes post) =
      store.count (.postLikes post) := by
  refine Firestore.count_congr fun reference parent => Request.mem_apply_of_not_touches ?_
  have same := reference.parent_document
  rw [parent] at same
  rw [← same]
  exact apart _

/-- The counter write of a call whose session fetched the present value. -/
private theorem apply_counter {id : PostId} {current amount : ℤ}
    (reads : likes? store id = some current) :
    (∀ likes, likes? store post = some likes →
      likes? ((Request.updateData (.post id) (.ofList [("likes", .int (current + amount))])).apply
        fresh store) post = some (likes + if some id = some post then amount else 0)) ∧
    (Firestore.count ((Request.updateData (.post id)
      (.ofList [("likes", .int (current + amount))])).apply fresh store) (.postLikes post) : ℤ) =
        store.count (.postLikes post) + if none = some post then amount else 0 := by
  constructor
  · intro likes present
    by_cases same : id = post
    · subst same
      obtain rfl : current = likes := Option.some.inj (reads.symm.trans present)
      rw [likes?_updateData reads, if_pos rfl]
    · rw [likes?_apply (by simpa [Request.Touches] using same), present,
        if_neg (by simpa using same), add_zero]
  · rw [count_apply (by simp [Request.Touches]), if_neg (by simp), add_zero]

/-- A new like document. -/
private theorem apply_like {id : PostId} {uid : Uid} (absent : .postLike id uid ∉ store) :
    (∀ likes, likes? store post = some likes →
      likes? ((Request.setData (.postLike id uid) .empty).apply fresh store) post =
        some (likes + if none = some post then 1 else 0)) ∧
    (Firestore.count ((Request.setData (.postLike id uid) .empty).apply fresh store)
      (.postLikes post) : ℤ) =
        store.count (.postLikes post) + if some id = some post then 1 else 0 := by
  constructor
  · intro likes present
    rw [likes?_apply (by simp [Request.Touches]), present, if_neg (by simp), add_zero]
  · by_cases same : id = post
    · subst same
      have added := Firestore.count_set absent .empty
      rw [if_pos rfl]
      exact_mod_cast added
    · rw [count_apply (by simp [Request.Touches, same]), if_neg (by simpa using same), add_zero]

/-- A like document that goes. -/
private theorem apply_unlike {id : PostId} {uid : Uid} (present : .postLike id uid ∈ store) :
    (∀ likes, likes? store post = some likes →
      likes? ((Request.delete (.postLike id uid)).apply fresh store) post =
        some (likes + if none = some post then -1 else 0)) ∧
    (Firestore.count ((Request.delete (.postLike id uid)).apply fresh store)
      (.postLikes post) : ℤ) =
        store.count (.postLikes post) + if some id = some post then -1 else 0 := by
  constructor
  · intro likes counted
    rw [likes?_apply (by simp [Request.Touches]), counted, if_neg (by simp), add_zero]
  · by_cases same : id = post
    · subst same
      have removed : Firestore.count ((Request.delete (.postLike id uid)).apply fresh store)
          (.postLikes id) + 1 = store.count (.postLikes id) := Firestore.count_delete present
      rw [if_pos rfl]
      omega
    · rw [count_apply (by simp [Request.Touches, same]), if_neg (by simpa using same), add_zero]

/-- A write that counts moves the counter, or the documents, by the amount of its call. -/
private theorem apply_lands {account : ι → Uid} {origin : ι × LikeAction} {cloud : Cloud}
    (fresh : String) (post : PostId) (issued : request ∈ origin.2.writes (account origin.1) ∨
      (leavingLikes account).allows origin cloud request)
    (lands : Lands store origin.2 request) :
    (∀ likes, likes? store post = some likes → likes? (request.apply fresh store) post =
      some (likes + if counterOf? request = some post then origin.2.amount else 0)) ∧
    (Firestore.count (request.apply fresh store) (.postLikes post) : ℤ) =
      store.count (.postLikes post) +
        if (likeOf? request).map Prod.fst = some post then origin.2.amount else 0 := by
  rcases origin with ⟨client, action⟩
  rcases issued with written | allowed
  · cases action with
    | fetchPost id => cases written
    | likePost cached =>
      simp only [LikeAction.writes, List.mem_cons, List.not_mem_nil, or_false] at written
      rcases written with rfl | rfl
      · exact apply_counter (lands.1 cached.postId rfl cached rfl)
      · refine apply_like fun present => ?_
        have negative := (lands.2 _ rfl).mp present
        simp [LikeAction.amount] at negative
    | unlikePost cached =>
      simp only [LikeAction.writes] at written
      split_ifs at written
      · simp only [List.mem_cons, List.not_mem_nil, or_false] at written
        rcases written with rfl | rfl
        · exact apply_counter (lands.1 cached.postId rfl cached rfl)
        · exact apply_unlike ((lands.2 _ rfl).mpr (by simp [LikeAction.amount]))
      · cases written
  · obtain ⟨noCounter, noLike⟩ := kinds_of_allowed allowed
    rw [noCounter, noLike, likes?_apply (allowed.1 post), count_apply (allowed.2 post)]
    simp

end Store

/-- A quiet call is issued rightly and owes nothing. -/
private theorem Issued.of_quiet {account : ι → Uid} {origin : ι × LikeAction}
    {call : Call firebase Liker} {store : Cloud}
    (keeps : call.Keeps (leavingLikes account) origin store) : Issued account origin call :=
  ⟨.inr fun _ => keeps.1, fun later answer => keeps.2 later answer trivial trivial⟩

section

variable [DecidableEq ι] {account : ι → Uid} {post : PostId} {net next : Likers ι}

/-- Running code that issues as much for the counter as for the documents. -/
private theorem Balanced.issue (balanced : Balanced account post net) {origin : ι × LikeAction}
    {program : Code Liker} {liker after : Liker} {calls : List (Call firebase Liker)}
    {subscriptions : List (Subscription firebase Liker)}
    (running : net.clients origin.1 = some liker)
    (ran : program.run liker = ⟨some after, calls, subscriptions⟩)
    (signedIn : after.currentUser = some (account origin.1))
    (issued : ∀ call ∈ calls, Issued account origin call)
    (listening : ∀ subscription ∈ subscriptions,
      subscription.Keeps (leavingLikes account) origin net.store)
    (even : owed counterOf? post (calls.map fun call => ⟨origin, call, none⟩) =
      owed (fun request => (likeOf? request).map Prod.fst) post
        (calls.map fun call => ⟨origin, call, none⟩)) :
    Balanced account post (net.launch Prod.fst origin program) := by
  rw [Network.launch_running running, ran]
  obtain ⟨likes, counter, balance⟩ := balanced.counter
  refine ⟨?_, ?_, ?_, likes, counter, ?_⟩
  · intro client
    dsimp only
    by_cases same : client = origin.1
    · subst same
      exact ⟨after, Function.update_self .., signedIn⟩
    · rw [Function.update_of_ne same]
      exact balanced.clients client
  · intro listener member
    rcases List.mem_append.mp member with member | member
    · exact balanced.listeners listener member
    · obtain ⟨subscription, opened, rfl⟩ := List.mem_map.mp member
      exact listening subscription opened
  · intro pending member
    rcases List.mem_append.mp member with member | member
    · exact balanced.flight pending member
    · obtain ⟨call, present, rfl⟩ := List.mem_map.mp member
      exact issued call present
  · rw [owed_append, owed_append]
    dsimp only
    omega

omit [DecidableEq ι] in
private theorem owed_quiet {kind? : Request → Option PostId} {origin : ι × LikeAction}
    {calls : List (Call firebase Liker)} (none : ∀ call ∈ calls, kind? call.request = none) :
    owed kind? post (calls.map fun call => ⟨origin, call, .none⟩) = 0 := by
  induction calls with
  | nil => rfl
  | cons call rest ih =>
    rw [List.map_cons, owed_cons_none, none call (List.mem_cons_self ..),
      ih fun other member => none other (List.mem_cons_of_mem _ member)]
    simp

/-- Code that touches no post keeps the balance. -/
private theorem Balanced.launch (balanced : Balanced account post net) {origin : ι × LikeAction}
    {program : Code Liker} (keeps : program.Keeps (leavingLikes account) origin net.store) :
    Balanced account post (net.launch Prod.fst origin program) := by
  obtain ⟨liker, running, signedIn⟩ := balanced.clients origin.1
  have effect := keeps.run signedIn
  rcases ran : program.run liker with ⟨_ | after, calls, subscriptions⟩
  · rw [ran] at effect
    exact (effect.running rfl).elim
  rw [ran] at effect
  refine balanced.issue running ran (effect.state after rfl)
    (fun call member => .of_quiet (effect.calls call member)) effect.subscriptions ?_
  rw [owed_quiet fun call member => (kinds_of_allowed (effect.calls call member).1).1,
    owed_quiet fun call member => by rw [(kinds_of_allowed (effect.calls call member).1).2]; rfl]

omit [DecidableEq ι] in
/-- The user's own like document is written by code that touches no post. -/
private theorem keeps_userLike {origin : ι × LikeAction} {store : Cloud} {request : Request}
    {callback : request.Response → Code Liker} {uid : Uid} {id : PostId}
    (apart : ∀ reference, request.Touches reference → reference = .userLike uid id)
    (quiet : ∀ later answer, (callback answer).Keeps (leavingLikes account) origin later) :
    (Code.call request callback).Keeps (leavingLikes account) origin store := by
  refine ⟨⟨⟨fun other touches => ?_, fun other liker touches => ?_⟩,
    fun later answer _ _ => quiet later answer⟩, trivial⟩
  · cases apart _ touches
  · cases apart _ touches

/-- A call that issues its counter write and the write of its like document. -/
private theorem Balanced.pair (balanced : Balanced account post net) {origin : ι × LikeAction}
    {program : Code Liker} {liker after : Liker} {counter like : Call firebase Liker}
    {like' : PostId × Uid} (running : net.clients origin.1 = some liker)
    (ran : program.run liker = ⟨some after, [counter, like], []⟩)
    (signedIn : after.currentUser = some (account origin.1))
    (counterIssued : Issued account origin counter) (likeIssued : Issued account origin like)
    (writesCounter : counterOf? counter.request = some like'.1)
    (noLike : likeOf? counter.request = none)
    (noCounter : counterOf? like.request = none) (writesLike : likeOf? like.request = some like') :
    Balanced account post (net.launch Prod.fst origin program) := by
  refine balanced.issue running ran signedIn ?_ (by simp) ?_
  · intro call member
    simp only [List.mem_cons, List.not_mem_nil, or_false] at member
    rcases member with rfl | rfl
    · exact counterIssued
    · exact likeIssued
  · rw [List.map_cons, List.map_cons, List.map_nil]
    iterate 2 rw [owed_cons_none, owed_cons_none, owed_nil]
    simp [writesCounter, noLike, noCounter, writesLike]

/-- An action keeps the balance: a call issues both of its writes, or none. -/
private theorem Balanced.act (balanced : Balanced account post net) (client : ι)
    (action : LikeAction) :
    Balanced account post (net.launch Prod.fst (client, action) action.perform) := by
  obtain ⟨liker, running, signedIn⟩ := balanced.clients client
  have completed (store : Cloud) (error : Option BackendError) :
      (LikeAction.completed error).Keeps (leavingLikes account) (client, action) store :=
    ⟨fun _ _ _ valid => valid, trivial⟩
  cases action with
  | fetchPost id =>
    refine balanced.launch
      ⟨⟨⟨fun _ touches => touches, fun _ _ touches => touches⟩, fun later answer _ _ => ?_⟩, trivial⟩
    rcases answer with error | _ | data
    · trivial
    · trivial
    · exact fun _ _ _ _ => ⟨fun _ _ _ valid => valid, trivial⟩
  | likePost cached =>
    have waiting : Device.currentUser { liker with waiting := true } = some (account client) :=
      signedIn
    have ran : (LikeAction.likePost cached).perform.run liker = _ :=
      PostService.run_likePost waiting cached LikeAction.completed
    refine balanced.pair running ran signedIn ⟨.inl (by simp [LikeAction.writes]), fun _ _ => trivial⟩
      ⟨.inl (by simp [LikeAction.writes]), fun later _ => ?_⟩ rfl rfl rfl rfl
    exact keeps_userLike (fun reference same => same.symm) completed
  | unlikePost cached =>
    have waiting : Device.currentUser { liker with waiting := decide (cached.likes > 0) } =
        some (account client) := signedIn
    by_cases positive : cached.likes > 0
    · have ran : (LikeAction.unlikePost cached).perform.run liker = _ :=
        PostService.run_unlikePost waiting positive LikeAction.completed
      refine balanced.pair running ran signedIn
        ⟨.inl (by simp [LikeAction.writes, positive]), fun _ _ => trivial⟩
        ⟨.inl (by simp [LikeAction.writes, positive]), fun later _ => ?_⟩ rfl rfl rfl rfl
      exact keeps_userLike (fun reference same => same.symm) completed
    · refine balanced.launch ⟨fun _ _ _ valid => valid, ?_⟩
      intro later state _ current
      have signed : Device.currentUser state = some (account client) := current
      simp only [signed, if_neg positive]
      trivial

omit [DecidableEq ι] in
/-- Serving a request whose write counts keeps the balance. -/
private theorem Balanced.serve (balanced : Balanced account post net) {index : ℕ} {choice : Choice}
    (succeeds : choice.succeeds = true)
    (counts : Counts net (.signal (.serve index choice)))
    (served : net.serve? index choice = some next) : Balanced account post next := by
  obtain ⟨before, after, origin, call, store, answer, split, rfl, resolved, rfl⟩ :=
    Network.serve?_cases served
  have issued := balanced.flight ⟨origin, call, none⟩ (by simp [split])
  have lands : Lands net.store.firestore origin.2 call.request :=
    counts ⟨origin, call, none⟩ (by simp [split])
  obtain ⟨likes, counter, balance⟩ := balanced.counter
  obtain ⟨fresh, applied, -⟩ := serve_firestore succeeds resolved
  have request : call.request ∈ origin.2.writes (account origin.1) ∨
      (leavingLikes account).allows origin net.store call.request :=
    issued.request.imp id fun allowed => allowed net.store
  obtain ⟨reads, holds⟩ := apply_lands fresh post request lands
  rw [← applied] at reads holds
  refine ⟨balanced.clients, balanced.listeners, ?_, _, reads likes counter, ?_⟩
  · intro pending member
    simp only [List.mem_append, List.mem_cons] at member
    rcases member with member | rfl | member
    · exact balanced.flight pending (by simp [split, member])
    · exact issued
    · exact balanced.flight pending (by simp [split, member])
  · rw [split] at balance
    iterate 2 rw [owed_append, owed_cons_none] at balance
    dsimp only
    rw [holds, owed_append, owed_cons_some, owed_append, owed_cons_some]
    omega

/-- Delivering an answer runs code that touches no post. -/
private theorem Balanced.deliver (balanced : Balanced account post net) {index : ℕ}
    (delivered : net.deliver? Prod.fst index = some next) : Balanced account post next := by
  obtain ⟨before, after, origin, call, answer, split, -, rfl⟩ := Network.deliver?_cases delivered
  have issued := balanced.flight ⟨origin, call, some answer⟩ (by simp [split])
  obtain ⟨likes, counter, balance⟩ := balanced.counter
  have left : Balanced account post { net with flight := before ++ after } := by
    refine ⟨balanced.clients, balanced.listeners, fun pending member => ?_, likes, counter, ?_⟩
    · refine balanced.flight pending ?_
      simp only [split, List.mem_append, List.mem_cons] at member ⊢
      tauto
    · rw [split] at balance
      iterate 2 rw [owed_append, owed_cons_some] at balance
      rw [owed_append, owed_append]
      exact balance
  exact left.launch (issued.callback net.store answer)

private theorem Balanced.notify (balanced : Balanced account post net) {index : ℕ} {choice : Choice}
    (notified : net.notify? Prod.fst index choice = some next) : Balanced account post next := by
  obtain ⟨before, after, origin, subscription, cursor, event, seen, split, -, rfl⟩ :=
    Network.notify?_cases notified
  have quiet := balanced.listeners ⟨origin, subscription, cursor⟩ (by simp [split])
  have seenAll : Balanced account post
      { net with listeners := before ++ ⟨origin, subscription, seen⟩ :: after } := by
    refine ⟨balanced.clients, fun listener member => ?_, balanced.flight, balanced.counter⟩
    simp only [List.mem_append, List.mem_cons] at member
    rcases member with member | rfl | member
    · exact balanced.listeners listener (by simp [split, member])
    · exact quiet
    · exact balanced.listeners listener (by simp [split, member])
  exact seenAll.launch (quiet.2 net.store event trivial trivial)

/-- One step whose write counts keeps the balance. -/
private theorem Balanced.step (balanced : Balanced account post net)
    {event : Event cloud ι LikeAction} (counts : Counts net event)
    (taken : likerStep? net event = some next) :
    Balanced account post next := by
  cases event with
  | act client action =>
    simp only [likerStep?] at taken
    split_ifs at taken
    obtain rfl := Option.some.inj taken
    exact balanced.act client action
  | signal signal =>
    simp only [likerStep?] at taken
    split_ifs at taken with succeeds
    cases signal with
    | serve index choice => exact balanced.serve succeeds counts taken
    | deliver index => exact balanced.deliver taken
    | notify index choice => exact balanced.notify taken

/-- The counter of a post over every run in which each write counts: whenever nothing is in
flight it reads the number of like documents. -/
theorem counter_agrees {store : Cloud} {events : List (Event cloud ι LikeAction)}
    {final : Likers ι} (agree : CountsLikes store.firestore post)
    (run : Run (fun net event next => Counts net event ∧ likerStep? net event = some next)
      (likers store account) events final)
    (idle : final.flight = []) : CountsLikes final.store.firestore post := by
  have start : Balanced account post (likers store account) := by
    refine ⟨fun client => ⟨_, rfl, rfl⟩, ?_, ?_, _, agree, rfl⟩
    all_goals
      intro pending member
      cases member
  obtain ⟨likes, counter, balance⟩ :=
    (run.invariant start fun taken balanced => balanced.step taken.1 taken.2 :
      Balanced account post final).counter
  rw [idle, owed_nil, owed_nil] at balance
  rw [CountsLikes, counter]
  congr 1
  omega

/-- A post that nobody likes, and a copy of it with this counter. -/
def unliked : Dictionary := .ofList [("likes", .int 0)]

def fetched (likes : ℤ) : Post := { Post.ofDictionary ⟨0, 0⟩ "p" unliked with likes }

/-- Sessions of two accounts. -/
def two : Likers Bool :=
  likers { firestore := (∅ : Firestore).insert (.post "p") unliked } fun client =>
    if client then "a" else "b"

/-- A session fetches the post, which has so many likes, and likes it. -/
def turn (client : Bool) (likes : ℤ) : List (Event cloud Bool LikeAction) :=
  [.act client (.fetchPost "p")] ++ drain [Choice.drawing ""] ++
    [.act client (.likePost (fetched likes))] ++ drain [Choice.drawing "", Choice.drawing ""] ++
    drain [Choice.drawing ""]

/-- Two accounts like a post one after the other, each with a fresh copy of it. -/
theorem counter_agrees_in_turn :
    ∃ final, Run (fun net event next => Counts net event ∧ likerStep? net event = some next) two
        (turn true 0 ++ turn false 1) final ∧
      CountsLikes final.store.firestore "p" := by
  have completes : (replay?
      (fun net event => if Counts net event then likerStep? net event else none) two
      (turn true 0 ++ turn false 1)).any (fun final => decide (final.flight.isEmpty = true)) =
        true := by
    decide +kernel
  obtain ⟨final, run, empty⟩ := exists_legal_run_of_replay? completes
  exact ⟨final, run, counter_agrees (by decide +kernel) run (List.isEmpty_iff.mp empty)⟩

/-- Two accounts fetch a post without likes and both like it: the counter stays at one. -/
theorem counter_not_agrees :
    ¬ ∀ (account : Bool → Uid) (store : Cloud) (post : PostId)
      (events : List (Event cloud Bool LikeAction)) (final : Likers Bool),
      CountsLikes store.firestore post →
      Run (fun net event next => likerStep? net event = some next) (likers store account) events
        final →
      final.flight = [] → CountsLikes final.store.firestore post := by
  intro claim
  let data : Dictionary := .ofList [("likes", .int 0)]
  let store : Cloud := { firestore := (∅ : Firestore).insert (.post "p") data }
  let post := Post.ofDictionary ⟨0, 0⟩ "p" data
  let ok : Choice := .answer [] ""
  let account := fun client : Bool => if client then "a" else "b"
  let events : List (Event cloud Bool LikeAction) :=
    [.act true (.fetchPost "p"), .act false (.fetchPost "p")] ++ drain [ok, ok] ++
      [.act true (.likePost post), .act false (.likePost post)] ++ drain [ok, ok, ok, ok] ++
      drain [ok, ok]
  have stale : (replay? likerStep? (likers store account) events).any (fun final =>
      decide (final.flight.isEmpty = true ∧ ¬ CountsLikes final.store.firestore "p")) = true := by
    decide +kernel
  obtain ⟨final, run, empty, wrong⟩ := exists_run_of_replay? stale
  exact wrong (claim account store "p" events final (by decide +kernel) run
    (List.isEmpty_iff.mp empty))

end

end InstagramClone
