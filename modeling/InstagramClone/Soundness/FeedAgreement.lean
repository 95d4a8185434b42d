import InstagramClone.Soundness.FeedTasks

/-! # Feeds against follow edges and posts

Following an account fills the follower's feed with its posts and unfollowing clears them, but a
new post reaches no feed. Run one operation at a time, the feeds list the posts of the followed
accounts exactly as long as no account has uploaded a post since somebody last followed it.
-/

namespace InstagramClone.FeedAgreement

open Async

open PostService (OwnedBy)

variable {ι : Type}

/-- Every feed lists exactly the posts whose owner its user follows. -/
def FeedsAgree (store : Firestore) : Prop :=
  ∀ uid post, .userFeed uid post ∈ store ↔
    ∃ owner, OwnedBy store owner post ∧ .following uid owner ∈ store

/-- A tap on a profile page's button for the user its header shows, or an upload. -/
inductive Operation where
  | tapButton (user : User)
  | postAnImage (caption : String) (image : UIImage) (user : User)

def Operation.perform (page : Ref) : Operation → Code App
  | tapButton user => ProfileController.onTapButtonFor page user
  | postAnImage caption image user => FeedAgreement.postAnImage caption image user

/-- Whether one account follows another, and whether a post has come since it started to. -/
structure Edge where
  follows : Bool := false
  missed : Bool := false

/-- What an operation of an account makes of an edge: a tap for the followed account follows or
unfollows by what the header shows, and an upload by the followed account is missed. -/
def Edge.after (follower followed : Uid) (edge : Edge) : Uid × Operation → Edge
  | (account, .tapButton user) =>
    if account = follower ∧ user.uid = followed ∧ account ≠ user.uid then ⟨!user.isFollowed, false⟩
    else edge
  | (account, .postAnImage _ image _) =>
    if account = followed ∧ image.jpegData.isSome then { edge with missed := edge.follows }
    else edge

/-- The edge after these operations, from an empty store. -/
def edge (follower followed : Uid) (operations : List (Uid × Operation)) : Edge :=
  operations.foldl (Edge.after follower followed) {}

/-- The operations of the events, with the accounts that perform them. -/
def operations (account : ι → Uid) (events : List (Event cloud ι Operation)) :
    List (Uid × Operation) :=
  events.filterMap fun event =>
    match event with
    | .act client operation => some (account client, operation)
    | .signal _ => none

/-- One step: a device operates when nothing is in flight, or a request that neither fails nor stops
the app is served or answered. -/
def feedStep? [DecidableEq ι] (page : ι → Ref) (net : Network cloud App ι ι) :
    Event cloud ι Operation → Option (Network cloud App ι ι)
  | .act client operation =>
    if net.flight.isEmpty then some (net.launch id client (operation.perform (page client)))
    else none
  | .signal signal => if smooth signal then net.signal? id signal else none

/-- The feeds of a store reached by operations of which each has run to completion. -/
structure Agrees (operations : List (Uid × Operation)) (store : Firestore) : Prop where
  edges : ∀ follower followed,
    .following follower followed ∈ store ↔ (edge follower followed operations).follows = true
  feeds : ∀ follower followed post, OwnedBy store followed post →
    (edge follower followed operations).missed = false →
    (.userFeed follower post ∈ store ↔ .following follower followed ∈ store)
  missed : ∀ follower followed, (edge follower followed operations).missed = true →
    .following follower followed ∈ store ∧
      ∃ post, OwnedBy store followed post ∧ .userFeed follower post ∉ store
  known : ∀ follower post, .userFeed follower post ∈ store → ∃ owner, OwnedBy store owner post

private theorem edge_append (follower followed : Uid) (past : List (Uid × Operation))
    (operation : Uid × Operation) : edge follower followed (past ++ [operation]) =
      (edge follower followed past).after follower followed operation := by
  simp [edge, List.foldl_append]

private theorem Agrees.empty : Agrees [] ∅ := by
  refine ⟨fun _ _ => ?_, fun _ _ _ owned => ?_, fun _ _ missed => ?_, fun _ _ entry => ?_⟩
  · simp [edge, Finmap.notMem_empty]
  · simp [OwnedBy] at owned
  · simp [edge] at missed
  · exact (Finmap.notMem_empty entry).elim

section Agrees

variable {past : List (Uid × Operation)} {store : Firestore}

/-- Feeds agree with follow edges and posts exactly when no followed account's post is missed. -/
private theorem Agrees.feedsAgree (agrees : Agrees past store) :
    FeedsAgree store ↔ ∀ follower followed, (edge follower followed past).missed = false := by
  constructor
  · intro agree follower followed
    by_contra missed
    obtain ⟨follows, post, owned, absent⟩ :=
      agrees.missed follower followed (Bool.not_eq_false _ ▸ missed)
    exact absent ((agree follower post).mpr ⟨followed, owned, follows⟩)
  · intro none follower post
    constructor
    · intro entry
      obtain ⟨owner, owned⟩ := agrees.known follower post entry
      exact ⟨owner, owned, (agrees.feeds follower owner post owned (none ..)).mp entry⟩
    · rintro ⟨owner, owned, follows⟩
      exact (agrees.feeds follower owner post owned (none ..)).mpr follows

/-- A completed operation that issued nothing. -/
private theorem Agrees.inert (agrees : Agrees past store) {operation : Uid × Operation}
    (idle : ∀ follower followed (edge : Edge), edge.after follower followed operation = edge) :
    Agrees (past ++ [operation]) store := by
  have same (follower followed : Uid) :
      edge follower followed (past ++ [operation]) = edge follower followed past := by
    rw [edge_append, idle]
  refine ⟨fun follower followed => ?_, fun follower followed post owned => ?_,
    fun follower followed => ?_, agrees.known⟩
  · rw [same]
    exact agrees.edges follower followed
  · rw [same]
    exact agrees.feeds follower followed post owned
  · rw [same]
    exact agrees.missed follower followed

/-- A completed tap: the edge is as the tap made it, and so are the feed entries. -/
private theorem Agrees.tap (agrees : Agrees past store) {next : Firestore} {follower : Uid}
    {user : User} (other : follower ≠ user.uid)
    (evolves : TapEvolves follower user.uid (!user.isFollowed) store next)
    (follows : decide (.following follower user.uid ∈ next) = !user.isFollowed)
    (filled : ∀ post, OwnedBy next user.uid post →
      decide (.userFeed follower post ∈ next) = !user.isFollowed) :
    Agrees (past ++ [(follower, .tapButton user)]) next := by
  have mine : edge follower user.uid (past ++ [(follower, .tapButton user)]) =
      ⟨!user.isFollowed, false⟩ := by
    rw [edge_append]
    simp [Edge.after, other]
  have others {first second : Uid} (apart : ¬ (first = follower ∧ second = user.uid)) :
      edge first second (past ++ [(follower, .tapButton user)]) = edge first second past := by
    rw [edge_append]
    simp only [Edge.after]
    exact if_neg fun same => apart ⟨same.1.symm, same.2.1.symm⟩
  have kept {reference : DocumentReference} (unmarked : ¬ Marked follower user.uid store reference)
      (outside : ∀ uid, reference.parent ≠ .userNotifications uid) :
      reference ∈ next ↔ reference ∈ store := by
    rw [Finmap.mem_iff, Finmap.mem_iff, evolves.kept reference unmarked outside]
  have keptEdge {first second : Uid} (apart : ¬ (first = follower ∧ second = user.uid)) :
      .following first second ∈ next ↔ .following first second ∈ store :=
    kept apart (by simp [DocumentReference.parent])
  have keptFeed {first second : Uid} {post : PostId} (owned : OwnedBy next second post)
      (apart : ¬ (first = follower ∧ second = user.uid)) :
      .userFeed first post ∈ next ↔ .userFeed first post ∈ store := by
    refine kept (fun marked => apart ⟨marked.1, ?_⟩) (by simp [DocumentReference.parent])
    exact ((evolves.owned second post).mp owned).unique marked.2
  refine ⟨fun first second => ?_, fun first second post owned => ?_, fun first second missed => ?_,
    fun first post entry => ?_⟩
  · by_cases here : first = follower ∧ second = user.uid
    · obtain ⟨rfl, rfl⟩ := here
      rw [mine, ← follows, decide_eq_true_iff]
    · rw [others here, keptEdge here]
      exact agrees.edges first second
  · by_cases here : first = follower ∧ second = user.uid
    · obtain ⟨rfl, rfl⟩ := here
      intro _
      rw [← decide_eq_decide, filled post owned, follows]
    · rw [others here, keptEdge here, keptFeed owned here]
      exact agrees.feeds first second post ((evolves.owned second post).mp owned)
  · by_cases here : first = follower ∧ second = user.uid
    · obtain ⟨rfl, rfl⟩ := here
      rw [mine] at missed
      cases missed
    · rw [others here] at missed
      obtain ⟨still, post, owned, absent⟩ := agrees.missed first second missed
      have owned := (evolves.owned second post).mpr owned
      refine ⟨(keptEdge here).mpr still, post, owned, ?_⟩
      rwa [keptFeed owned here]
  · by_cases owned : OwnedBy next user.uid post
    · exact ⟨user.uid, owned⟩
    · have unmarked : ¬ Marked follower user.uid store (.userFeed first post) :=
        fun marked => owned ((evolves.owned _ post).mpr marked.2)
      have entry := (kept unmarked (by simp [DocumentReference.parent])).mp entry
      obtain ⟨owner, theirs⟩ := agrees.known first post entry
      exact ⟨owner, (evolves.owned owner post).mpr theirs⟩

/-- A completed upload: whoever follows its account now misses a post. -/
private theorem Agrees.upload (agrees : Agrees past store) {before after : Cloud} {owner : Uid}
    {caption : String} {image : UIImage} {user : User} (encoded : image.jpegData.isSome = true)
    (at_start : before.firestore = store) (evolves : UploadEvolves owner before after)
    (uploaded : uploadGoal owner store after) :
    Agrees (past ++ [(owner, .postAnImage caption image user)]) after.firestore := by
  subst at_start
  obtain ⟨new, absent, owned⟩ := uploaded
  have step (follower followed : Uid) :
      edge follower followed (past ++ [(owner, .postAnImage caption image user)]) =
        if owner = followed then
          { edge follower followed past with missed := (edge follower followed past).follows }
        else edge follower followed past := by
    rw [edge_append]
    simp [Edge.after, encoded]
  have keptEdge (first second : Uid) :
      .following first second ∈ after.firestore ↔ .following first second ∈ before.firestore :=
    evolves.other (by simp [DocumentReference.parent])
  have keptFeed (first : Uid) (post : PostId) :
      .userFeed first post ∈ after.firestore ↔ .userFeed first post ∈ before.firestore :=
    evolves.other (by simp [DocumentReference.parent])
  have keptOwner {first : Uid} {post : PostId} (theirs : OwnedBy before.firestore first post) :
      OwnedBy after.firestore first post := by
    rw [OwnedBy, evolves.post theirs.mem]
    exact theirs
  have old {first : Uid} {post : PostId} (theirs : OwnedBy after.firestore first post)
      (known : .post post ∈ before.firestore) : OwnedBy before.firestore first post := by
    rw [OwnedBy, evolves.post known] at theirs
    exact theirs
  have unfed {first : Uid} {post : PostId} (fresh : .post post ∉ before.firestore) :
      .userFeed first post ∉ before.firestore := by
    intro entry
    obtain ⟨_, known⟩ := agrees.known first post entry
    exact fresh known.mem
  refine ⟨fun first second => ?_, fun first second post theirs => ?_,
    fun first second missed => ?_, fun first post entry => ?_⟩
  · rw [keptEdge, step, agrees.edges first second]
    split_ifs <;> exact Iff.rfl
  · rw [keptEdge, keptFeed, step]
    by_cases known : .post post ∈ before.firestore
    · have before := agrees.feeds first second post (old theirs known)
      split_ifs with here
      · intro unfollowed
        dsimp only at unfollowed
        by_cases missed : (edge first second past).missed = true
        · have follows := (agrees.edges first second).mp (agrees.missed first second missed).1
          rw [unfollowed] at follows
          cases follows
        · exact before (Bool.eq_false_iff.mpr missed)
      · exact before
    · obtain rfl : owner = second := (evolves.added post known theirs.mem).unique theirs
      rw [if_pos rfl]
      intro unfollowed
      dsimp only at unfollowed
      have apart : .following first owner ∉ before.firestore := by
        rw [agrees.edges, unfollowed]
        exact Bool.false_ne_true
      exact ⟨fun entry => absurd entry (unfed known), fun follows => absurd follows apart⟩
  · rw [step] at missed
    rw [keptEdge]
    by_cases here : owner = second
    · subst here
      rw [if_pos rfl] at missed
      refine ⟨(agrees.edges first owner).mpr missed, new, owned, ?_⟩
      rw [keptFeed]
      exact unfed absent
    · rw [if_neg here] at missed
      obtain ⟨follows, post, theirs, unfed⟩ := agrees.missed first second missed
      exact ⟨follows, post, keptOwner theirs, by rwa [keptFeed]⟩
  · rw [keptFeed] at entry
    obtain ⟨theirs, known⟩ := agrees.known first post entry
    exact ⟨theirs, keptOwner known⟩

end Agrees

section Runs

variable {account : ι → Uid} {page : ι → Ref} {past : List (Uid × Operation)}
  {net next final : Network cloud App ι ι}

/-- The operations so far have run to completion, or will have when the last one does. -/
def Settling (account : ι → Uid) (page : ι → Ref) (past : List (Uid × Operation))
    (net : Network cloud App ι ι) : Prop :=
  ∃ (task : Task cloud (fun choice => choice.smooth = true) id (Ready account page))
    (start : Cloud), task.Progress start net ∧ ∀ store, task.contract.evolves start store →
      (∀ goal ∈ task.goals, goal store) → Agrees past store.firestore

/-- Once nothing is in flight the operations have run to completion. -/
private theorem Settling.settled (settling : Settling account page past net)
    (idle : net.flight = []) :
    net.Quiescent id (Ready account page) ∧ Agrees past net.store.firestore := by
  obtain ⟨task, start, progress, agrees⟩ := settling
  obtain ⟨quiescent, evolves, met⟩ := progress.over idle
  exact ⟨quiescent, agrees _ evolves met⟩

private theorem settling_of_agrees (quiescent : net.Quiescent id (Ready account page))
    (agrees : Agrees past net.store.firestore) : Settling account page past net := by
  refine ⟨inert account page, net.store, Task.progress_of_quiescent quiescent trivial ?_, ?_⟩
  · exact fun _ member => member.elim
  · rintro store rfl _
    exact agrees

variable [DecidableEq ι]

/-- A device starts an operation while nothing is in flight. -/
private theorem settling_launch (quiescent : net.Quiescent id (Ready account page))
    (agrees : Agrees past net.store.firestore) (client : ι) (operation : Operation) :
    Settling account page (past ++ [(account client, operation)])
      (net.launch id client (operation.perform (page client))) := by
  cases operation with
  | tapButton user =>
    by_cases own : account client = user.uid
    · refine ⟨inert account page, net.store, Task.progress_launch quiescent trivial
        (keeps_ownTap own _) fun _ member => member.elim, ?_⟩
      rintro store rfl _
      exact agrees.inert fun follower followed edge => by simp [Edge.after, own]
    · refine ⟨tap account page (account client) user.uid (!user.isFollowed), net.store,
        Task.progress_launch quiescent trivial (keeps_tap own _) (brings_tap own), ?_⟩
      intro store evolves met
      exact agrees.tap own evolves (met _ (.inl rfl)) fun post => met _ (.inr ⟨post, rfl⟩)
  | postAnImage caption image user =>
    cases encoded : image.jpegData with
    | none =>
      refine ⟨inert account page, net.store, Task.progress_launch quiescent trivial
        (keeps_unencoded encoded) fun _ member => member.elim, ?_⟩
      rintro store rfl _
      exact agrees.inert fun follower followed edge => by simp [Edge.after, encoded]
    | some data =>
      refine ⟨upload account page (account client) net.store.firestore, net.store,
        Task.progress_launch quiescent trivial keeps_upload ?_, ?_⟩
      · rintro goal rfl
        exact brings_upload data encoded fun _ => id
      · intro store evolves met
        exact agrees.upload (by simp [encoded]) rfl evolves (met _ rfl)

/-- One step of the devices keeps to the operations. -/
private theorem Settling.step (settling : Settling account page past net)
    {event : Event cloud ι Operation} (taken : feedStep? page net event = some next) :
    Settling account page (past ++ operations account [event]) next := by
  cases event with
  | act client operation =>
    simp only [feedStep?] at taken
    split_ifs at taken with idle
    obtain rfl := Option.some.inj taken
    obtain ⟨quiescent, agrees⟩ := settling.settled (List.isEmpty_iff.mp idle)
    exact settling_launch quiescent agrees client operation
  | signal signal =>
    simp only [feedStep?] at taken
    split_ifs at taken with legal
    obtain ⟨task, start, progress, agrees⟩ := settling
    simp only [operations, List.filterMap_cons, List.filterMap_nil, List.append_nil]
    refine ⟨task, start, ?_, agrees⟩
    cases signal with
    | serve index choice => exact progress.serve legal taken
    | deliver index => exact progress.deliver taken
    | notify index choice => exact (progress.not_notify taken).elim

/-- Operations that each run to completion before the next one starts, from an empty store, leave
the feeds listing exactly the posts of the followed accounts if and only if no account has
uploaded a post since a follower of it last tapped to follow. -/
theorem feeds_agree_iff {events : List (Event cloud ι Operation)}
    (ready : net.Quiescent id (Ready account page)) (empty : net.store.firestore = ∅)
    (run : Run (fun net event next => feedStep? page net event = some next) net events final)
    (idle : final.flight = []) :
    FeedsAgree final.store.firestore ↔
      ∀ follower followed, (edge follower followed (operations account events)).missed = false := by
  have start : Settling account page [] net :=
    settling_of_agrees ready (empty ▸ Agrees.empty)
  have settling := run.history (fun past net => Settling account page (operations account past) net)
    start fun taken settling => by
      rw [operations, List.filterMap_append]
      exact settling.step taken
  exact (settling.settled idle).2.feedsAgree

end Runs

/-- Devices that each show a profile page, over an empty store. -/
def devices (account : ι → Uid) (user : User) : Network cloud App ι ι where
  store := {}
  clients client := some
    { currentUser := some (account client), user := some user,
      objects := [⟨.profile { user }, true⟩] }

private theorem devices_quiescent (account : ι → Uid) (user : User) :
    (devices account user).Quiescent id (Ready account fun _ => 0) :=
  ⟨fun _ => ⟨_, rfl, rfl, rfl, rfl⟩, rfl, rfl⟩

section Examples

/-- The accounts of two devices. -/
def uid : Bool → Uid
  | false => "u"
  | true => "v"

def followed : User where
  email := "v@x"
  fullname := "V"
  profileImage := ""
  username := "v"
  uid := "v"

def photo : UIImage := ⟨some [0]⟩

def photoURL : String := "gs://" ++ storageBucket ++ "/photo"

def drawing (fresh : String) : Choice := .answer [] fresh

/-- The second device uploads, with a request each for the image, its URL and the post. -/
def uploading (post : PostId) : List (Event cloud Bool Operation) :=
  .act true (.postAnImage "" photo followed) ::
    drain [drawing photoURL] ++ drain [drawing ""] ++ drain [drawing post]

/-- The first device follows: two edge documents, the notification and the query for the posts,
and their feed entries. -/
def following (posts : List PostId) : List (Event cloud Bool Operation) :=
  .act false (.tapButton followed) :: drain [drawing ""] ++ drain [drawing ""] ++
    drain [drawing "n", Choice.answer (posts.map .post) ""] ++ drain (posts.map fun _ => drawing "")

end Examples

/-- An account uploads a post and is then followed: the feeds agree. -/
theorem feeds_agree_upload_follow :
    ∃ final, Run (fun net event next => feedStep? (fun _ => 0) net event = some next)
        (devices uid followed) (uploading "p" ++ following ["p"]) final ∧
      FeedsAgree final.store.firestore := by
  have completes : (replay? (feedStep? fun _ => 0) (devices uid followed)
      (uploading "p" ++ following ["p"])).any (fun final => decide (final.flight.isEmpty = true)) =
        true := by
    decide +kernel
  obtain ⟨final, run, idle⟩ := exists_run_of_replay? completes
  refine ⟨final, run, (feeds_agree_iff (devices_quiescent uid followed) rfl run
    (List.isEmpty_iff.mp idle)).mpr fun follower other => ?_⟩
  have taken : operations uid (uploading "p" ++ following ["p"]) =
      [("v", .postAnImage "" photo followed), ("u", .tapButton followed)] := rfl
  rw [taken]
  simp only [edge, List.foldl_cons, List.foldl_nil, Edge.after]
  split_ifs <;> rfl

/-- An account is followed and then uploads a post: its follower's feed does not list it. -/
theorem feeds_not_agree :
    ¬ ∀ (account : Bool → Uid) (page : Bool → Ref) (net final : Network cloud App Bool Bool)
      (events : List (Event cloud Bool Operation)),
      net.Quiescent id (Ready account page) → net.store.firestore = ∅ →
      Run (fun net event next => feedStep? page net event = some next) net events final →
      final.flight = [] → FeedsAgree final.store.firestore := by
  intro claim
  have misses : (replay? (feedStep? fun _ => 0) (devices uid followed)
      (following [] ++ uploading "p")).any (fun final => decide (final.flight.isEmpty = true ∧
        OwnedBy final.store.firestore "v" "p" ∧ .following "u" "v" ∈ final.store.firestore ∧
        .userFeed "u" "p" ∉ final.store.firestore)) = true := by
    decide +kernel
  obtain ⟨final, run, idle, owned, follows, absent⟩ := exists_run_of_replay? misses
  exact absent ((claim uid _ _ final _ (devices_quiescent uid followed) rfl run
    (List.isEmpty_iff.mp idle) "u" "p").mpr ⟨"v", owned, follows⟩)

end InstagramClone.FeedAgreement
