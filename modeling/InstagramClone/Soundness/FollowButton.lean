import InstagramClone.Soundness.FollowWork

/-! # The follow button of a profile page

Requests of one session that are served and answered in the order of their issue make the taps on
the button take effect one after the other, each in four stages that overlap with those of the
others. Once all are answered, the page, the two documents of the follow and the feed are as the
last tap asked, but for the posts that were uploaded after the posts were read for it.
-/

namespace InstagramClone

open Async

open PostService (OwnedBy)

namespace FollowButton

open FollowWork

section Session

/-- What may happen: a tap on the button, for the header's copy of the user, an upload by some other
session, or a signal. -/
inductive Input where
  | tap (user : User)
  | upload (postId : PostId) (data : Dictionary)
  | signal (signal : Signal cloud)

/-- The network, with the number of the taps that acted and what was stored when the posts were read
for the last of them. -/
structure Watched where
  net : Network cloud App ℕ Unit
  taps : ℕ := 0
  asked : Option Cloud := none

abbrev host (_ : ℕ) : Unit := ()

/-- The request asks for the posts of the account. -/
def asksFor (uid : Uid) : Request → Bool
  | .getDocuments query => query = PostService.ownedBy uid
  | _ => false

/-- The signal answers the feed query of the last tap. -/
def asks (uid : Uid) (watched : Watched) : Signal cloud → Bool
  | .serve index _ => watched.net.flight[index]?.any fun pending =>
      decide (pending.origin = watched.taps) && asksFor uid pending.call.request
  | _ => false

/-- A post of the given data, under an id that has not been in use. -/
def upload (postId : PostId) (data : Dictionary) (store : Cloud) : Cloud :=
  { store with firestore := store.firestore.insert (.post postId) data }

/-- One step of the session, whose requests do not fail and are served and answered in the order of
issue. -/
def step? (uid : Uid) (page : Ref) (watched : Watched) : Input → Option Watched
  | .tap user =>
    if user.uid = uid then
      let net := watched.net.launch host (watched.taps + 1)
        (ProfileController.onTapButtonFor page user)
      if (watched.net.clients ()).any (acts page) then some ⟨net, watched.taps + 1, none⟩
      else some { watched with net }
    else none
  | .upload postId data =>
    if watched.net.store.firestore.Unused postId then
      some { watched with net.store := upload postId data watched.net.store }
    else none
  | .signal signal =>
    if watched.net.InOrder host signal ∧ succeeds signal = true then
      (watched.net.signal? host signal).map fun net =>
        { watched with
          net
          asked := if asks uid watched signal then some watched.net.store else watched.asked }
    else none

/-- A session with nothing in flight, and a page for another account that is about to appear. The
documents of the follow agree, and the feed has posts of the account only if it is followed. -/
structure Opens (currentUid uid : Uid) (page : Ref) (net : Network cloud App ℕ Unit) : Prop where
  apart : currentUid ≠ uid
  idle : net.flight = []
  quiet : net.listeners = []
  client : ∃ app, net.clients () = some app ∧ app.currentUser = some currentUid ∧
    ∃ profile, app.find? ProfileController page = some profile ∧ profile.user.uid = uid
  agree : .following currentUid uid ∈ net.store.firestore ↔
    .follower uid currentUid ∈ net.store.firestore
  unfed : .following currentUid uid ∉ net.store.firestore → ∀ postId,
    OwnedBy net.store.firestore uid postId → .userFeed currentUid postId ∉ net.store.firestore

/-- The page has appeared. -/
def opened (page : Ref) (net : Network cloud App ℕ Unit) : Watched :=
  { net := net.launch host 0 (ProfileController.viewDidLoad page) }

end Session

section Taps

variable {uid : Uid} {taps : ℕ} {follows : Bool} {moves : List (Tap uid)} {one : Tap uid}

/-- The last of these taps, if there is any, is the last that acted, and asked for this. -/
def Latest (taps : ℕ) (follows : Bool) (moves : List (Tap uid)) : Prop :=
  moves = [] ∨ ∃ earlier last, moves = earlier ++ [last] ∧ last.number = taps ∧
    last.follows = follows ∧ ∀ other ∈ earlier, other.number < taps

private theorem Latest.tap (latest : Latest taps follows moves) (next : one.number = taps + 1) :
    Latest (taps + 1) one.follows (moves ++ [one]) := by
  refine .inr ⟨moves, one, rfl, next, rfl, fun other member => ?_⟩
  obtain rfl | ⟨earlier, last, rfl, number, -, before⟩ := latest
  · cases member
  rcases List.mem_append.mp member with member | member
  · have := before other member
    omega
  · obtain rfl := List.mem_singleton.mp member
    omega

/-- The oldest of the taps is dropped. -/
private theorem Latest.drop (latest : Latest taps follows (one :: moves)) :
    Latest taps follows moves ∧
    (one.number = taps ↔ moves = []) := by
  obtain impossible | ⟨earlier, last, split, number, asked, before⟩ := latest
  · cases impossible
  cases earlier with
  | nil =>
    obtain ⟨rfl, rfl⟩ := List.cons.inj split
    exact ⟨.inl rfl, by simp [number]⟩
  | cons first earlier =>
    obtain ⟨rfl, rfl⟩ := List.cons.inj split
    refine ⟨.inr ⟨earlier, last, rfl, number, asked, fun other member => ?_⟩, ?_⟩
    · exact before other (List.mem_cons_of_mem _ member)
    · have := before one (List.mem_cons_self ..)
      simp
      omega

/-- A register that these taps set ends as the last one asked. -/
private theorem Latest.settled (latest : Latest taps follows moves) (current : Bool) :
    settled current (moves.map Tap.follows) = if moves = [] then current else follows := by
  obtain rfl | ⟨earlier, last, rfl, -, asked, -⟩ := latest
  · rfl
  · simp [asked]

end Taps

section Told

variable {currentUid uid : Uid} {page : Ref} {start store later : Cloud} {app after : App} {taps : ℕ}
  {follows : Bool} {asked : Option Cloud} {postId : PostId} {data : Dictionary}
  {work before last : List (FollowWork.Issued currentUid uid page)}

/-- What is to come is as the last tap asked, or else as it was at the start. -/
structure Told (start : Cloud) (taps : ℕ) (asked : Option Cloud) (follows : Bool) (store : Cloud)
    (app : App) (work : List (FollowWork.Issued currentUid uid page)) : Prop where
  signedIn : app.currentUser = some currentUid
  present : (followed? page app).isSome = true
  single : .check ∉ (work.map Posted.job).tail
  sound : ∀ posted ∈ work, Sound store posted
  edge : edgeDue store work = follows
  mirror : mirrorDue store work = follows
  shown : shownDue page store app work = some follows
  latest : Latest taps follows (unread work)
  cleared : follows = false → ∀ postId, OwnedBy store.firestore uid postId →
    entryDue store work postId = false
  filling : 0 < taps → follows = true → unread work ≠ [] → ∀ postId,
    OwnedBy store.firestore uid postId → entryDue store work postId = true
  filled : 0 < taps → follows = true → unread work = [] → ∃ seen ∈ asked, ∀ postId,
    OwnedBy seen.firestore uid postId →
      OwnedBy store.firestore uid postId ∧ entryDue store work postId = true
  kept : ∀ postId, ¬ OwnedBy store.firestore uid postId →
    store.has (.userFeed currentUid postId) = start.has (.userFeed currentUid postId)

/-- A tap that acts. -/
private theorem Told.tap (told : Told start taps asked follows store app work) {tap : Tap uid}
    (next : tap.number = taps + 1) : Told start (taps + 1) none tap.follows store app
      (work ++ issue (Job.call currentUid page) [.edge tap]) := by
  have entries (postId : PostId) : entryDue store
      (work ++ issue (Job.call currentUid page) [.edge tap]) postId = tap.follows := by
    simp [entryDue, unmirrored, Job.edge?, ← List.append_assoc]
  have moves : unread (work ++ issue (Job.call currentUid page) [.edge tap]) =
      unread work ++ [tap] := by
    simp [unread, unmirrored, Job.edge?, Job.query?, Job.mirror?]
  refine ⟨told.signedIn, told.present, ?_, fun posted member => ?_, ?_, ?_, ?_,
    ?_, fun unfollows postId _ => ?_, fun _ followed _ postId _ => ?_, fun _ _ none => ?_, told.kept⟩
  · have single := told.single
    cases work with
    | nil =>
      intro impossible
      cases impossible
    | cons first work => simpa using single
  · rcases List.mem_append.mp member with member | member
    · exact told.sound posted member
    · obtain rfl := List.mem_singleton.mp member
      trivial
  · simp [edgeDue, Job.edge?]
  · simp [mirrorDue, Job.edge?, Job.mirror?, ← List.append_assoc]
  · simp [shownDue, unmirrored, Job.edge?, Job.mirror?, ← List.append_assoc]
  · rw [moves]
    exact told.latest.tap next
  · rw [entries, unfollows]
  · rw [entries, followed]
  · rw [moves] at none
    simp at none

/-- An upload touches no other document. -/
private theorem has_upload {reference : DocumentReference} (other : reference ≠ .post postId) :
    (upload postId data store).has reference = store.has reference := by
  simp [Cloud.has, upload, Finmap.mem_insert, other]

private theorem ownedBy_upload {id : PostId} (other : id ≠ postId) :
    OwnedBy (upload postId data store).firestore uid id ↔ OwnedBy store.firestore uid id := by
  simp [OwnedBy, upload, other]

/-- A post that is not there yet gets an entry by the feed queries to come only. -/
private theorem entryDue_absent (sound : ∀ posted ∈ work, Sound store posted)
    (absent : ¬ OwnedBy store.firestore uid postId) : entryDue later work postId =
      settled (later.has (.userFeed currentUid postId)) ((unread work).map Tap.follows) := by
  have entries : Async.owed (Job.entry? postId) work = [] := by
    refine List.filterMap_eq_nil_iff.mpr fun posted member => ?_
    have named := sound posted member
    rcases posted with ⟨job, answer⟩
    cases job with
    | entry tap id =>
      have other : id ≠ postId := by
        rintro rfl
        exact absent named
      simp [Job.entry?, other]
    | _ => simp [Job.entry?]
  have fills : work.filterMap (fills? postId) = (Async.owed Job.query? work).map Tap.follows := by
    rw [Async.owed, List.map_filterMap]
    refine List.filterMap_congr fun posted member => ?_
    have named := sound posted member
    rcases posted with ⟨job, answer⟩
    cases job with
    | query tap =>
      cases answer with
      | none => rfl
      | some answer =>
        obtain ⟨documents, rfl, owned⟩ := named
        exact if_neg fun listed => absent (owned postId listed)
    | _ => cases answer <;> rfl
  rw [entryDue, entries, fills, List.nil_append, ← List.map_append]
  rfl

private theorem checked_congr
    (same : later.has (.following currentUid uid) = store.has (.following currentUid uid)) :
    checked page later app work = checked page store app work := by
  cases work with
  | nil => rfl
  | cons posted work =>
    rcases posted with ⟨job, answer⟩
    cases job with
    | check =>
      match answer with
      | none => exact congrArg some same
      | some (.ok _) => rfl
      | some (.error _) => rfl
    | _ => rfl

/-- Another session uploads a post. -/
private theorem Told.upload (told : Told start taps asked follows store app work)
    (unused : store.firestore.Unused postId) (data : Dictionary) :
    Told start taps asked follows (upload postId data store) app work := by
  have unnamed {reference : DocumentReference} (names : postId ∈ reference.ids) :
      store.has reference = false := by
    refine decide_eq_false fun stored => ?_
    exact unused reference (Finmap.mem_keys.mpr stored) names
  have absent : ¬ OwnedBy store.firestore uid postId := by
    intro owned
    have named : store.has (.post postId) = false :=
      unnamed (by simp [DocumentReference.ids, DocumentReference.documentID])
    exact of_decide_eq_false named owned.mem
  have grows {id : PostId} (owned : OwnedBy store.firestore uid id) :
      OwnedBy (FollowButton.upload postId data store).firestore uid id := by
    refine (ownedBy_upload ?_).mpr owned
    rintro rfl
    exact absent owned
  have entries (id : PostId) :
      entryDue (FollowButton.upload postId data store) work id = entryDue store work id := by
    rw [entryDue, entryDue, has_upload (by simp)]
  have fresh : entryDue store work postId = if unread work = [] then false else follows := by
    rw [entryDue_absent told.sound absent, told.latest.settled,
      unnamed (by simp [DocumentReference.ids, DocumentReference.documentID])]
  refine ⟨told.signedIn, told.present, told.single, fun posted member => ?_, ?_, ?_, ?_, told.latest,
    fun unfollows id owned => ?_, fun acted followed some id owned => ?_,
    fun acted followed none => ?_, fun id unowned => ?_⟩
  · exact (told.sound posted member).mono fun id => grows
  · rw [edgeDue, has_upload (by simp)]
    exact told.edge
  · rw [mirrorDue, has_upload (by simp)]
    exact told.mirror
  · rw [shownDue, checked_congr (has_upload (by simp))]
    exact told.shown
  · rw [entries]
    by_cases new : id = postId
    · rw [new, fresh, unfollows]
      exact ite_self _
    · exact told.cleared unfollows id ((ownedBy_upload new).mp owned)
  · rw [entries]
    by_cases new : id = postId
    · rw [new, fresh, if_neg some, followed]
    · exact told.filling acted followed some id ((ownedBy_upload new).mp owned)
  · obtain ⟨seen, answered, all⟩ := told.filled acted followed none
    refine ⟨seen, answered, fun id owned => ?_⟩
    rw [entries]
    exact ⟨grows (all id owned).1, (all id owned).2⟩
  · rw [has_upload (by simp)]
    exact told.kept id fun owned => unowned (grows owned)

/-- Of the reads of posts, those with the number of a tap are feed queries. -/
private theorem asks_iff (acted : 0 < taps) (job : Job uid) :
    (decide (job.origin = taps) && asksFor uid (job.call currentUid page).request) = true ↔
      ∃ tap, job = .query tap ∧ tap.number = taps := by
  have unasked (reference : DocumentReference) (present : Bool) :
      asksFor uid (.put reference present) = false := by
    cases present <;> rfl
  rw [Bool.and_eq_true_iff, decide_eq_true_iff]
  cases job with
  | query tap => simp [Job.call, Job.origin, asksFor]
  | edge tap | mirror tap | entry tap id => simp [Job.call, unasked]
  | notice tap data => simp [Job.call, asksFor]
  | _ =>
    have apart : 0 ≠ taps := by omega
    simp [Job.origin, apart]

/-- A request of the session is served. -/
private theorem Told.serve {job : Job uid} {choice : Choice} {answer}
    (told : Told start taps asked follows store app (before ++ ⟨job, none⟩ :: last))
    (answered : ∀ posted ∈ before, posted.answer.isSome = true) (succeeds : choice.succeeds = true)
    (served : cloud.serve choice store (job.call currentUid page).request = some (later, answer)) :
    Told start taps (if decide (job.origin = taps) && asksFor uid (job.call currentUid page).request
      then some store else asked) follows later app (before ++ ⟨job, some answer⟩ :: last) := by
  have continues : Continues page store later app app (before ++ ⟨job, none⟩ :: last)
      (before ++ ⟨job, some answer⟩ :: last) := continues_serve answered succeeds served
  have owns (id : PostId) : OwnedBy later.firestore uid id ↔ OwnedBy store.firestore uid id := by
    rw [OwnedBy, OwnedBy, continues.posts]
  have moves : unread (before ++ ⟨job, none⟩ :: last) = job.query?.toList ++
      unread (before ++ (⟨job, some answer⟩ : Posted (Job.call currentUid page)) :: last) :=
    unread_serve answered
  have latest := told.latest
  have filling := told.filling
  have filled := told.filled
  rw [moves] at latest filling filled
  refine ⟨told.signedIn, told.present, ?_, fun posted member => ?_, continues.edge.trans told.edge,
    continues.mirror.trans told.mirror, continues.shown.trans told.shown, ?_,
    fun unfollows id owned => ?_, fun acted followed some id owned => ?_,
    fun acted followed none => ?_, fun id unowned => ?_⟩
  · simpa using told.single
  · rcases List.mem_append.mp member with member | member
    · exact (told.sound posted (by simp [member])).mono fun id => (owns id).mpr
    rcases List.mem_cons.mp member with rfl | member
    · exact sound_served succeeds served (told.sound _ (by simp))
    · exact (told.sound posted (by simp [member])).mono fun id => (owns id).mpr
  · cases asks : job.query? with
    | none => simpa [asks] using latest
    | some tap =>
      rw [asks] at latest
      exact latest.drop.1
  · rw [owns] at owned
    exact (continues.entry id owned).trans (told.cleared unfollows id owned)
  · rw [owns] at owned
    refine (continues.entry id owned).trans (filling acted followed ?_ id owned)
    exact fun none => some (List.append_eq_nil_iff.mp none).2
  · rw [none, List.append_nil] at latest filling filled
    cases asks : job.query? with
    | none =>
      obtain ⟨seen, recorded, all⟩ := filled acted followed (by rw [asks]; rfl)
      have unasked : ¬ ∃ tap, job = .query tap ∧ tap.number = taps := by
        rintro ⟨tap, rfl, -⟩
        cases asks
      rw [← asks_iff acted job] at unasked
      refine ⟨seen, (if_neg unasked).symm ▸ recorded, fun id owned => ?_⟩
      obtain ⟨still, due⟩ := all id owned
      exact ⟨(owns id).mpr still, (continues.entry id still).trans due⟩
    | some tap =>
      rw [asks] at latest filling
      have number : tap.number = taps := latest.drop.2.mpr rfl
      have last : ∃ tap, job = .query tap ∧ tap.number = taps := by
        cases job <;> simp_all [Job.query?]
      rw [if_pos ((asks_iff acted job).mpr last)]
      refine ⟨store, rfl, fun id owned => ⟨(owns id).mpr owned, ?_⟩⟩
      exact (continues.entry id owned).trans (filling acted followed (by simp) id owned)
  · rw [owns] at unowned
    rw [(follow_served succeeds served).2.2]
    have unwritten : job.entry? id = none := by
      have sound := told.sound ⟨job, none⟩ (by simp)
      cases job with
      | entry tap other =>
        refine if_neg ?_
        rintro rfl
        exact unowned sound
      | _ => rfl
    rw [unwritten, Option.getD_none]
    exact told.kept id unowned

/-- The oldest request of the session ends. -/
private theorem Told.deliver {job : Job uid} {answer} {jobs : List (Job uid)}
    (told : Told start taps asked follows store app (⟨job, some answer⟩ :: last))
    (ends : Ends page store app after ⟨job, some answer⟩ last jobs) :
    Told start taps asked follows store after
      (last ++ issue (Job.call currentUid page) jobs) := by
  obtain ⟨signedIn, present, mine, ⟨-, edge, mirror, entry, shown⟩, moves⟩ := ends
  refine ⟨signedIn.trans told.signedIn, present, fun member => ?_, fun posted member => ?_,
    edge.trans told.edge, mirror.trans told.mirror, shown.trans told.shown, ?_,
    fun unfollows id owned => (entry id owned).trans (told.cleared unfollows id owned),
    fun acted followed some id owned => ?_, fun acted followed none => ?_, told.kept⟩
  · rw [List.map_append, jobs_issue] at member
    rcases List.mem_append.mp (List.mem_of_mem_tail member) with member | member
    · exact told.single member
    · exact (mine _ member).2.1 rfl
  · rcases List.mem_append.mp member with member | member
    · exact told.sound posted (List.mem_cons_of_mem _ member)
    · obtain ⟨listed, unanswered⟩ := mem_issue.mp member
      rcases posted with ⟨job, answer⟩
      obtain rfl : answer = none := unanswered
      exact (mine job listed).2.2
  · rw [moves]
    exact told.latest
  · rw [moves] at some
    exact (entry id owned).trans (told.filling acted followed some id owned)
  · rw [moves] at none
    obtain ⟨seen, recorded, all⟩ := told.filled acted followed none
    exact ⟨seen, recorded, fun id owned =>
      ⟨(all id owned).1, (entry id (all id owned).1).trans (all id owned).2⟩⟩

end Told

section Run

variable {currentUid uid : Uid} {page : Ref} {start : Network cloud App ℕ Unit}
  {watched next final : Watched} {inputs : List Input}

/-- The session is at work on the page's reads and on the taps. -/
def Working (currentUid uid : Uid) (page : Ref) (start : Cloud) (watched : Watched) : Prop :=
  ∃ (follows : Bool) (store : Cloud) (app : App)
    (work : List (FollowWork.Issued currentUid uid page)),
    watched.net = .working Job.origin store app work ∧
      Told start watched.taps watched.asked follows store app work

private theorem Opens.working (opens : Opens currentUid uid page start) :
    Working currentUid uid page start.store (opened page start) := by
  obtain ⟨app, running, signedIn, profile, found, about⟩ := opens.client
  have ran := viewDidLoad_run signedIn found about
  have same : (opened page start).net = .working Job.origin start.store app
      (issue (Job.call currentUid page) (reads : List (Job uid))) := by
    rw [opened, Network.eq_working (Job.call currentUid page : Job uid → _) Job.origin running
      opens.idle opens.quiet]
    refine Network.launch_working ran fun job member => ?_
    simp only [reads, List.mem_cons, List.not_mem_nil, or_false] at member
    rcases member with rfl | rfl | rfl <;> rfl
  have entries (postId : PostId) : entryDue start.store
      (issue (Job.call currentUid page) (reads : List (Job uid))) postId =
        start.store.has (.userFeed currentUid postId) := rfl
  refine ⟨start.store.has (.following currentUid uid), start.store, app, _, same, ?_⟩
  refine ⟨signedIn, ?_, ?_, ?_, rfl, ?_, rfl, .inl rfl, fun unfollows postId owned => ?_,
    fun acted => absurd acted (lt_irrefl 0), fun acted => absurd acted (lt_irrefl 0), fun _ _ => rfl⟩
  · rw [followed?, found]
    rfl
  · simp [reads]
  · intro posted member
    obtain ⟨listed, -⟩ := mem_issue.mp member
    rcases posted with ⟨job, answer⟩
    simp only [reads, List.mem_cons, List.not_mem_nil, or_false] at listed
    rcases listed with rfl | rfl | rfl <;> trivial
  · exact decide_eq_decide.mpr opens.agree.symm
  · rw [entries]
    exact decide_eq_false (opens.unfed (of_decide_eq_false unfollows) postId owned)

private theorem Working.step {input : Input} {origin : Cloud} (apart : currentUid ≠ uid)
    (working : Working currentUid uid page origin watched)
    (taken : step? uid page watched input = some next) :
    Working currentUid uid page origin next := by
  obtain ⟨net, taps, asked⟩ := watched
  obtain ⟨follows, store, app, work, rfl, told⟩ := working
  cases input with
  | tap user =>
    simp only [step?] at taken
    split_ifs at taken with about acting
    · obtain rfl := Option.some.inj taken
      obtain ⟨inside, known⟩ := Bool.and_eq_true_iff.mp acting
      obtain ⟨currentUser, known⟩ := Option.isSome_iff_exists.mp known
      have ran := tap_run apart told.signedIn (taps + 1) about inside known
      refine ⟨_, store, app, _, Network.launch_working ran fun job member => ?_, told.tap rfl⟩
      rw [List.mem_singleton.mp member]
      rfl
    · obtain rfl := Option.some.inj taken
      have ran : (ProfileController.onTapButtonFor page user).run app =
          ⟨some app, ([] : List (Job uid)).map (Job.call currentUid page), []⟩ :=
        tap_idle (Bool.eq_false_iff.mpr acting) user
      refine ⟨follows, store, app, work, ?_, told⟩
      rw [Network.launch_working ran nofun, issue_nil, List.append_nil]
  | upload postId data =>
    simp only [step?] at taken
    split_ifs at taken with unused
    obtain rfl := Option.some.inj taken
    exact ⟨follows, _, app, work, rfl, told.upload unused data⟩
  | signal signal =>
    obtain ⟨allowed, taken⟩ := Option.ite_none_right_eq_some.mp taken
    obtain ⟨net, moved, rfl⟩ := Option.map_eq_some_iff.mp taken
    rcases Network.signal_working moved with
      ⟨before, job, last, choice, later, answer, rfl, rfl, served, rfl⟩ |
      ⟨before, job, answer, last, rfl, rfl, rfl⟩
    · refine ⟨follows, later, app, _, rfl, ?_⟩
      have told := told.serve allowed.1.working_serve allowed.2 served
      simpa [asks, Posted.pending] using told
    · obtain rfl := allowed.1.working_deliver
      obtain ⟨after, jobs, ran, ends⟩ := ends_deliver apart told.signedIn told.present
        (fun posted member check => told.single (check ▸ List.mem_map_of_mem member)) job answer
        (told.sound _ (List.mem_cons_self ..))
      refine ⟨follows, store, after, _, Network.launch_working ran fun new member => ?_, ?_⟩
      · exact (ends.mine new member).1
      · exact told.deliver ends

/-- What the page, the documents of the follow and the feed are once nothing is in flight. -/
structure Refines (currentUid uid : Uid) (page : Ref) (watched : Watched) : Prop where
  shown : ∃ app ∈ watched.net.clients (), ∃ isFollowed ∈ followed? page app,
    isFollowed = true ↔ .following currentUid uid ∈ watched.net.store.firestore
  agree : .following currentUid uid ∈ watched.net.store.firestore ↔
    .follower uid currentUid ∈ watched.net.store.firestore
  cleared : .following currentUid uid ∉ watched.net.store.firestore → ∀ postId,
    OwnedBy watched.net.store.firestore uid postId →
      .userFeed currentUid postId ∉ watched.net.store.firestore
  filled : .following currentUid uid ∈ watched.net.store.firestore → 0 < watched.taps →
    ∃ seen ∈ watched.asked, ∀ postId, OwnedBy seen.firestore uid postId →
      .userFeed currentUid postId ∈ watched.net.store.firestore

/-- After any taps, however their requests overlap, the entries of other accounts' posts are those of
the start; and once nothing is in flight the page, the two documents and the feed are in keeping. -/
theorem followButton_refines (opens : Opens currentUid uid page start)
    (run : Run (fun watched input next => step? uid page watched input = some next)
      (opened page start) inputs final) :
    (∀ postId, ¬ OwnedBy final.net.store.firestore uid postId →
      (.userFeed currentUid postId ∈ final.net.store.firestore ↔
        .userFeed currentUid postId ∈ start.store.firestore)) ∧
    (final.net.flight = [] → Refines currentUid uid page final) := by
  obtain ⟨follows, store, app, work, same, told⟩ :=
    run.invariant opens.working fun taken working => working.step opens.apart taken
  obtain ⟨net, taps, asked⟩ := final
  subst same
  constructor
  · intro postId unowned
    exact decide_eq_decide.mp (told.kept postId unowned)
  · intro idle
    obtain rfl := Network.working_idle.mp idle
    have edge : store.has (.following currentUid uid) = follows := told.edge
    have mirror : store.has (.follower uid currentUid) = follows := told.mirror
    have following : .following currentUid uid ∈ store.firestore ↔ follows = true := by
      rw [← Cloud.has_iff, edge]
    refine ⟨⟨app, rfl, follows, told.shown, following.symm⟩, ?_, fun apart postId owned => ?_,
      fun followed acted => ?_⟩
    · exact decide_eq_decide.mp (edge.trans mirror.symm)
    · have none := told.cleared (Bool.eq_false_iff.mpr (mt following.mpr apart)) postId owned
      exact of_decide_eq_false none
    · obtain ⟨seen, recorded, all⟩ := told.filled acted (following.mp followed) rfl
      exact ⟨seen, recorded, fun postId owned => of_decide_eq_true (all postId owned).2⟩

end Run

section Examples

/-- The account of the page, as a header shows it. -/
def headed (isFollowed : Bool) : User := ⟨"", "", "", "", "v", ⟨0, 0, 0⟩, isFollowed⟩

/-- A page of an account with one post, and a feed with the post of another account. -/
def paged : Network cloud App ℕ Unit where
  store := { firestore := Finmap.insert (.userFeed "u" "q") .empty <|
      .singleton (.post "p") (.ofList [("ownerUid", .string "v")]) }
  clients _ := some
    { currentUser := some "u"
      user := some { headed false with uid := "u" }
      objects := [⟨.profile { user := headed false }, true⟩] }

private theorem paged_opens : Opens "u" "v" 0 paged := by
  refine ⟨by decide, rfl, rfl, ⟨_, rfl, rfl, _, rfl, rfl⟩, ?_, fun _ postId owned => ?_⟩
  · simp [paged, Finmap.mem_insert, Finmap.mem_singleton]
  · have stored := owned.mem
    simp only [paged, Finmap.mem_insert, Finmap.mem_singleton, DocumentReference.post.injEq,
      reduceCtorEq, false_or] at stored
    subst stored
    simp [paged, Finmap.mem_insert, Finmap.mem_singleton]

/-- The oldest request is answered with these posts, or draws this name. -/
def answer (order : List PostId) (fresh : String) : List Input :=
  [.signal (.serve 0 (.answer (order.map .post) fresh)), .signal (.deliver 0)]

/-- So are as many requests, with nothing. -/
def answers (count : ℕ) : List Input := (List.replicate count (answer [] "")).flatten

/-- Three taps follow, unfollow and follow again before anything is answered. -/
def thrice : List Input :=
  [.tap (headed false), .tap (headed true), .upload "r" (.ofList [("ownerUid", .string "v")]),
    .tap (headed false)] ++ answers 2 ++ answer ["p", "r"] "" ++ answers 7 ++ answer ["p", "r"] "" ++
    answer [] "n" ++ answer ["p", "r"] "" ++ answer ["p", "r"] "" ++ answer [] "m" ++
    answer ["p", "r"] "" ++ answers 6

/-- They refine what the taps say. -/
theorem followButton_refines_thrice :
    ∃ final, Run (fun watched input next => step? "v" 0 watched input = some next) (opened 0 paged)
        thrice final ∧ Refines "u" "v" 0 final := by
  have completes : (replay? (step? "v" 0) (opened 0 paged) thrice).any
      (fun final => decide (final.net.flight.isEmpty = true)) = true := by
    decide +kernel
  obtain ⟨final, run, idle⟩ := exists_run_of_replay? completes
  exact ⟨final, run, (followButton_refines paged_opens run).2 (List.isEmpty_iff.mp idle)⟩

end Examples

end FollowButton

end InstagramClone
