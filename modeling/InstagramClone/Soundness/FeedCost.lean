import InstagramClone.Soundness.FeedConvergence
import Mathlib.Algebra.Order.BigOperators.Group.List

/-! # What loading a feed costs

Each post that arrives has the likes of all the posts in its list checked again. So a load of a feed
asks once for the entries, once for the post of every entry, and `n (n + 1) / 2` times about likes
when `n` of the posts exist, in whatever order the answers come and however many loads overlap.
-/

namespace InstagramClone

open Async

namespace FeedCost

open FeedWork FeedConvergence

variable {currentUid : Uid} {page list : Ref} {now : Timestamp} {store : Cloud} {app later : App}
  {before after work : List (Posted (Job.call currentUid page))} {lists : List Ref}
  {delivered : List (ℕ × List Post)} {job : Job} {jobs others : List Job}

/-- How many checks of likes a list causes that grows to this length post by post. -/
def checking (length : ℕ) : ℕ := length * (length + 1) / 2

private theorem checking_succ (length : ℕ) :
    checking (length + 1) = checking length + (length + 1) := by
  have twice : (length + 1) * (length + 1 + 1) = length * (length + 1) + 2 * (length + 1) := by
    rw [Nat.mul_comm length, Nat.mul_comm 2, ← Nat.mul_add]
  rw [checking, twice, Nat.add_mul_div_left _ _ (by omega), checking]

private theorem checking_mono {first second : ℕ} (le : first ≤ second) :
    checking first ≤ checking second :=
  Nat.div_le_div_right (Nat.mul_le_mul le (by omega))

/-- The entries of the account's feed. -/
def entries (currentUid : Uid) (store : Cloud) : ℕ := store.firestore.count (.userFeeds currentUid)

/-- The entries whose post exists. -/
def existing (currentUid : Uid) (store : Cloud) : ℕ :=
  ((store.firestore.references (.userFeeds currentUid)).filter fun entry =>
    .post entry.documentID ∈ store.firestore).card

/-- The requests of one load. -/
def requests (currentUid : Uid) (store : Cloud) : ℕ :=
  1 + entries currentUid store + checking (existing currentUid store)

section Count

/-- The query for the entries of a feed. -/
def queries (call : Call firebase App) : Bool :=
  match call.request with
  | .getDocuments _ => true
  | _ => false

/-- How many requests in flight have not been served. -/
def unserved (work : List (Posted (Job.call currentUid page))) : ℕ :=
  work.countP fun posted => posted.answer.isNone

/-- How many queries for entries are in flight. -/
def asked (work : List (Posted (Job.call currentUid page))) : ℕ :=
  work.countP fun posted => queries (posted.job.call currentUid page)

/-- How many posts a captured list holds. -/
def held (app : App) (list : Ref) : ℕ := ((app.find? (List Post) list).getD []).length

private theorem held_eq {posts : List Post} (captured : app.find? (List Post) list = some posts) :
    held app list = posts.length := by
  rw [held, captured]
  rfl

/-- The checks that all lists have caused. -/
def checked (app : App) (lists : List Ref) : ℕ := (lists.map fun list => checking (held app list)).sum

/-- What was served, what is to be served, and what the queries in flight will lead to, is what the
loads cost that have come so far. -/
def Balanced (store : Cloud) (app : App) (work : List (Posted (Job.call currentUid page)))
    (lists : List Ref) (served : ℕ) : Prop :=
  served + unserved work + entries currentUid store * asked work =
    lists.length * (1 + entries currentUid store) + checked app lists

/-- Lists that hold as many posts as before have caused as many checks. -/
private theorem checked_congr (same : ∀ list ∈ lists, held later list = held app list) :
    checked later lists = checked app lists := by
  rw [checked, checked]
  congr 1
  exact List.map_congr_left fun list member => by rw [same list member]

/-- A list that got one more post has caused a check for each of its posts. -/
private theorem checked_grows (distinct : lists.Nodup) (member : list ∈ lists)
    (one : held later list = held app list + 1)
    (same : ∀ other ∈ lists, other ≠ list → held later other = held app other) :
    checked later lists = checked app lists + held later list := by
  have rest : checked later (lists.erase list) = checked app (lists.erase list) :=
    checked_congr fun other listed =>
      same other (List.mem_of_mem_erase listed) ((distinct.mem_erase_iff.mp listed).1)
  have before := List.sum_map_erase (fun list => checking (held app list)) member
  have after := List.sum_map_erase (fun list => checking (held later list)) member
  rw [checked, checked] at rest
  rw [checked, checked, ← before, ← after, rest, one, checking_succ]
  omega

end Count

section Steps

/-- The code of a job leads to one state and one list of requests. -/
private theorem effect_unique {effect : Effect firebase App} {next : App}
    (first : effect = ⟨some later, jobs.map (Job.call currentUid page), []⟩)
    (second : effect = ⟨some next, others.map (Job.call currentUid page), []⟩) :
    later = next ∧ jobs.map (Job.call currentUid page) = others.map (Job.call currentUid page) := by
  rw [first, Effect.mk.injEq] at second
  exact ⟨Option.some.inj second.1, second.2.1⟩

/-- What the end of a job does to the balance. -/
structure Pays (currentUid : Uid) (page : Ref) (store : Cloud) (job : Job) (app later : App)
    (lists : List Ref) (jobs : List Job) : Prop where
  balance : jobs.length + checked app lists =
    (if queries (job.call currentUid page) then entries currentUid store else 0) + checked later lists
  apart : ∀ other ∈ jobs, queries (other.call currentUid page) = false

/-- A check tells how many posts a list holds. -/
private theorem queries_checks {load : ℕ} {posts : List Post}
    (same : jobs.map (Job.call currentUid page) = (checks load posts).map (Job.call currentUid page)) :
    jobs.length = posts.length ∧ ∀ other ∈ jobs, queries (other.call currentUid page) = false := by
  constructor
  · simpa [checks] using congrArg List.length same
  · intro other member
    have listed : other.call currentUid page ∈ jobs.map (Job.call currentUid page) :=
      List.mem_map_of_mem member
    rw [same] at listed
    obtain ⟨check, among, called⟩ := List.mem_map.mp listed
    obtain ⟨post, -, rfl⟩ := List.mem_map.mp among
    rw [← called]
    rfl

private theorem held_display (posts : List Post) (list : Ref) :
    held (display page posts app) list = held app list := by
  rw [held, held, display, App.find?_modify_other fun _ => rfl]

private theorem held_hand_other {other : Ref} (apart : other ≠ list) (posts : List Post) :
    held (hand page list posts app) other = held app other := by
  rw [held, held, find?_hand_other apart]

/-- A job that issues nothing and leaves the lists as long as they are. -/
private theorem pays_of_nothing (same : jobs.map (Job.call currentUid page) = [])
    (reads : queries (job.call currentUid page) = false)
    (still : ∀ list ∈ lists, held later list = held app list) :
    Pays currentUid page store job app later lists jobs := by
  obtain rfl := List.map_eq_nil_iff.mp same
  exact ⟨by rw [checked_congr still, reads]; simp, by simp⟩

variable {answer : (job.call currentUid page).request.Response}

/-- The end of a job leaves what it adds to the requests in flight, and to the lists, in balance. -/
private theorem pays
    (loading : Loading now store app (before ++ ⟨job, some answer⟩ :: after) lists delivered)
    (ran : ((job.call currentUid page).callback answer).run app =
      ⟨some later, jobs.map (Job.call currentUid page), []⟩) :
    Pays currentUid page store job app later lists jobs := by
  obtain ⟨feed, found, all, -⟩ := loading.feed
  have right : Right store (⟨job, some answer⟩ : Posted (Job.call currentUid page)) :=
    loading.right (by simp)
  obtain ⟨list, posts, placed, captured, here⟩ := loading.load_of_mem
    (show (⟨job, some answer⟩ : Posted (Job.call currentUid page)) ∈ _ by simp)
  have place (ref) (member : ref ∈ job.list?) : ref = list :=
    Option.some.inj
      (((loading.captures.placed ⟨job, some answer⟩ (by simp)).2 ref member).symm.trans placed)
  have size {order : List DocumentReference} {documents : List Document}
      (answered : ({ collection := .userFeeds currentUid } : Query).answer? store.firestore order =
        some documents) : documents.length = entries currentUid store :=
    (Query.length_eq_selected answered).trans (Query.selected_collection ..)
  cases job with
  | feeds load ref =>
    obtain rfl := place ref rfl
    obtain ⟨order, documents, answered, rfl⟩ := right answer rfl
    obtain ⟨rfl, -, -⟩ := here.progress.feeds answered
    cases documents with
    | nil =>
      obtain ⟨rfl, same⟩ := effect_unique ran (feeds_run_nil loading.signedIn found all captured)
      obtain ⟨none, apart⟩ := queries_checks same
      have still (other : Ref) (_ : other ∈ lists) :
          held (hand page ref [] app) other = held app other := by
        by_cases mine : other = ref
        · rw [mine, held_eq captured, held_eq (find?_hand_list captured [])]
        · exact held_hand_other mine []
      refine ⟨?_, apart⟩
      rw [checked_congr still, none, ← size answered]
      simp
    | cons document documents =>
      obtain ⟨rfl, same⟩ := effect_unique ran (feeds_run_cons document documents)
      have length : jobs.length = (document :: documents).length := by
        simpa using congrArg List.length same
      refine ⟨?_, fun other member => ?_⟩
      · rw [length, size answered]
        rfl
      · have listed := List.mem_map_of_mem (f := Job.call currentUid page) member
        rw [same] at listed
        obtain ⟨fetch, among, called⟩ := List.mem_map.mp listed
        obtain ⟨document, -, rfl⟩ := List.mem_map.mp among
        rw [← called]
        rfl
  | post load ref postId =>
    obtain rfl := place ref rfl
    cases stored : store.firestore.lookup (.post postId) with
    | none =>
      obtain rfl : answer = .ok none := (right answer rfl).trans (by rw [stored])
      have ended : (((Job.post load ref postId).call currentUid page).callback (.ok none)).run app =
        ⟨some app, ([] : List Job).map (Job.call currentUid page), []⟩ := rfl
      obtain ⟨rfl, same⟩ := effect_unique ran ended
      exact pays_of_nothing same rfl fun _ _ => rfl
    | some data =>
      obtain rfl : answer = .ok (some data) := (right answer rfl).trans (by rw [stored])
      obtain ⟨rfl, same⟩ :=
        effect_unique ran (post_run loading.signedIn found all captured postId data)
      obtain ⟨length, apart⟩ := queries_checks same
      have grown : held (hand page ref (posts ++ [Post.ofDictionary app.now postId data]) app) ref =
          (posts ++ [Post.ofDictionary app.now postId data]).length :=
        held_eq (find?_hand_list captured _)
      have one : held (hand page ref (posts ++ [Post.ofDictionary app.now postId data]) app) ref =
          held app ref + 1 := by
        rw [grown, held_eq captured, List.length_append, List.length_singleton]
      have grows := checked_grows loading.captures.apart (List.mem_of_getElem? placed) one
        fun other _ distinct => held_hand_other distinct _
      refine ⟨?_, apart⟩
      rw [grows, length, ← grown]
      simp [queries, Job.call, Nat.add_comm]
  | like load postId =>
    obtain rfl := right answer rfl
    have ended : (((Job.like load postId).call currentUid page).callback
        (.ok (store.firestore.lookup (.userLike currentUid postId)))).run app =
          ⟨some (display page (mark.assign postId _ feed.posts) app),
            ([] : List Job).map (Job.call currentUid page), []⟩ := like_run found load postId _
    obtain ⟨rfl, same⟩ := effect_unique ran ended
    exact pays_of_nothing same rfl fun list _ => held_display _ list

end Steps

section Balance

variable {served : ℕ}

private theorem unserved_split (posted : Posted (Job.call currentUid page)) :
    unserved (before ++ posted :: after) =
      unserved (before ++ after) + if posted.answer.isNone then 1 else 0 := by
  simp only [unserved, List.countP_append, List.countP_cons]
  omega

private theorem asked_split (posted : Posted (Job.call currentUid page)) :
    asked (before ++ posted :: after) = asked (before ++ after) +
      if queries (posted.job.call currentUid page) then 1 else 0 := by
  simp only [asked, List.countP_append, List.countP_cons]
  omega

private theorem unserved_issue (jobs : List Job) :
    unserved (work ++ issue (Job.call currentUid page) jobs) = unserved work + jobs.length := by
  have all : (issue (Job.call currentUid page) jobs).countP
      (fun posted => posted.answer.isNone) = (issue (Job.call currentUid page) jobs).length := by
    refine List.countP_eq_length.mpr fun posted member => ?_
    rw [(mem_issue.mp member).2]
    rfl
  rw [unserved, List.countP_append, all, issue, List.length_map]
  rfl

private theorem asked_issue (apart : ∀ job ∈ jobs, queries (job.call currentUid page) = false) :
    asked (work ++ issue (Job.call currentUid page) jobs) = asked work := by
  have none : (issue (Job.call currentUid page) jobs).countP
      (fun posted => queries (posted.job.call currentUid page)) = 0 := by
    refine List.countP_eq_zero.mpr fun posted member => ?_
    simp [apart posted.job (mem_issue.mp member).1]
  rw [asked, List.countP_append, none]
  rfl

/-- A request that is served goes from one side to the other. -/
private theorem Balanced.serve {answer} (balanced : Balanced store app
      (before ++ (⟨job, none⟩ : Posted (Job.call currentUid page)) :: after) lists served) :
    Balanced store app (before ++ ⟨job, some answer⟩ :: after) lists (served + 1) := by
  rw [Balanced, unserved_split, asked_split] at balanced ⊢
  simp only [Option.isNone_none, Option.isNone_some, if_true, Bool.false_eq_true, if_false]
    at balanced ⊢
  omega

private theorem Balanced.deliver {answer} (balanced : Balanced store app
      (before ++ (⟨job, some answer⟩ : Posted (Job.call currentUid page)) :: after) lists served)
    (pays : Pays currentUid page store job app later lists jobs) :
    Balanced store later (before ++ after ++ issue (Job.call currentUid page) jobs) lists served := by
  obtain ⟨balance, apart⟩ := pays
  rw [Balanced, unserved_split, asked_split] at balanced
  rw [Balanced, unserved_issue, asked_issue apart]
  simp only [Option.isNone_some, Bool.false_eq_true, if_false, Nat.add_zero] at balanced
  split_ifs at balanced balance
  · rw [Nat.mul_add, Nat.mul_one] at balanced
    omega
  · rw [Nat.add_zero] at balanced
    omega

/-- A load adds its query, and an empty list. -/
private theorem Balanced.fetch (balanced : Balanced store app work lists served)
    (captures : Lists app work lists) :
    Balanced store (app.add (Instance.inject ([] : List Post)) false)
      (work ++ issue (Job.call currentUid page) [.feeds lists.length app.objects.length])
      (lists ++ [app.objects.length]) served := by
  have old : checked (app.add (Instance.inject ([] : List Post)) false) lists = checked app lists := by
    refine checked_congr fun list member => ?_
    obtain ⟨posts, captured⟩ := captures.captured list member
    rw [held_eq captured, held_eq (App.find?_add captured _ _)]
  have new : checked (app.add (Instance.inject ([] : List Post)) false) [app.objects.length] = 0 := by
    have empty : held (app.add (Instance.inject ([] : List Post)) false) app.objects.length = 0 :=
      held_eq (App.find?_add_new app ([] : List Post) false)
    simp [checked, empty, checking]
  have both : checked (app.add (Instance.inject ([] : List Post)) false)
      (lists ++ [app.objects.length]) = checked app lists := by
    rw [checked] at old new ⊢
    rw [List.map_append, List.sum_append, old, new, Nat.add_zero]
  have query : asked (work ++ issue (Job.call currentUid page)
      [.feeds lists.length app.objects.length]) = asked work + 1 := by
    rw [asked, asked, List.countP_append]
    rfl
  rw [Balanced] at balanced ⊢
  rw [unserved_issue, query, both, List.length_append, List.length_singleton, Nat.mul_add,
    Nat.add_mul, List.length_singleton]
  omega

end Balance

section Run

variable {start : Network cloud App ℕ Unit} {watched : Watched} {served : ℕ}
  {events : List (Event cloud Unit LoadAction)}

/-- The event is a load. -/
def loads : Event cloud Unit LoadAction → Bool
  | .act .. => true
  | .signal _ => false

/-- In the event a request is served. -/
def serves : Event cloud Unit LoadAction → Bool
  | .signal (.serve ..) => true
  | _ => false

/-- The session is at work on its loads, and the requests are in balance. -/
def Works (currentUid : Uid) (page : Ref) (now : Timestamp) (store : Cloud) (watched : Watched)
    (served : ℕ) : Prop :=
  ∃ app, ∃ work : List (Posted (Job.call currentUid page)), ∃ lists,
    watched.net = .working Job.load store app work ∧ watched.calls = lists.length ∧
    Loading now store app work lists watched.delivered ∧ Balanced store app work lists served

private theorem Works.act (works : Works currentUid page now store watched served)
    (action : LoadAction) :
    Works currentUid page now store { watched with
      net := watched.net.launch host watched.calls (action.perform page)
      calls := watched.calls + 1 } served := by
  obtain ⟨app, work, lists, same, counted, loading, balanced⟩ := works
  refine ⟨_, _, _, ?_, by simp [counted], loading.fetch, balanced.fetch loading.captures⟩
  rw [same, counted]
  exact loading.launch action

private theorem Works.signal {signal : Signal cloud}
    (works : Works currentUid page now store watched served) (allowed : succeeds signal = true)
    {later : Network cloud App ℕ Unit} (taken : watched.net.signal? host signal = some later) :
    Works currentUid page now store { watched with
        net := later
        delivered := watched.delivered ++ handed page watched.net later signal }
      (served + if serves (.signal signal) then 1 else 0) := by
  rcases watched with ⟨net, calls, delivered⟩
  obtain ⟨app, work, lists, rfl, counted, loading, balanced⟩ := works
  obtain ⟨after, rest, same, still, step⟩ := loading.signal allowed taken
  refine ⟨after, rest, lists, same, counted, still, ?_⟩
  rcases step with ⟨index, choice, first, job, answer, last, rfl, rfl, rfl, rfl⟩ |
    ⟨index, first, job, answer, last, jobs, rfl, rfl, ran, rfl⟩
  · exact balanced.serve
  · exact balanced.deliver (pays loading ran)

/-- A load's list never holds more posts than exist, and holds all when nothing is in flight. -/
private theorem held_le {load : ℕ} {delivered : List (ℕ × List Post)}
    (loading : Loading now store app work lists delivered) (placed : lists[load]? = some list) :
    held app list ≤ existing currentUid store ∧
      (work = [] → held app list = existing currentUid store) := by
  obtain ⟨posts, captured, here⟩ := loading.loads load list placed
  have progress := here.progress
  have size : held app list = ((posts.map Post.postId).toFinset.image
      (DocumentReference.userFeed currentUid)).card := by
    rw [Finset.card_image_of_injective _ fun first second same => by cases same; rfl,
      List.toFinset_card_of_nodup progress.nodup, List.length_map, held_eq captured]
  rw [size, existing]
  constructor
  · refine Finset.card_le_card fun entry member => ?_
    obtain ⟨id, among, rfl⟩ := Finset.mem_image.mp member
    obtain ⟨post, listed, rfl⟩ := List.mem_map.mp (List.mem_toFinset.mp among)
    obtain ⟨entry, data, stored, -⟩ := progress.listed post listed
    exact Finset.mem_filter.mpr
      ⟨Firestore.mem_references.mpr ⟨entry, rfl⟩, Finmap.mem_of_lookup_eq_some stored⟩
  · intro idle
    congr 1
    ext entry
    rw [Finset.mem_image, Finset.mem_filter, Firestore.mem_references]
    constructor
    · rintro ⟨id, among, rfl⟩
      obtain ⟨present, stored⟩ := (progress.complete idle id).mp (List.mem_toFinset.mp among)
      exact ⟨⟨present, rfl⟩, stored⟩
    · rintro ⟨⟨present, parent⟩, stored⟩
      have path : DocumentReference.userFeed currentUid entry.documentID = entry := by
        rw [← entry.parent_document, parent]
        rfl
      rw [← path] at present
      exact ⟨_, List.mem_toFinset.mpr ((progress.complete idle _).mpr ⟨present, stored⟩), path⟩

/-- In whatever order the answers come and however many loads overlap, the requests served are those
of the loads taken when nothing is in flight, and never more. -/
theorem feed_requests (opened : Opened currentUid page start)
    (run : Run (fun watched event next => loadStep? page watched event = some next) ⟨start, 0, []⟩
      events watched) :
    events.countP serves ≤ events.countP loads * requests currentUid start.store ∧
      (watched.net.flight = [] →
        events.countP serves = events.countP loads * requests currentUid start.store) := by
  obtain ⟨app, running, signedIn, empty⟩ := opened.client
  have works : Works currentUid page app.now start.store watched (events.countP serves) ∧
      watched.calls = events.countP loads := by
    refine run.history (fun past watched =>
      Works currentUid page app.now start.store watched (past.countP serves) ∧
        watched.calls = past.countP loads) ⟨⟨app, [], [],
        Network.eq_working _ _ running opened.idle opened.quiet, rfl, ⟨signedIn, rfl,
        ⟨.nil, by simp, by simp⟩, by simp, fun _ _ => rfl, ⟨[], none⟩, empty, rfl,
        by simp [Flag.Awaits], .inl ⟨rfl, rfl⟩⟩, by simp [Balanced, unserved, asked, checked]⟩, rfl⟩ ?_
    rintro past watched event next taken ⟨works, counted⟩
    rw [List.countP_append, List.countP_append, List.countP_singleton, List.countP_singleton,
      ← counted]
    cases event with
    | act client action =>
      obtain rfl := Option.some.inj taken
      exact ⟨works.act action, rfl⟩
    | signal signal =>
      simp only [loadStep?] at taken
      split_ifs at taken with allowed
      obtain ⟨later, sent, rfl⟩ := Option.map_eq_some_iff.mp taken
      exact ⟨works.signal allowed sent, rfl⟩
  obtain ⟨⟨later, work, lists, same, counted, loading, balanced⟩, taken⟩ := works
  rw [Balanced, ← counted, taken] at balanced
  have each (amount) (member : amount ∈ lists.map fun list => checking (held later list)) :
      amount ≤ checking (existing currentUid start.store) ∧
        (work = [] → amount = checking (existing currentUid start.store)) := by
    obtain ⟨list, listed, rfl⟩ := List.mem_map.mp member
    obtain ⟨load, placed⟩ := List.getElem?_of_mem listed
    obtain ⟨le, full⟩ := held_le loading placed
    exact ⟨checking_mono le, fun idle => by rw [full idle]⟩
  have size : (lists.map fun list => checking (held later list)).length = events.countP loads := by
    rw [List.length_map, ← counted, taken]
  rw [requests, Nat.mul_add]
  constructor
  · have bound := List.sum_le_card_nsmul _ _ fun amount member => (each amount member).1
    rw [size, Nat.nsmul_eq_mul, ← checked] at bound
    omega
  · intro idle
    rw [same] at idle
    obtain rfl := Network.working_idle.mp idle
    have total := List.sum_eq_card_nsmul _ _ fun amount member => (each amount member).2 rfl
    rw [size, Nat.nsmul_eq_mul, ← checked] at total
    simp only [unserved, asked, List.countP_nil, Nat.mul_zero, Nat.add_zero] at balanced
    omega

/-- A load and a refresh overlap on a feed of two posts: together they take twelve requests. -/
theorem feed_requests_overlapping :
    ∃ watched, Run (fun watched event next => loadStep? 0 watched event = some next)
        ⟨unloaded, 0, []⟩ overlapping watched ∧ overlapping.countP serves = 12 ∧
      overlapping.countP serves = overlapping.countP loads * requests "u" unloaded.store := by
  have completes : (replay? (loadStep? 0) ⟨unloaded, 0, []⟩ overlapping).any (fun watched =>
      decide (watched.net.flight.isEmpty = true)) = true := by
    decide +kernel
  obtain ⟨watched, run, idle⟩ := exists_run_of_replay? completes
  obtain ⟨-, exactly⟩ := feed_requests ⟨rfl, rfl, _, rfl, rfl, rfl⟩ run
  exact ⟨watched, run, rfl, exactly (List.isEmpty_iff.mp idle)⟩

end Run

end FeedCost

end InstagramClone
