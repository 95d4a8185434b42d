import InstagramClone.Soundness.FeedWork

/-! # Overlapping loads of a feed over a store at rest

Every post that arrives replaces the whole list with its flags reset and asks anew about the likes
of all its posts, and the answers find their post by its id in whatever list is there by then. In
every order of answers the lists that one load delivers grow post by post, and the feed ends up with
each of its existing posts once and with the right flags.
-/

namespace InstagramClone

open Async

namespace FeedConvergence

open FeedWork

variable {currentUid : Uid} {page : Ref} {now : Timestamp} {store : Cloud} {app : App}
  {work before after : List (Posted (Job.call currentUid page))} {load : ℕ} {posts : List Post}

section Load

/-- How far a load has come, and the lists it has delivered: each is the one before with one more
post, and the last is what the load's list holds. -/
structure Load (now : Timestamp) (store : Cloud) (work : List (Posted (Job.call currentUid page)))
    (load : ℕ) (delivered : List (List Post)) (posts : List Post) : Prop where
  progress : Progress now store work load posts
  grows : delivered.IsChain fun shorter longer => ∃ post, longer = shorter ++ [post]
  last : ∀ list ∈ delivered.getLast?, list = posts
  fresh : delivered = [] ∨ asking load work = 0

variable {delivered : List (List Post)}

private theorem Load.congr {rest : List (Posted (Job.call currentUid page))}
    (here : Load now store work load delivered posts)
    (progress : Progress now store rest load posts) (asks : asking load rest ≤ asking load work) :
    Load now store rest load delivered posts :=
  ⟨progress, here.grows, here.last, here.fresh.imp_right fun none => by omega⟩

/-- A job that does nothing for the load ends. -/
private theorem Load.skip {posted : Posted (Job.call currentUid page)} {jobs : List Job}
    (here : Load now store (before ++ posted :: after) load delivered posts)
    (ended : posted.job.asks load = false ∧ posted.job.fetches? load = none)
    (issued : ∀ job ∈ jobs, job.asks load = false ∧ job.fetches? load = none) :
    Load now store (before ++ after ++ issue (Job.call currentUid page) jobs) load delivered posts :=
  here.congr (here.progress.skip ended issued) (asking_rest ended issued).le

/-- What a load delivers first is any list, and later lists have one more post. -/
private theorem Load.deliver {longer : List Post} (here : Load now store work load delivered posts)
    (extends_one : delivered = [] ∨ ∃ post, longer = posts ++ [post])
    {rest : List (Posted (Job.call currentUid page))} (asks : asking load rest = 0)
    (progress : Progress now store rest load longer) :
    Load now store rest load (delivered ++ [longer]) longer := by
  refine ⟨progress, here.grows.append (List.isChain_singleton _) ?_, by simp, .inr asks⟩
  rintro last lastIs next ⟨⟩
  rcases extends_one with rfl | ⟨post, rfl⟩
  · cases lastIs
  · exact ⟨post, by rw [here.last last lastIs]⟩

end Load

section Loading

/-- What one load has delivered. -/
def deliveredBy (load : ℕ) (delivered : List (ℕ × List Post)) : List (List Post) :=
  (delivered.filter fun entry => entry.1 = load).map Prod.snd

@[simp] theorem deliveredBy_append (first second : List (ℕ × List Post)) :
    deliveredBy load (first ++ second) = deliveredBy load first ++ deliveredBy load second := by
  simp [deliveredBy]

private theorem deliveredBy_self (posts : List Post) :
    deliveredBy load [(load, posts)] = [posts] := by
  simp [deliveredBy]

private theorem deliveredBy_other {other : ℕ} (apart : other ≠ load) (posts : List Post) :
    deliveredBy load [(other, posts)] = [] := by
  simp [deliveredBy, apart]

/-- Each load has its own list, and the feed shows the list of one of them; every post that should
have its flag has it or waits for a check. -/
structure Loading (now : Timestamp) (store : Cloud) (app : App)
    (work : List (Posted (Job.call currentUid page))) (lists : List Ref)
    (delivered : List (ℕ × List Post)) : Prop where
  signedIn : app.currentUser = some currentUid
  clock : app.now = now
  captures : Lists app work lists
  loads : ∀ load list, lists[load]? = some list → ∃ posts, app.find? (List Post) list = some posts ∧
    Load now store work load (deliveredBy load delivered) posts
  future : ∀ load, lists.length ≤ load → deliveredBy load delivered = []
  feed : ∃ feed, app.find? FeedController page = some feed ∧ feed.post = none ∧
    mark.Awaits (truth currentUid store) (Checked work) feed.posts ∧
    (lists = [] ∧ feed.posts = [] ∨ ∃ (load : ℕ) (list : Ref), lists[load]? = some list ∧
      app.find? (List Post) list = some (feed.posts.map mark.clear))

variable {lists : List Ref} {delivered : List (ℕ × List Post)} {list : Ref}

theorem Loading.load_of_mem (loading : Loading now store app work lists delivered)
    {posted : Posted (Job.call currentUid page)} (member : posted ∈ work) :
    ∃ (list : Ref) (posts : List Post), lists[posted.job.load]? = some list ∧
      app.find? (List Post) list = some posts ∧
      Load now store work posted.job.load (deliveredBy posted.job.load delivered) posts := by
  have placed := List.getElem?_eq_getElem (loading.captures.placed posted member).1
  obtain ⟨posts, captured, here⟩ := loading.loads _ _ placed
  exact ⟨_, posts, placed, captured, here⟩

/-- The answers in flight are right. -/
theorem Loading.right (loading : Loading now store app work lists delivered)
    {posted : Posted (Job.call currentUid page)} (member : posted ∈ work) : Right store posted := by
  obtain ⟨list, posts, -, -, here⟩ := loading.load_of_mem member
  exact here.progress.right posted member rfl

/-- What the feed shows are distinct posts. -/
private theorem Loading.distinct (loading : Loading now store app work lists delivered)
    {feed : FeedController} (shown : app.find? FeedController page = some feed) :
    (feed.posts.map mark.key).Nodup := by
  obtain ⟨_, found, -, -, nothing | ⟨load, list, placed, showing⟩⟩ := loading.feed
  all_goals obtain rfl := Option.some.inj (found.symm.trans shown)
  · rw [nothing.2]
    exact List.nodup_nil
  · obtain ⟨posts, captured, here⟩ := loading.loads load list placed
    obtain rfl := Option.some.inj (captured.symm.trans showing)
    have nodup := here.progress.nodup
    rw [List.map_map] at nodup
    exact nodup

private theorem Loading.serve {job : Job} {choice : Choice} {later : Cloud} {answer}
    (loading : Loading now store app (before ++ ⟨job, none⟩ :: after) lists delivered)
    (succeeds : choice.succeeds = true)
    (served : cloud.serve choice store (job.call currentUid page).request = some (later, answer)) :
    later = store ∧ Loading now store app (before ++ ⟨job, some answer⟩ :: after) lists delivered := by
  obtain ⟨rfl, answered⟩ := right_serve succeeds served
  obtain ⟨feed, found, all, awaits, showing⟩ := loading.feed
  refine ⟨rfl, loading.signedIn, loading.clock, loading.captures.serve, fun load list placed => ?_,
    loading.future, feed, found, all, awaits.mono fun _ => Underway.serve, showing⟩
  obtain ⟨posts, captured, here⟩ := loading.loads load list placed
  exact ⟨posts, captured, here.congr (here.progress.serve answered) (by simp [asking])⟩

/-- A list that is delivered is shown without flags, and all its posts are checked. -/
private theorem Loading.hand {posted : Posted (Job.call currentUid page)} {shorter : List Post}
    (loading : Loading now store app (before ++ posted :: after) lists delivered)
    (placed : lists[posted.job.load]? = some list)
    (captured : app.find? (List Post) list = some shorter)
    (extends_one : deliveredBy posted.job.load delivered = [] ∨ ∃ post, posts = shorter ++ [post])
    (asks : asking posted.job.load (before ++ after ++ issue (Job.call currentUid page)
      (checks posted.job.load posts)) = 0)
    (progress : Progress now store (before ++ after ++ issue (Job.call currentUid page)
      (checks posted.job.load posts)) posted.job.load posts) :
    Loading now store (hand page list posts app) (before ++ after ++
      issue (Job.call currentUid page) (checks posted.job.load posts)) lists
      (delivered ++ [(posted.job.load, posts)]) := by
  obtain ⟨feed, found, all, -, -⟩ := loading.feed
  refine ⟨loading.signedIn, loading.clock, loading.captures.rest ?_ ?_, ?_, ?_, _,
    find?_hand_page found posts, all, progress.awaits _, .inr ⟨_, list, placed, ?_⟩⟩
  · intro job member
    obtain ⟨post, -, rfl⟩ := List.mem_map.mp member
    exact ⟨rfl, nofun⟩
  · exact fun other member => captured_hand (loading.captures.captured other member) posts
  · intro load other placedOther
    by_cases mine : load = posted.job.load
    · subst mine
      obtain rfl := Option.some.inj (placed.symm.trans placedOther)
      obtain ⟨_, held, here⟩ := loading.loads _ list placed
      obtain rfl := Option.some.inj (held.symm.trans captured)
      refine ⟨posts, find?_hand_list captured posts, ?_⟩
      rw [deliveredBy_append, deliveredBy_self]
      exact here.deliver extends_one asks progress
    · have distinct : other ≠ list := by
        rintro rfl
        exact mine (loading.captures.unique placedOther placed)
      obtain ⟨others, held, here⟩ := loading.loads load other placedOther
      refine ⟨others, by rw [find?_hand_other distinct, held], ?_⟩
      rw [deliveredBy_append, deliveredBy_other (Ne.symm mine), List.append_nil]
      exact here.skip (Job.apart (Ne.symm mine)) fun job member => Job.apart_of_checks member load
  · intro load later
    have apart : posted.job.load ≠ load := by
      have bound := (loading.captures.placed posted (by simp)).1
      omega
    rw [deliveredBy_append, deliveredBy_other apart, loading.future load later, List.append_nil]
  · rw [find?_hand_list captured, progress.cleared]

/-- A job of a load ends that changes nothing on the device. -/
private theorem Loading.pass {posted : Posted (Job.call currentUid page)} {jobs : List Job}
    (loading : Loading now store app (before ++ posted :: after) lists delivered)
    (mine : ∀ job ∈ jobs, job.load = posted.job.load ∧ ∀ list ∈ job.list?, list ∈ posted.job.list?)
    (unchecked : ∀ load id, posted.job ≠ .like load id)
    (later : ∀ {delivered posts}, Load now store (before ++ posted :: after) posted.job.load delivered
      posts → Load now store (before ++ after ++ issue (Job.call currentUid page) jobs)
        posted.job.load delivered posts) :
    Loading now store app (before ++ after ++ issue (Job.call currentUid page) jobs) lists
      delivered := by
  obtain ⟨feed, found, all, awaits, showing⟩ := loading.feed
  refine ⟨loading.signedIn, loading.clock, loading.captures.rest mine loading.captures.captured,
    fun load list placed => ?_, loading.future, feed, found, all,
    awaits.mono fun id checked => (checked.rest fun ⟨load, same⟩ => unchecked load id same).append _,
    showing⟩
  obtain ⟨posts, captured, here⟩ := loading.loads load list placed
  refine ⟨posts, captured, ?_⟩
  by_cases same : load = posted.job.load
  · subst same
    exact later here
  · refine here.skip (Job.apart (Ne.symm same)) fun job member => Job.apart ?_
    rw [(mine job member).1]
    exact Ne.symm same

/-- The answer to a check sets the flag of its post, in whatever list is there. -/
private theorem Loading.set_flag {postId : PostId} {snapshot : Option Dictionary}
    (loading : Loading now store app (before ++ ⟨.like load postId, some (.ok snapshot)⟩ :: after)
      lists delivered) :
    ∃ later, (((Job.like load postId).call currentUid page).callback (.ok snapshot)).run app =
        ⟨some later, [], []⟩ ∧ Loading now store later (before ++ after) lists delivered := by
  obtain ⟨feed, found, all, awaits, showing⟩ := loading.feed
  have right : Right store (⟨.like load postId, some (.ok snapshot)⟩ :
      Posted (Job.call currentUid page)) := loading.right (by simp)
  obtain rfl : snapshot = store.firestore.lookup (.userLike currentUid postId) :=
    Except.ok.inj (right _ rfl)
  have other_list (list : Ref) (posts : List Post) :
      (display page posts app).find? (List Post) list = app.find? (List Post) list :=
    App.find?_modify_other (fun _ => rfl) ..
  have issued : ∀ job ∈ ([] : List Job), job.load = load ∧ ∀ list ∈ job.list?, list ∈
      (Job.like load postId).list? := nofun
  have captures (posts : List Post) : Lists (display page posts app)
      (before ++ after ++ issue (Job.call currentUid page) []) lists :=
    loading.captures.rest issued fun list listed => by
      rw [other_list]
      exact loading.captures.captured list listed
  rw [issue_nil, List.append_nil] at captures
  refine ⟨_, like_run found load postId _, loading.signedIn, loading.clock, captures _,
    fun other list placed => ?_, loading.future, _, find?_display found _, all,
    awaits_assign awaits (loading.distinct found) (isSome_lookup ..), ?_⟩
  · obtain ⟨posts, captured, here⟩ := loading.loads other list placed
    have nothing : ∀ job ∈ ([] : List Job), job.asks other = false ∧ job.fetches? other = none :=
      nofun
    exact ⟨posts, by rw [other_list, captured], by simpa using here.skip ⟨rfl, rfl⟩ nothing⟩
  · refine showing.imp (fun ⟨unloaded, empty⟩ => ⟨unloaded, by simp [empty]⟩) ?_
    rintro ⟨other, list, placed, held⟩
    refine ⟨other, list, placed, ?_⟩
    rw [other_list, held, Flag.map_clear_assign]

/-- Every load allocates a list of its own. -/
theorem Loading.fetch (loading : Loading now store app work lists delivered) :
    Loading now store (app.add (Instance.inject ([] : List Post)) false)
      (work ++ issue (Job.call currentUid page) [.feeds lists.length app.objects.length])
      (lists ++ [app.objects.length]) delivered := by
  obtain ⟨feed, found, all, awaits, showing⟩ := loading.feed
  have earlier {load : ℕ} {list : Ref} (placed : lists[load]? = some list) :
      (lists ++ [app.objects.length])[load]? = some list := by
    rw [List.getElem?_append_left (List.getElem?_eq_some_iff.mp placed).1, placed]
  have old (posted) (member : posted ∈ work) : posted.job.load ≠ lists.length :=
    ne_of_lt (loading.captures.placed posted member).1
  have fresh := loading.future lists.length le_rfl
  refine ⟨loading.signedIn, loading.clock, loading.captures.fetch, fun load list placed => ?_,
    fun load later => loading.future load ?_, feed, App.find?_add found _ _, all, awaits.mono ?_,
    .inr ?_⟩
  · rw [List.getElem?_append] at placed
    split_ifs at placed with bound
    · obtain ⟨posts, captured, here⟩ := loading.loads load list placed
      refine ⟨posts, App.find?_add captured _ _, ?_⟩
      have issued : (Job.feeds lists.length app.objects.length).asks load = false ∧
          (Job.feeds lists.length app.objects.length).fetches? load = none :=
        Job.apart (ne_of_gt bound)
      refine here.congr (here.progress.congr (fun posted member mine => ?_) ?_ ?_) ?_
      · rcases List.mem_append.mp member with member | member
        · exact here.progress.right posted member mine
        · obtain rfl := List.mem_singleton.mp member
          exact nofun
      · simp [asking, issued.1]
      · simp [fetching, issued.2]
      · simp [asking, issued.1]
    · obtain ⟨bound, rfl⟩ := List.getElem?_eq_some_iff.mp placed
      obtain rfl : load = lists.length := by
        rw [List.length_singleton] at bound
        omega
      refine ⟨[], by simpa using App.find?_add_new app ([] : List Post) false, ?_⟩
      rw [fresh]
      exact ⟨Progress.start _ old, .nil, by simp, .inl rfl⟩
  · rw [List.length_append] at later
    omega
  · exact fun id checked => checked.append _
  · rcases showing with ⟨rfl, empty⟩ | ⟨load, list, placed, held⟩
    · refine ⟨0, app.objects.length, rfl, ?_⟩
      rw [empty]
      exact App.find?_add_new app ([] : List Post) false
    · exact ⟨load, list, earlier placed, App.find?_add held _ _⟩

end Loading

section Run

/-- The answer makes `fetchFeedPosts` deliver its list. -/
def delivers : Pending firebase App ℕ → Bool
  | ⟨_, ⟨.getDocuments _, _⟩, some (.ok [])⟩ => true
  | ⟨_, ⟨.getDocument (.post _), _⟩, some (.ok (some _))⟩ => true
  | _ => false

/-- The lists that a signal makes a load deliver; the feed shows what is delivered. -/
def handed (page : Ref) (net next : Network cloud App ℕ Unit) : Signal cloud → List (ℕ × List Post)
  | .deliver index =>
    (net.flight[index]?.toList.filter delivers).map fun pending => (pending.origin, shown page next)
  | _ => []

/-- A network with the number of loads and all that they delivered, each with the load it is of. -/
structure Watched where
  net : Network cloud App ℕ Unit
  calls : ℕ := 0
  delivered : List (ℕ × List Post) := []

/-- One step: a load, which is an origin of its own, or a signal without a failure, in any order. -/
def loadStep? (page : Ref) (watched : Watched) (event : Event cloud Unit LoadAction) :
    Option Watched :=
  match event with
  | .act _ action => some { watched with
      net := watched.net.launch host watched.calls (action.perform page)
      calls := watched.calls + 1 }
  | .signal signal =>
    if succeeds signal then
      (watched.net.signal? host signal).map fun next => { watched with
        net := next
        delivered := watched.delivered ++ handed page watched.net next signal }
    else none

variable {start : Network cloud App ℕ Unit} {watched next : Watched}
  {events : List (Event cloud Unit LoadAction)} {lists : List Ref}

/-- What the delivery of a job's answer hands over. -/
private theorem handed_deliver {job : Job} {answer} (next : Network cloud App ℕ Unit) :
    handed page (.working Job.load store app (before ++ ⟨job, some answer⟩ :: after)) next
      (.deliver before.length) =
      if delivers ((⟨job, some answer⟩ : Posted (Job.call currentUid page)).pending Job.load) then
        [(job.load, shown page next)] else [] := by
  rw [handed, Network.working_getElem?, Option.toList_some]
  cases delivered :
    delivers ((⟨job, some answer⟩ : Posted (Job.call currentUid page)).pending Job.load)
  all_goals
    simp only [List.filter_cons, delivered, List.filter_nil]
    rfl

variable {delivered : List (ℕ × List Post)}

/-- What a callback does to the loads: it issues jobs of its own load, and what it delivers is
what the feed shows then. -/
private theorem Loading.deliver {job : Job} {answer}
    (loading : Loading now store app (before ++ ⟨job, some answer⟩ :: after) lists delivered) :
    ∃ later jobs feed, ((job.call currentUid page).callback answer).run app =
        ⟨some later, jobs.map (Job.call currentUid page), []⟩ ∧
      (∀ other ∈ jobs, other.load = job.load) ∧
      later.find? FeedController page = some feed ∧
      Loading now store later (before ++ after ++ issue (Job.call currentUid page) jobs) lists
        (delivered ++ if delivers ((⟨job, some answer⟩ :
            Posted (Job.call currentUid page)).pending Job.load) then [(job.load, feed.posts)]
          else []) := by
  obtain ⟨feed, found, all, -⟩ := loading.feed
  have right : Right store (⟨job, some answer⟩ : Posted (Job.call currentUid page)) :=
    loading.right (by simp)
  obtain ⟨list, posts, placed, captured, here⟩ := loading.load_of_mem
    (show (⟨job, some answer⟩ : Posted (Job.call currentUid page)) ∈ _ by simp)
  have place (ref) (member : ref ∈ job.list?) : ref = list :=
    Option.some.inj
      (((loading.captures.placed ⟨job, some answer⟩ (by simp)).2 ref member).symm.trans placed)
  cases job with
  | feeds load ref =>
    obtain rfl := place ref rfl
    obtain ⟨order, documents, answered, rfl⟩ := right answer rfl
    obtain ⟨rfl, asks, progress⟩ := here.progress.feeds answered
    cases documents with
    | nil =>
      have first : deliveredBy load delivered = [] := by
        refine here.fresh.resolve_right ?_
        simp [asking, Job.asks, Job.load]
      exact ⟨_, _, _, feeds_run_nil loading.signedIn found all captured, by simp [checks],
        find?_hand_page found [], loading.hand placed captured (.inl first) asks progress⟩
    | cons document documents =>
      refine ⟨_, _, feed, feeds_run_cons document documents, by simp [Job.load], found, ?_⟩
      have passed : Loading now store app (before ++ after ++ issue (Job.call currentUid page)
          ((document :: documents).map fun document => .post load ref document.documentID)) lists
          delivered := loading.pass ?_ (by simp) ?_
      · simpa [delivers, Posted.pending, Job.call] using passed
      · rintro _ member
        obtain ⟨document, -, rfl⟩ := List.mem_map.mp member
        exact ⟨rfl, fun _ => id⟩
      · rintro delivered posts (here : Load now store _ load delivered posts)
        obtain ⟨rfl, asks, progress⟩ := here.progress.feeds answered
        exact here.congr progress (by omega)
  | post load ref postId =>
    obtain rfl := place ref rfl
    cases stored : store.firestore.lookup (.post postId) with
    | none =>
      obtain rfl : answer = .ok none := (right answer rfl).trans (by rw [stored])
      refine ⟨app, [], feed, rfl, by simp, found, ?_⟩
      have passed : Loading now store app (before ++ after ++ issue (Job.call currentUid page) [])
          lists delivered := loading.pass (by simp) (by simp) ?_
      · simpa [delivers, Posted.pending, Job.call] using passed
      · rintro delivered posts (here : Load now store _ load delivered posts)
        rw [issue_nil, List.append_nil]
        exact here.congr here.progress.gone (by simp [asking, Job.asks])
    | some data =>
      obtain rfl : answer = .ok (some data) := (right answer rfl).trans (by rw [stored])
      have issued (job) (member : job ∈ checks load (posts ++ [Post.ofDictionary now postId data])) :=
        Job.apart_of_checks member load
      have progress := here.progress.post issued
      have none := (progress.stage.resolve_left (by simp)).1
      obtain rfl := loading.clock
      exact ⟨_, _, _, post_run loading.signedIn found all captured postId data,
        fun _ => Job.load_of_checks, find?_hand_page found _,
        loading.hand placed captured (.inr ⟨_, rfl⟩) none progress⟩
  | like load postId =>
    obtain rfl := right answer rfl
    obtain ⟨later, ran, set⟩ := loading.set_flag
    obtain ⟨feed, found, -⟩ := set.feed
    refine ⟨later, [], feed, ran, by simp, found, ?_⟩
    simpa [delivers, Posted.pending, Job.call] using set

/-- A load of the session allocates its list and asks for the entries. -/
theorem Loading.launch (loading : Loading now store app work lists delivered)
    (action : LoadAction) : (.working Job.load store app work : Network cloud App ℕ Unit).launch host
      lists.length (action.perform page) =
        .working Job.load store (app.add (Instance.inject ([] : List Post)) false)
          (work ++ issue (Job.call currentUid page) [.feeds lists.length app.objects.length]) := by
  obtain ⟨feed, found, all, -⟩ := loading.feed
  have ran : (action.perform page).run app =
      ⟨some (app.add (Instance.inject ([] : List Post)) false),
        [Job.feeds lists.length app.objects.length].map (Job.call currentUid page), []⟩ := by
    cases action <;> exact fetch_run loading.signedIn found all lists.length
  exact Network.launch_working ran (by simp [Job.load])

/-- What a signal does to the loads: a request is answered, or a job ends. -/
theorem Loading.signal {signal : Signal cloud} (loading : Loading now store app work lists delivered)
    (allowed : succeeds signal = true) {later : Network cloud App ℕ Unit}
    (taken : (.working Job.load store app work : Network cloud App ℕ Unit).signal? host signal =
      some later) :
    ∃ after rest, later = .working Job.load store after rest ∧
      Loading now store after rest lists (delivered ++
        handed page (.working Job.load store app work) later signal) ∧
      ((∃ index choice first job answer last, signal = .serve index choice ∧
          work = first ++ ⟨job, none⟩ :: last ∧ rest = first ++ ⟨job, some answer⟩ :: last ∧
          after = app) ∨
        ∃ index first job answer last jobs, signal = .deliver index ∧
          work = first ++ ⟨job, some answer⟩ :: last ∧
          ((job.call currentUid page).callback answer).run app =
            ⟨some after, jobs.map (Job.call currentUid page), []⟩ ∧
          rest = first ++ last ++ issue (Job.call currentUid page) jobs) := by
  rcases Network.signal_working taken with
    ⟨first, job, last, choice, later, answer, rfl, rfl, served, rfl⟩ |
    ⟨first, job, answer, last, rfl, rfl, rfl⟩
  · obtain ⟨rfl, served⟩ := loading.serve allowed served
    refine ⟨app, _, rfl, by simpa [handed] using served, .inl ?_⟩
    exact ⟨_, choice, first, job, answer, last, rfl, rfl, rfl, rfl⟩
  · obtain ⟨later, jobs, feed, ran, mine, found, delivered⟩ := loading.deliver
    have launched : (Network.working Job.load store app (first ++ last) :
        Network cloud App ℕ Unit).launch host job.load
          ((job.call currentUid page).callback answer) = _ := Network.launch_working ran mine
    refine ⟨later, _, launched, ?_, .inr ⟨_, first, job, answer, last, jobs, rfl, rfl, ran, rfl⟩⟩
    rw [handed_deliver, launched, shown_working found]
    exact delivered

/-- The session is at work on its loads. -/
def Works (currentUid : Uid) (page : Ref) (now : Timestamp) (store : Cloud) (watched : Watched) :
    Prop :=
  ∃ app, ∃ work : List (Posted (Job.call currentUid page)), ∃ lists,
    watched.net = .working Job.load store app work ∧ watched.calls = lists.length ∧
    Loading now store app work lists watched.delivered

private theorem Works.act (works : Works currentUid page now store watched) (action : LoadAction) :
    Works currentUid page now store { watched with
      net := watched.net.launch host watched.calls (action.perform page)
      calls := watched.calls + 1 } := by
  obtain ⟨app, work, lists, same, counted, loading⟩ := works
  refine ⟨_, _, _, ?_, by simp [counted], loading.fetch⟩
  rw [same, counted]
  exact loading.launch action

private theorem Works.signal {signal : Signal cloud} (works : Works currentUid page now store watched)
    (allowed : succeeds signal = true) {later : Network cloud App ℕ Unit}
    (taken : watched.net.signal? host signal = some later) :
    Works currentUid page now store { watched with
      net := later
      delivered := watched.delivered ++ handed page watched.net later signal } := by
  rcases watched with ⟨net, calls, delivered⟩
  obtain ⟨app, work, lists, rfl, counted, loading⟩ := works
  obtain ⟨after, rest, same, loading, -⟩ := loading.signal allowed taken
  exact ⟨after, rest, lists, same, counted, loading⟩

/-- Whatever the order of answers, the lists that one load delivers grow by one post each, and after
a load the feed shows each of its existing posts once and with the right flag, once nothing is in
flight. -/
theorem feed_converges (opened : Opened currentUid page start)
    (run : Run (fun watched event next => loadStep? page watched event = some next) ⟨start, 0, []⟩
      events watched) :
    watched.net.store = start.store ∧
    (∀ load, (deliveredBy load watched.delivered).IsChain fun shorter longer =>
      ∃ post, longer = shorter ++ [post]) ∧
    ∃ app feed, watched.net.clients () = some app ∧
      app.find? FeedController page = some feed ∧
      (watched.net.flight = [] → (∃ action, .act () action ∈ events) →
        (feed.posts.map Post.postId).Nodup ∧
        (∀ id, id ∈ feed.posts.map Post.postId ↔ .userFeed currentUid id ∈ start.store.firestore ∧
          .post id ∈ start.store.firestore) ∧
        ∀ post ∈ feed.posts,
          (∃ data, start.store.firestore.lookup (.post post.postId) = some data ∧
            { post with didLike := false } = Post.ofDictionary app.now post.postId data) ∧
          (post.didLike = true ↔ .userLike currentUid post.postId ∈ start.store.firestore)) := by
  obtain ⟨app, running, signedIn, empty⟩ := opened.client
  have works : Works currentUid page app.now start.store watched ∧
      ((∃ action, .act () action ∈ events) → 0 < watched.calls) := by
    refine run.history (fun past watched => Works currentUid page app.now start.store watched ∧
      ((∃ action, .act () action ∈ past) → 0 < watched.calls)) ⟨⟨app, [], [],
        Network.eq_working _ _ running opened.idle opened.quiet, rfl, signedIn, rfl,
        ⟨.nil, by simp, by simp⟩, by simp, fun _ _ => rfl, ⟨[], none⟩, empty, rfl,
        by simp [Flag.Awaits], .inl ⟨rfl, rfl⟩⟩,
        by simp⟩ ?_
    rintro past watched event next taken ⟨works, started⟩
    cases event with
    | act client action =>
      obtain rfl := Option.some.inj taken
      exact ⟨works.act action, fun _ => Nat.succ_pos _⟩
    | signal signal =>
      simp only [loadStep?] at taken
      split_ifs at taken with allowed
      obtain ⟨later, sent, rfl⟩ := Option.map_eq_some_iff.mp taken
      exact ⟨works.signal allowed sent, fun acted => started (by simpa using acted)⟩
  obtain ⟨⟨later, work, lists, same, counted, loading⟩, started⟩ := works
  obtain ⟨feed, found, all, awaits, showing⟩ := loading.feed
  refine ⟨by rw [same]; rfl, fun load => ?_, later, feed, by rw [same]; rfl, found,
    fun idle begun => ?_⟩
  · rcases lt_or_ge load lists.length with bound | later
    · obtain ⟨posts, -, here⟩ := loading.loads load _ (List.getElem?_eq_getElem bound)
      exact here.grows
    · rw [loading.future load later]
      exact .nil
  · rw [same] at idle
    obtain rfl := Network.working_idle.mp idle
    have some_load := started begun
    obtain ⟨load, list, placed, showing⟩ := showing.resolve_left fun ⟨unloaded, _⟩ => by
      rw [counted, unloaded] at some_load
      exact lt_irrefl _ some_load
    obtain ⟨posts, captured, here⟩ := loading.loads load list placed
    obtain rfl := Option.some.inj (captured.symm.trans showing)
    have ids : (feed.posts.map mark.clear).map Post.postId = feed.posts.map Post.postId := by
      rw [List.map_map]
      rfl
    have complete := here.progress.complete rfl
    rw [ids] at complete
    refine ⟨loading.distinct found, complete, fun post member => ⟨?_, ?_⟩⟩
    · obtain ⟨-, data, stored, decoded⟩ :=
        here.progress.listed (mark.clear post) (List.mem_map_of_mem member)
      rw [loading.clock]
      exact ⟨data, stored, decoded⟩
    · have settled : post.didLike = truth currentUid start.store post :=
        awaits.settled (by simp [Checked]) member
      rw [settled, truth, Cloud.has_iff]

/-- Somebody with a feed of two posts, one of them liked, and a feed page. -/
def unloaded : Network cloud App ℕ Unit where
  store :=
    { firestore := (((((∅ : Firestore).insert (.userFeed "u" "a") .empty).insert
        (.userFeed "u" "b") .empty).insert (.post "a") .empty).insert (.post "b") .empty).insert
        (.userLike "u" "a") .empty }
  clients := fun _ => some { currentUser := some "u", objects := [⟨.feed {}, true⟩] }

/-- The page is refreshed before its first load is answered, and the answers overtake each
other. -/
def overlapping : List (Event cloud Unit LoadAction) :=
  let result : Choice := .answer [.userFeed "u" "a", .userFeed "u" "b"] ""
  let ok : Choice := .answer [] ""
  [.act () .viewDidLoad, .act () .onTapRefresh, .signal (.serve 1 result), .signal (.deliver 1),
    .signal (.serve 0 result), .signal (.deliver 0), .signal (.serve 0 ok), .signal (.serve 1 ok),
    .signal (.serve 2 ok), .signal (.serve 3 ok), .signal (.deliver 3), .signal (.deliver 2),
    .signal (.deliver 0), .signal (.deliver 0)] ++ drain (List.replicate 6 ok)

/-- A load and a refresh overlap, and the posts of the earlier one arrive last to first. -/
theorem feed_converges_overlapping :
    ∃ watched, Run (fun watched event next => loadStep? 0 watched event = some next)
        ⟨unloaded, 0, []⟩ overlapping watched ∧ watched.delivered.length = 4 ∧
      ∃ app feed, watched.net.clients () = some app ∧ app.find? FeedController 0 = some feed ∧
        (feed.posts.map Post.postId).Nodup ∧
        (∀ id, id ∈ feed.posts.map Post.postId ↔ .userFeed "u" id ∈ unloaded.store.firestore ∧
          .post id ∈ unloaded.store.firestore) ∧
        ∀ post ∈ feed.posts,
          (∃ data, unloaded.store.firestore.lookup (.post post.postId) = some data ∧
            { post with didLike := false } = Post.ofDictionary app.now post.postId data) ∧
          (post.didLike = true ↔ .userLike "u" post.postId ∈ unloaded.store.firestore) := by
  have completes : (replay? (loadStep? 0) ⟨unloaded, 0, []⟩ overlapping).any (fun watched =>
      decide (watched.net.flight.isEmpty = true ∧ watched.delivered.length = 4)) = true := by
    decide +kernel
  obtain ⟨watched, run, idle, count⟩ := exists_run_of_replay? completes
  obtain ⟨-, -, app, feed, running, found, ended⟩ := feed_converges ⟨rfl, rfl, _, rfl, rfl, rfl⟩ run
  exact ⟨watched, run, count, app, feed, running, found,
    ended (List.isEmpty_iff.mp idle) ⟨.viewDidLoad, List.mem_cons_self ..⟩⟩

end Run

end FeedConvergence

end InstagramClone
