import InstagramClone.Async.Flags
import InstagramClone.Async.Work
import InstagramClone.Controller.NotificationController
import InstagramClone.Soundness.MirroredDocuments

/-! # The notification list under overlapping loads

Every answer to a list query replaces the whole list, with its flags reset, and asks anew whether
the accounts of its follow rows are followed; a refresh empties the list at once. The answers to
these checks find their row by the id of the notification, in whatever list is there by then. In
every order of answers the list is empty or a result of the query, and it ends up as one with the
right flags.
-/

namespace InstagramClone

open Async

namespace NotificationLists

/-- What the list shows of an account's notifications. -/
def query (currentUid : Uid) : Query :=
  { collection := .userNotifications currentUid, orderBy := some "timestamp" }

/-- The rows for these documents, before any of them is checked. -/
def rows (now : Timestamp) (documents : List Document) : List Notification :=
  documents.map fun document => Notification.ofDictionary now document.data

/-- `userIsFollowed`, by the id of the notification. -/
def mark : Flag Notification String where
  key := Notification.id
  get := Notification.userIsFollowed
  set value notification := { notification with userIsFollowed := value }
  key_set _ _ := rfl
  get_set _ _ := rfl
  set_set _ _ _ := rfl

theorem setUserIsFollowed_eq : NotificationController.setUserIsFollowed = mark.assign := rfl

/-- A list request, or a check of the account of a follow row. -/
inductive Job where
  | list
  | check (id : String) (uid : Uid)

/-- The new list is shown and checked. -/
def loaded (page : Ref) (notifications : List Notification) : Code App :=
  .seq (Code.modify page fun _ : NotificationController => ⟨notifications⟩) <|
  NotificationController.checkIfUserIsFollowed page

def Job.call (currentUid : Uid) (page : Ref) : Job → Call firebase App
  | list => ⟨.getDocuments (query currentUid), fun
      | .error _ => .done
      | .ok documents => Code.withTimestamp fun now => loaded page (rows now documents)⟩
  | check id uid => ⟨.getDocument (.following currentUid uid), fun
      | .ok snapshot => Code.modify page fun controller : NotificationController =>
          ⟨NotificationController.setUserIsFollowed id snapshot.isSome controller.notifications⟩
      | .error _ => .done⟩

/-- The check of a row, if it is a follow row. -/
def checks (notification : Notification) : List Job :=
  if notification.type = .follow then [.check notification.id notification.uid] else []

variable {currentUid : Uid} {page : Ref} {app : App} {controller : NotificationController}

section Actions

private theorem fetch_run (signedIn : app.currentUser = some currentUid) :
    (NotificationController.fetchNotifications page).run app =
      ⟨some app, [Job.list].map (Job.call currentUid page), []⟩ := by
  rw [NotificationController.fetchNotifications, NotificationService.fetchNotifications,
    Code.run_withCurrentUser signedIn, Code.run_call, List.map_singleton]
  congr 2

/-- The check of one row. -/
private theorem check_run (signedIn : app.currentUser = some currentUid)
    (notification : Notification) :
    (if notification.type = .follow then
      UserService.isUserFollowed notification.uid fun isFollowed =>
        Code.modify page fun controller : NotificationController =>
          ⟨NotificationController.setUserIsFollowed notification.id isFollowed
            controller.notifications⟩
      else .done : Code App).run app =
      ⟨some app, (checks notification).map (Job.call currentUid page), []⟩ := by
  by_cases follow : notification.type = .follow
  · simp only [follow, if_true, checks]
    rw [UserService.isUserFollowed, Code.run_withCurrentUser signedIn, Code.run_call,
      List.map_singleton, Job.call]
    congr 3
    funext answer
    cases answer <;> rfl
  · simp only [follow, if_false, checks]
    rfl

/-- Showing a list asks about all its follow rows. -/
private theorem loaded_run (signedIn : app.currentUser = some currentUid)
    (shown : app.find? NotificationController page = some controller)
    (notifications : List Notification) : (loaded page notifications).run app =
      ⟨some (app.modify page fun _ : NotificationController => ⟨notifications⟩),
        (notifications.flatMap checks).map (Job.call currentUid page), []⟩ := by
  have found : (app.modify page fun _ : NotificationController => ⟨notifications⟩).find?
      NotificationController page = some ⟨notifications⟩ := by
    rw [App.find?_modify, shown]
    rfl
  rw [loaded, Code.modify, Program.update_seq, Program.done_seq, Program.run_update,
    NotificationController.checkIfUserIsFollowed, Code.withObject, Program.run_inspect, found,
    List.map_flatMap]
  have still : (app.modify page fun _ : NotificationController => ⟨notifications⟩).currentUser =
      some currentUid := signedIn
  exact Program.run_forEach fun notification _ => check_run still notification

end Actions

section Rows

variable {now : Timestamp} {store : Cloud} {notifications : List Notification}

/-- Up to its flags, the list is a result of the query in its order. -/
def Result (currentUid : Uid) (now : Timestamp) (store : Cloud)
    (notifications : List Notification) : Prop :=
  ∃ order documents, (query currentUid).answer? store.firestore order = some documents ∧
    notifications.map mark.clear = rows now documents

/-- The flag that a row should have. -/
def truth (currentUid : Uid) (store : Cloud) (notification : Notification) : Bool :=
  decide (notification.type = .follow) && store.has (.following currentUid notification.uid)

/-- The row is, up to its flag, that of a stored notification. -/
def Stored (currentUid : Uid) (now : Timestamp) (store : Cloud) (notification : Notification) :
    Prop :=
  ∃ id data, store.firestore.lookup (.notification currentUid id) = some data ∧
    mark.clear notification = Notification.ofDictionary now data

/-- Notifications are stored under distinct ids, also by their `id` entries. -/
def DistinctIds (currentUid : Uid) (store : Cloud) : Prop :=
  ∀ first second firstData secondData,
    store.firestore.lookup (.notification currentUid first) = some firstData →
    store.firestore.lookup (.notification currentUid second) = some secondData →
    firstData.string "id" = secondData.string "id" → first = second

/-- Rows with one id are of one type and about one account. -/
private theorem Stored.unique {first second : Notification} (distinct : DistinctIds currentUid store)
    (one : Stored currentUid now store first) (other : Stored currentUid now store second)
    (same : first.id = second.id) : mark.clear first = mark.clear second := by
  obtain ⟨firstId, firstData, firstStored, firstRow⟩ := one
  obtain ⟨secondId, secondData, secondStored, secondRow⟩ := other
  have firstKey : first.id = firstData.string "id" := congrArg Notification.id firstRow
  have secondKey : second.id = secondData.string "id" := congrArg Notification.id secondRow
  have here := distinct _ _ _ _ firstStored secondStored (by rw [← firstKey, ← secondKey, same])
  subst here
  obtain rfl := Option.some.inj (firstStored.symm.trans secondStored)
  rw [firstRow, secondRow]

private theorem truth_clear {first second : Notification}
    (same : mark.clear first = mark.clear second) :
    truth currentUid store first = truth currentUid store second := by
  have cleared (notification : Notification) : truth currentUid store notification =
      truth currentUid store (mark.clear notification) := rfl
  rw [cleared first, same, ← cleared second]

variable {order : List DocumentReference} {documents : List Document}

private theorem stored_of_answer
    (answered : (query currentUid).answer? store.firestore order = some documents)
    (same : notifications.map mark.clear = rows now documents) {notification : Notification}
    (member : notification ∈ notifications) : Stored currentUid now store notification := by
  have listed : mark.clear notification ∈ rows now documents := by
    rw [← same]
    exact List.mem_map_of_mem member
  obtain ⟨document, among, row⟩ := List.mem_map.mp listed
  obtain ⟨reference, ⟨parent, -⟩, stored, -⟩ := (Query.mem_answer? answered document).mp among
  refine ⟨reference.documentID, document.data, ?_, row.symm⟩
  rw [← stored, ← reference.parent_document, parent]
  rfl

private theorem Result.stored (result : Result currentUid now store notifications)
    {notification : Notification} (member : notification ∈ notifications) :
    Stored currentUid now store notification := by
  obtain ⟨order, documents, answered, same⟩ := result
  exact stored_of_answer answered same member

/-- A result lists each notification once. -/
private theorem Result.nodup (result : Result currentUid now store notifications)
    (distinct : DistinctIds currentUid store) : (notifications.map mark.key).Nodup := by
  obtain ⟨order, documents, answered, same⟩ := result
  have keys : notifications.map mark.key = (rows now documents).map Notification.id := by
    rw [← same, List.map_map]
    rfl
  rw [keys, rows, List.map_map]
  have path (document : Document) (among : document ∈ documents) :
      store.firestore.lookup (.notification currentUid document.documentID) = some document.data := by
    obtain ⟨reference, ⟨parent, -⟩, stored, id⟩ := (Query.mem_answer? answered document).mp among
    rw [← stored, ← reference.parent_document, parent, id]
    rfl
  refine List.Nodup.map_on ?_ (List.Nodup.of_map _ (Query.answer?_nodup answered))
  intro first firstIn second secondIn sameId
  have ids := distinct _ _ _ _ (path first firstIn) (path second secondIn) sameId
  have data := (path first firstIn).symm.trans (ids ▸ path second secondIn)
  rcases first with ⟨firstId, firstData⟩
  rcases second with ⟨secondId, secondData⟩
  obtain rfl : firstId = secondId := ids
  obtain rfl : firstData = secondData := Option.some.inj data
  rfl

end Rows

section Work

variable {now : Timestamp} {store : Cloud} {work : List (Posted (Job.call currentUid page))}
  {started : Prop}

/-- What the answers in flight say, and that checks are of stored follow notifications. -/
def Told (now : Timestamp) (store : Cloud) : Posted (Job.call currentUid page) → Prop
  | ⟨.list, answer⟩ => ∀ reply ∈ answer, ∃ (order : List DocumentReference)
      (documents : List Document), (query currentUid).answer? store.firestore order = some documents ∧
        reply = Except.ok documents
  | ⟨.check id uid, answer⟩ =>
    (∀ reply ∈ answer, reply = Except.ok (store.firestore.lookup (.following currentUid uid))) ∧
    ∃ notification, Stored currentUid now store notification ∧ notification.type = .follow ∧
      notification.id = id ∧ notification.uid = uid

/-- A check for the id is under way. -/
def Checked (work : List (Posted (Job.call currentUid page))) (id : String) : Prop :=
  Underway (fun job => ∃ uid, job = .check id uid) work

/-- Every row that should have its flag has it or waits for a check, and a list is shown, or under
way once there was a load. -/
structure Loading (now : Timestamp) (started : Prop) (store : Cloud) (app : App)
    (work : List (Posted (Job.call currentUid page))) : Prop where
  signedIn : app.currentUser = some currentUid
  clock : app.now = now
  told : ∀ posted ∈ work, Told now store posted
  list : ∃ controller, app.find? NotificationController page = some controller ∧
    (controller.notifications = [] ∨ Result currentUid now store controller.notifications) ∧
    mark.Awaits (truth currentUid store) (Checked work) controller.notifications ∧
    (started → Underway (fun job => job = .list) work ∨
      Result currentUid now store controller.notifications)

/-- Reads leave the store as it is, and their answers say what is stored. -/
private theorem told_serve {job : Job} {choice : Choice} {later : Cloud} {answer}
    (succeeds : choice.succeeds = true)
    (served : cloud.serve choice store (job.call currentUid page).request = some (later, answer))
    (told : Told now store (⟨job, none⟩ : Posted (Job.call currentUid page))) :
    later = store ∧ Told now store (⟨job, some answer⟩ : Posted (Job.call currentUid page)) := by
  obtain ⟨order, fresh, transfer, resolved⟩ := serve_succeeds succeeds served
  cases job with
  | list =>
    obtain ⟨documents, answered, same⟩ := Option.map_eq_some_iff.mp resolved
    obtain ⟨rfl, rfl⟩ := Prod.mk.inj same
    refine ⟨rfl, ?_⟩
    rintro _ ⟨⟩
    exact ⟨order, documents, answered, rfl⟩
  | check id uid =>
    obtain ⟨rfl, rfl⟩ := Prod.mk.inj (Option.some.inj resolved)
    refine ⟨rfl, ?_, told.2⟩
    rintro _ ⟨⟩
    rfl

private theorem Loading.serve {before after : List (Posted (Job.call currentUid page))} {job : Job}
    {choice : Choice} {later : Cloud} {answer}
    (loading : Loading now started store app (before ++ ⟨job, none⟩ :: after))
    (succeeds : choice.succeeds = true)
    (served : cloud.serve choice store (job.call currentUid page).request = some (later, answer)) :
    later = store ∧ Loading now started store app (before ++ ⟨job, some answer⟩ :: after) := by
  obtain ⟨rfl, here⟩ := told_serve succeeds served (loading.told ⟨job, none⟩ (by simp))
  obtain ⟨controller, shown, listed, awaits, loads⟩ := loading.list
  exact ⟨rfl, loading.signedIn, loading.clock, forall_served loading.told here, controller, shown,
    listed, awaits.mono fun id => Underway.serve, fun begun => (loads begun).imp_left Underway.serve⟩

private theorem mem_checks {job : Job} {notifications : List Notification} :
    job ∈ notifications.flatMap checks ↔ ∃ notification ∈ notifications,
      notification.type = .follow ∧ job = .check notification.id notification.uid := by
  rw [List.mem_flatMap]
  refine exists_congr fun notification => and_congr_right fun _ => ?_
  by_cases follow : notification.type = .follow <;> simp [checks, follow]

/-- A list that arrives is shown without flags, and all its follow rows are checked. -/
private theorem Loading.show_list {before after : List (Posted (Job.call currentUid page))}
    {documents : List Document}
    (loading : Loading now started store app (before ++ ⟨.list, some (.ok documents)⟩ :: after)) :
    ∃ later, (((Job.list).call currentUid page).callback (.ok documents)).run app =
        ⟨some later, ((rows now documents).flatMap checks).map (Job.call currentUid page), []⟩ ∧
      Loading now started store later (before ++ after ++
        issue (Job.call currentUid page) ((rows now documents).flatMap checks)) := by
  obtain ⟨controller, shown, -, -, -⟩ := loading.list
  obtain ⟨order, _, answered, same⟩ := loading.told ⟨.list, some (.ok documents)⟩ (by simp) _ rfl
  obtain rfl := Except.ok.inj same
  have cleared : (rows now documents).map mark.clear = rows now documents := by
    rw [rows, List.map_map]
    rfl
  have result : Result currentUid now store (rows now documents) :=
    ⟨order, documents, answered, cleared⟩
  refine ⟨app.modify page fun _ : NotificationController => ⟨rows now documents⟩, ?_,
    loading.signedIn, loading.clock, fun posted member => ?_, ⟨rows now documents⟩, ?_, .inr result,
    Flag.awaits_of_clear ?_ ?_, fun _ => .inr result⟩
  · rw [← loaded_run loading.signedIn shown, ← loading.clock]
    rfl
  · rcases List.mem_append.mp member with member | member
    · refine loading.told posted ?_
      simp only [List.mem_append, List.mem_cons] at member ⊢
      tauto
    · rcases posted with ⟨job, answer⟩
      obtain ⟨asked, fresh⟩ := mem_issue.mp member
      obtain rfl : answer = none := fresh
      obtain ⟨notification, listed, follow, rfl⟩ := mem_checks.mp asked
      exact ⟨nofun, notification, result.stored listed, follow, rfl, rfl⟩
  · rw [App.find?_modify, shown]
    rfl
  · intro notification listed
    obtain ⟨document, -, rfl⟩ := List.mem_map.mp listed
    rfl
  · intro notification listed follows
    have follow : notification.type = .follow :=
      of_decide_eq_true (Bool.and_eq_true_iff.mp follows).1
    refine ⟨⟨.check notification.id notification.uid, none⟩, List.mem_append_right _ ?_, _, rfl⟩
    exact mem_issue.mpr ⟨mem_checks.mpr ⟨notification, listed, follow, rfl⟩, rfl⟩

/-- A check that arrives sets the flag of its row, in whatever list is there. -/
private theorem Loading.set_flag {before after : List (Posted (Job.call currentUid page))}
    {id : String} {uid : Uid} {snapshot : Option Dictionary} (distinct : DistinctIds currentUid store)
    (loading : Loading now started store app
      (before ++ ⟨.check id uid, some (.ok snapshot)⟩ :: after)) :
    ∃ later, (((Job.check id uid).call currentUid page).callback (.ok snapshot)).run app =
        ⟨some later, [], []⟩ ∧ Loading now started store later (before ++ after) := by
  obtain ⟨controller, shown, listed, awaits, loads⟩ := loading.list
  obtain ⟨answers, checked, stored, follow, rfl, rfl⟩ :=
    loading.told ⟨.check id uid, some (.ok snapshot)⟩ (by simp)
  obtain rfl : snapshot = store.firestore.lookup (.following currentUid checked.uid) :=
    Except.ok.inj (answers _ rfl)
  have rest (posted) (member : posted ∈ before ++ after) : posted ∈ before ++
      (⟨.check checked.id checked.uid,
        some (.ok (store.firestore.lookup (.following currentUid checked.uid)))⟩ :
          Posted (Job.call currentUid page)) :: after := by
    simp only [List.mem_append, List.mem_cons] at member ⊢
    tauto
  have assigned : Result currentUid now store controller.notifications → Result currentUid now store
      (mark.assign checked.id (store.firestore.lookup (.following currentUid checked.uid)).isSome
        controller.notifications) := by
    rintro ⟨order, documents, answered, same⟩
    exact ⟨order, documents, answered, Flag.map_clear_assign.trans same⟩
  refine ⟨_, rfl, loading.signedIn, loading.clock, fun posted member =>
    loading.told posted (rest posted member), ⟨mark.assign checked.id
      (store.firestore.lookup (.following currentUid checked.uid)).isSome controller.notifications⟩,
    ?_, ?_, ?_, fun begun => ?_⟩
  · rw [App.find?_modify, shown]
    rfl
  · refine listed.imp (fun empty => ?_) assigned
    simp [empty]
  · rcases listed with empty | result
    · simp [empty, Flag.Awaits]
    · refine awaits.assign (result.nodup distinct) (fun _ _ => rfl) (fun row member same => ?_) ?_
      · have alike := (result.stored member).unique distinct stored same
        rw [truth_clear alike, truth, follow, Cloud.has]
        simp only [decide_true, Bool.true_and]
        rw [Bool.eq_iff_iff, decide_eq_true_iff, Finmap.mem_iff, Option.isSome_iff_exists]
      · rintro other apart ⟨posted, member, uid, asked⟩
        refine ⟨posted, ?_, uid, asked⟩
        simp only [List.mem_append, List.mem_cons] at member ⊢
        rcases member with member | rfl | member
        · exact .inl member
        · exact absurd (Job.check.inj asked).1.symm apart
        · exact .inr member
  · refine (loads begun).imp ?_ assigned
    rintro ⟨posted, member, asked⟩
    refine ⟨posted, ?_, asked⟩
    simp only [List.mem_append, List.mem_cons] at member ⊢
    rcases member with member | rfl | member
    · exact .inl member
    · cases asked
    · exact .inr member

private theorem Loading.mono {later : Prop} (loading : Loading now started store app work)
    (earlier : later → started) : Loading now later store app work := by
  obtain ⟨controller, shown, listed, awaits, loads⟩ := loading.list
  exact ⟨loading.signedIn, loading.clock, loading.told, controller, shown, listed, awaits,
    fun begun => loads (earlier begun)⟩

/-- A load asks for the list, and a refresh empties the one that is shown before. -/
private theorem Loading.load (loading : Loading now started store app work) :
    Loading now True store app (work ++ issue (Job.call currentUid page) [.list]) := by
  obtain ⟨controller, shown, listed, awaits, -⟩ := loading.list
  refine ⟨loading.signedIn, loading.clock, fun posted member => ?_, controller, shown, listed,
    awaits.mono ?_, fun _ => .inl ⟨⟨.list, none⟩, by simp, rfl⟩⟩
  · rcases List.mem_append.mp member with member | member
    · exact loading.told posted member
    · rcases posted with ⟨job, answer⟩
      obtain ⟨asked, fresh⟩ := mem_issue.mp member
      obtain rfl := List.mem_singleton.mp asked
      obtain rfl : answer = none := fresh
      exact nofun
  · rintro id ⟨posted, member, checked⟩
    exact ⟨posted, List.mem_append_left _ member, checked⟩

private theorem Loading.empty (loading : Loading now started store app work) :
    Loading now False store (app.modify page fun _ : NotificationController => ⟨[]⟩) work := by
  obtain ⟨controller, shown, -, -, -⟩ := loading.list
  refine ⟨loading.signedIn, loading.clock, loading.told, ⟨[]⟩, ?_, .inl rfl, by simp [Flag.Awaits],
    False.elim⟩
  rw [App.find?_modify, shown]
  rfl

end Work

section Run

/-- The page is opened, or its list is pulled down. -/
inductive ListAction where
  | viewDidLoad
  | onRefresh

def ListAction.perform (page : Ref) : ListAction → Code App
  | viewDidLoad => NotificationController.viewDidLoad page
  | onRefresh => NotificationController.onRefresh page

/-- One step: a load, or a signal without a failure, in any order. -/
def listStep? (page : Ref) (net : Network cloud App Unit Unit) (event : Event cloud Unit ListAction) :
    Option (Network cloud App Unit Unit) :=
  match event with
  | .act client action => some (net.launch id client (action.perform page))
  | .signal signal => if succeeds signal then net.signal? id signal else none

/-- A session with an empty list and nothing in flight. -/
structure Opened (currentUid : Uid) (page : Ref) (net : Network cloud App Unit Unit) : Prop where
  idle : net.flight = []
  quiet : net.listeners = []
  client : ∃ app, net.clients () = some app ∧ app.currentUser = some currentUid ∧
    app.find? NotificationController page = some ⟨[]⟩

variable {now : Timestamp} {start net next : Network cloud App Unit Unit}
  {events : List (Event cloud Unit ListAction)}

/-- The session is at work on its loads. -/
def Works (currentUid : Uid) (page : Ref) (now : Timestamp) (store : Cloud) (started : Prop)
    (net : Network cloud App Unit Unit) : Prop :=
  ∃ app, ∃ work : List (Posted (Job.call currentUid page)), net = .working (fun _ => ()) store app work ∧
    Loading now started store app work

private theorem Works.act {store : Cloud} {started : Prop}
    (works : Works currentUid page now store started net) (action : ListAction) :
    Works currentUid page now store True (net.launch id () (action.perform page)) := by
  obtain ⟨app, work, rfl, loading⟩ := works
  cases action with
  | viewDidLoad =>
    exact ⟨app, _, Network.launch_working (fetch_run loading.signedIn) fun _ _ => rfl, loading.load⟩
  | onRefresh =>
    exact ⟨_, _, Network.launch_working (fetch_run loading.empty.signedIn) fun _ _ => rfl,
      loading.empty.load⟩

private theorem Works.signal {store : Cloud} {started : Prop} {signal : Signal cloud}
    (distinct : DistinctIds currentUid store) (works : Works currentUid page now store started net)
    (allowed : succeeds signal = true) (taken : net.signal? id signal = some next) :
    Works currentUid page now store started next := by
  obtain ⟨app, work, rfl, loading⟩ := works
  rcases Network.signal_working taken with
    ⟨before, job, after, choice, later, answer, rfl, rfl, served, rfl⟩ |
    ⟨before, job, answer, after, rfl, rfl, rfl⟩
  · obtain ⟨rfl, served⟩ := loading.serve allowed served
    exact ⟨app, _, rfl, served⟩
  · cases job with
    | list =>
      obtain ⟨order, documents, answered, rfl⟩ :=
        loading.told ⟨.list, some answer⟩ (by simp) answer rfl
      obtain ⟨later, ran, shown⟩ := loading.show_list
      exact ⟨later, _, Network.launch_working ran fun _ _ => rfl, shown⟩
    | check id uid =>
      obtain rfl := (loading.told ⟨.check id uid, some answer⟩ (by simp)).1 answer rfl
      obtain ⟨later, ran, set⟩ := loading.set_flag distinct
      have ran' : (((Job.check id uid).call currentUid page).callback
          (.ok (store.firestore.lookup (.following currentUid uid)))).run app =
          ⟨some later, ([] : List Job).map (Job.call currentUid page), []⟩ := ran
      refine ⟨later, _, Network.launch_working ran' fun _ _ => rfl, ?_⟩
      rwa [issue_nil, List.append_nil]

/-- Whatever the order of answers, the list is at every moment empty or a result of the query without
a wrong mark, and after a load it is a result with the right flags once nothing is in flight. -/
theorem notifications_converge (opened : Opened currentUid page start)
    (distinct : DistinctIds currentUid start.store)
    (run : Run (fun net event next => listStep? page net event = some next) start events net) :
    net.store = start.store ∧ ∃ app controller, net.clients () = some app ∧
      app.find? NotificationController page = some controller ∧
      (controller.notifications = [] ∨
        Result currentUid app.now start.store controller.notifications) ∧
      (∀ notification ∈ controller.notifications, notification.userIsFollowed = true →
        notification.type = .follow ∧
          .following currentUid notification.uid ∈ start.store.firestore) ∧
      (net.flight = [] → (∃ action, .act () action ∈ events) →
        Result currentUid app.now start.store controller.notifications ∧
        (controller.notifications.map Notification.id).Nodup ∧
        ∀ notification ∈ controller.notifications, notification.userIsFollowed = true ↔
          notification.type = .follow ∧
            .following currentUid notification.uid ∈ start.store.firestore) := by
  obtain ⟨app, running, signedIn, empty⟩ := opened.client
  have works : Works currentUid page app.now start.store (∃ action, .act () action ∈ events) net := by
    refine run.history (fun past net => Works currentUid page app.now start.store
      (∃ action, .act () action ∈ past) net) ⟨app, [],
        Network.eq_working _ _ running opened.idle opened.quiet, signedIn, rfl, by simp, ⟨[]⟩, empty,
        .inl rfl, by simp [Flag.Awaits], by simp⟩ ?_
    rintro past net event next taken ⟨app, work, rfl, loading⟩
    cases event with
    | act client action =>
      obtain rfl := Option.some.inj taken
      obtain ⟨app, work, same, loading⟩ := Works.act ⟨app, work, rfl, loading⟩ action
      exact ⟨app, work, same, loading.mono fun _ => trivial⟩
    | signal signal =>
      simp only [listStep?] at taken
      split_ifs at taken with allowed
      obtain ⟨app, work, same, loading⟩ :=
        Works.signal distinct ⟨app, work, rfl, loading⟩ allowed taken
      exact ⟨app, work, same, loading.mono fun begun => by simpa using begun⟩
  obtain ⟨later, work, rfl, loading⟩ := works
  obtain ⟨controller, shown, listed, awaits, loads⟩ := loading.list
  have truth_iff (notification : Notification) : truth currentUid start.store notification = true ↔
      notification.type = .follow ∧
        .following currentUid notification.uid ∈ start.store.firestore := by
    rw [truth, Bool.and_eq_true, decide_eq_true_iff, Cloud.has_iff]
  rw [← loading.clock] at listed loads
  refine ⟨rfl, later, controller, rfl, shown, listed, fun notification member marked => ?_,
    fun idle begun => ?_⟩
  · exact (truth_iff notification).mp (awaits.true_of_get member marked)
  · obtain rfl := Network.working_idle.mp idle
    have result := (loads begun).resolve_left (by simp)
    refine ⟨result, result.nodup distinct, fun notification member => ?_⟩
    rw [← truth_iff, ← awaits.settled (by simp [Checked]) member]
    rfl

/-- Another user, of whom only the id is known. -/
def stranger (uid : Uid) : User := ⟨"", "", "", "", uid, ⟨0, 0, 0⟩, false⟩

/-- A session with a follow, by somebody whom it follows, and a like. -/
def notified : Network cloud App Unit Unit where
  store :=
    { firestore := (((∅ : Firestore).insert (.notification "u" "a")
        (NotificationService.data (stranger "v") .follow none ⟨1, 0⟩ "a")).insert
        (.notification "u" "b") (NotificationService.data (stranger "w") .like none ⟨2, 0⟩ "b")).insert
        (.following "u" "v") .empty }
  clients _ := some { currentUser := some "u", objects := [⟨.notification {}, true⟩] }

/-- What the query finds. -/
def both : Choice := .answer [.notification "u" "b", .notification "u" "a"] ""

/-- A load and a refresh overlap. -/
def overlapping : List (Event cloud Unit ListAction) :=
  [.act () .viewDidLoad, .act () .onRefresh, .signal (.serve 1 both), .signal (.deliver 1),
    .signal (.serve 0 both), .signal (.deliver 0), .signal (.serve 1 (.drawing "")),
    .signal (.deliver 1), .signal (.serve 0 (.drawing "")), .signal (.deliver 0)]

/-- A load and a refresh overlap, and the answers to the later one arrive first. -/
theorem notifications_converge_overlapping :
    ∃ net, Run (fun net event next => listStep? 0 net event = some next) notified overlapping net ∧
      ∃ app controller, net.clients () = some app ∧
        app.find? NotificationController 0 = some controller ∧
        Result "u" app.now notified.store controller.notifications ∧
        (controller.notifications.map Notification.id).Nodup ∧
        ∀ notification ∈ controller.notifications, notification.userIsFollowed = true ↔
          notification.type = .follow ∧
            .following "u" notification.uid ∈ notified.store.firestore := by
  have completes : (replay? (listStep? 0) notified overlapping).any
      (fun net => decide (net.flight.isEmpty = true)) = true := by
    decide +kernel
  obtain ⟨net, run, idle⟩ := exists_run_of_replay? completes
  have distinct : DistinctIds "u" notified.store := by
    have named (id : String) (data : Dictionary)
        (stored : notified.store.firestore.lookup (.notification "u" id) = some data) :
        data.string "id" = id := by
      simp only [notified, Firestore.lookup_set, reduceCtorEq, if_false,
        DocumentReference.notification.injEq, true_and] at stored
      split_ifs at stored with here here
      · subst here
        obtain rfl := Option.some.inj stored
        decide
      · subst here
        obtain rfl := Option.some.inj stored
        decide
      · cases stored
    intro first second firstData secondData one other same
    rw [← named first firstData one, ← named second secondData other, same]
  obtain ⟨-, app, controller, running, shown, -, -, ended⟩ :=
    notifications_converge ⟨rfl, rfl, _, rfl, rfl, rfl⟩ distinct run
  exact ⟨net, run, app, controller, running, shown,
    ended (List.isEmpty_iff.mp idle) ⟨.viewDidLoad, by simp [overlapping]⟩⟩

end Run

end NotificationLists

end InstagramClone
