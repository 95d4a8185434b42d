import InstagramClone.Async.Work
import InstagramClone.Controller.NotificationController
import InstagramClone.Soundness.MirroredDocuments
import Mathlib.Data.Nat.Bits

/-! # The follow buttons of a notification list

A row shows its own copy of a notification. A tap follows or unfollows as the copy says, and the
completion turns the copy over. A tap before the answer to an earlier one repeats that one, and the
copy is turned twice; rows of one account do not hear of each other. Apart from such taps, the rows
agree with the store whenever nothing is in flight, and after any such tap they do not.
-/

namespace InstagramClone

open Async

/-- The notification of a follow row that is displayed in a cell. -/
def App.row? (app : App) (cell : Ref) : Option Notification :=
  ((app.find? NotificationCell cell).bind NotificationCell.viewModel).filter fun notification =>
    notification.type = .follow

namespace FollowRows

/-- A tap waits for the first or the second document of its edge to be written. -/
inductive Job where
  | edge (cell : Ref) (uid : Uid) (follows : Bool)
  | mirror (cell : Ref) (uid : Uid) (follows : Bool)

namespace Job

def cell : Job → Ref
  | edge cell .. | mirror cell .. => cell

def uid : Job → Uid
  | edge _ uid _ | mirror _ uid _ => uid

/-- The request, with what the services and the controller do when it is answered. -/
def call (currentUid : Uid) : Job → Call firebase App
  | edge cell uid follows => ⟨.put (.following currentUid uid) follows, fun _ =>
      Code.call (.put (.follower uid currentUid) follows) fun _ =>
        NotificationController.toggleUserIsFollowed cell⟩
  | mirror cell uid follows => ⟨.put (.follower uid currentUid) follows, fun _ =>
      NotificationController.toggleUserIsFollowed cell⟩

end Job

variable {currentUid : Uid} {app : App} {store : Cloud} {cell : Ref} {notification : Notification}

section Actions

/-- A tap on a follow row starts to write the edge that the row does not show. -/
private theorem touch_run (signedIn : app.currentUser = some currentUid)
    (shown : app.row? cell = some notification) :
    (NotificationCell.touchFollowButton cell).run app = ⟨some app,
      [Job.edge cell notification.uid (!notification.userIsFollowed)].map (Job.call currentUid),
      []⟩ := by
  obtain ⟨model, follow⟩ := Option.filter_eq_some_iff.mp shown
  obtain ⟨value, found, model⟩ := Option.bind_eq_some_iff.mp model
  have type : notification.type = .follow := of_decide_eq_true follow
  simp only [NotificationCell.touchFollowButton, NotificationCell.onTapFollow,
    NotificationCell.withViewModel, Code.withObject, Program.run_inspect, found, model,
    NotificationCell.shouldHidePostImage, type, decide_true, if_true]
  cases notification.userIsFollowed with
  | false => exact UserService.run_follow signedIn ..
  | true => exact UserService.run_unFollow signedIn ..

/-- The button of any other cell is hidden. -/
private theorem touch_idle (hidden : app.row? cell = none) :
    (NotificationCell.touchFollowButton cell).run app = ⟨some app, [], []⟩ := by
  simp only [NotificationCell.touchFollowButton, NotificationCell.withViewModel, Code.withObject,
    Program.run_inspect]
  cases found : app.find? NotificationCell cell with
  | none => rfl
  | some value =>
    dsimp only
    cases model : value.viewModel with
    | none => rfl
    | some notification =>
      have other : notification.type ≠ .follow := by
        simpa [App.row?, found, model] using hidden
      simp [NotificationCell.shouldHidePostImage, other]

/-- `cell.viewModel?.notification.userIsFollowed.toggle()` -/
def toggle (shown : NotificationCell) : NotificationCell :=
  { shown with
    viewModel := shown.viewModel.map fun notification =>
      { notification with userIsFollowed := !notification.userIsFollowed } }

private theorem row?_toggle (app : App) (turned cell : Ref) :
    (app.modify turned toggle).row? cell = (app.row? cell).map fun notification =>
      { notification with userIsFollowed := notification.userIsFollowed ^^ decide (turned = cell) } := by
  by_cases same : turned = cell
  · subst same
    rw [App.row?, App.row?, App.find?_modify]
    cases app.find? NotificationCell turned with
    | none => rfl
    | some value =>
      cases model : value.viewModel with
      | none => simp [toggle, model]
      | some notification =>
        by_cases follow : notification.type = .follow <;> simp [toggle, model, Option.filter, follow]
  · rw [App.row?, App.find?_modify_of_ne app (Ne.symm same)]
    simp [same, App.row?]

/-- When the first document is written the second is next; then the row is turned over. -/
private theorem run_callback (job : Job) (answer) : ((job.call currentUid).callback answer).run app =
    match job with
    | .edge cell uid follows =>
      ⟨some app, [Job.mirror cell uid follows].map (Job.call currentUid), []⟩
    | .mirror cell _ _ => ⟨some (app.modify cell toggle), [].map (Job.call currentUid), []⟩ := by
  cases job <;> rfl

end Actions

section Work

variable {later : Cloud} {after : App} {before work rest : List (Posted (Job.call currentUid))}

/-- What the job is still to write for the edge to the account. -/
def Job.writes? (uid : Uid) : Job → Option Bool
  | edge _ other follows => if other = uid then some follows else none
  | mirror .. => none

/-- The writes to the edge that have not been served. -/
def owed (uid : Uid) (work : List (Posted (Job.call currentUid))) : List Bool :=
  work.filterMap fun posted => if posted.answer.isNone then posted.job.writes? uid else none

/-- Whether the account will be followed once everything is served. -/
def target (store : Cloud) (work : List (Posted (Job.call currentUid))) (uid : Uid) : Bool :=
  settled (store.has (.following currentUid uid)) (owed uid work)

/-- How many completions are to turn the cell over. -/
def turns (work : List (Posted (Job.call currentUid))) (cell : Ref) : ℕ :=
  (work.map fun posted => posted.job.cell).count cell

/-- The account of a row, and what the row will show of it once everything is answered. -/
def forecast (app : App) (work : List (Posted (Job.call currentUid))) (cell : Ref) :
    Option (Uid × Bool) :=
  (app.row? cell).map fun notification =>
    (notification.uid, notification.userIsFollowed ^^ (turns work cell).bodd)

/-- How many jobs are about the account. -/
def jobs (work : List (Posted (Job.call currentUid))) (uid : Uid) : ℕ :=
  (work.map fun posted => posted.job.uid).count uid

private theorem Job.adds (job : Job) (collection : CollectionReference) :
    ¬ (job.call currentUid).request.AddsTo collection := by
  cases job with
  | edge cell uid follows => cases follows <;> exact id
  | mirror cell uid follows => cases follows <;> exact id

/-- What is the same after signals: what is to come of the rows and of the store. -/
structure Continues (store later : Cloud) (app after : App)
    (work rest : List (Posted (Job.call currentUid))) : Prop where
  signedIn : after.currentUser = app.currentUser
  target : ∀ uid, target later rest uid = target store work uid
  forecast : ∀ cell, forecast after rest cell = forecast app work cell
  tags : ∀ posted ∈ rest, ∃ other ∈ work, other.job.cell = posted.job.cell ∧
    other.job.uid = posted.job.uid
  jobs : ∀ uid, jobs rest uid ≤ jobs work uid

/-- Serving the oldest unserved job. -/
private theorem continues_serve {job : Job} {choice : Choice} {answer}
    (earlier : ∀ other ∈ before, other.answer.isSome = true) (succeeds : choice.succeeds = true)
    (served : cloud.serve choice store (job.call currentUid).request = some (later, answer)) :
    Continues store later app app (before ++ ⟨job, none⟩ :: rest)
      (before ++ ⟨job, some answer⟩ :: rest) := by
  obtain ⟨fresh, applied, -⟩ := serve_firestore succeeds served
  refine ⟨rfl, fun uid => ?_, fun cell => by simp [forecast, turns], ?_, fun uid => by simp [jobs]⟩
  · have none : owed uid before = [] := Async.owed_answered earlier
    have has : later.has (.following currentUid uid) =
        (job.writes? uid).getD (store.has (.following currentUid uid)) := by
      rw [Cloud.has, applied, Request.mem_apply (job.adds _)]
      cases job with
      | edge cell other follows =>
        cases follows <;> by_cases same : other = uid <;>
          simp [Job.call, Job.writes?, Request.put, Request.writes?, same, Cloud.has]
      | mirror cell other follows =>
        cases follows <;> simp [Job.call, Job.writes?, Request.put, Request.writes?, Cloud.has]
    cases writes : job.writes? uid with
    | none => simp_all [target, owed]
    | some follows => simp_all [target, owed]
  · intro posted member
    rcases List.mem_append.mp member with member | member
    · exact ⟨posted, by simp [member], rfl, rfl⟩
    rcases List.mem_cons.mp member with rfl | member
    · exact ⟨⟨job, none⟩, by simp, rfl, rfl⟩
    · exact ⟨posted, by simp [member], rfl, rfl⟩

/-- The first document of the edge is acknowledged, and the second is to be written. -/
private theorem continues_edge {uid : Uid} {follows : Bool} {answer} :
    Continues store store app app (⟨.edge cell uid follows, some answer⟩ :: work)
      (work ++ issue (Job.call currentUid) [.mirror cell uid follows]) := by
  refine ⟨rfl, fun other => ?_, fun other => ?_, fun posted member => ?_, fun other => ?_⟩
  · simp [target, owed, Job.writes?]
  · simp [forecast, turns, List.count_cons, Job.cell]
  · rcases List.mem_append.mp member with member | member
    · exact ⟨posted, by simp [member], rfl, rfl⟩
    · have same := List.mem_singleton.mp (mem_issue.mp member).1
      exact ⟨⟨.edge cell uid follows, some answer⟩, by simp, by rw [same]; rfl, by rw [same]; rfl⟩
  · simp [jobs, List.count_cons, Job.uid]

/-- The second document is acknowledged, and the row is turned over. -/
private theorem continues_mirror {uid : Uid} {follows : Bool} {answer} :
    Continues store store app (app.modify cell toggle) (⟨.mirror cell uid follows, some answer⟩ :: work)
      work := by
  refine ⟨rfl, fun other => ?_, fun other => ?_, fun posted member => ?_, fun other => ?_⟩
  · simp [target, owed]
  · rw [forecast, forecast, row?_toggle, Option.map_map]
    congr 1
    funext notification
    by_cases same : cell = other
    · simp [turns, Job.cell, same]
    · simp [turns, Job.cell, same]
  · exact ⟨posted, by simp [member], rfl, rfl⟩
  · exact List.count_le_count_cons

/-- A signal changes nothing of what is to come. -/
private theorem continues_signal {net : Network cloud App Unit Unit} {signal : Signal cloud}
    (ordered : (Network.working (fun _ => ()) store app work :
      Network cloud App Unit Unit).InOrder id signal)
    (allowed : succeeds signal = true)
    (taken : (Network.working (fun _ => ()) store app work :
      Network cloud App Unit Unit).signal? id signal = some net) :
    ∃ later after rest, net = .working (fun _ => ()) later after rest ∧
      Continues store later app after work rest := by
  rcases Network.signal_working taken with
    ⟨before, job, last, choice, later, answer, rfl, rfl, served, rfl⟩ |
    ⟨before, job, answer, last, rfl, rfl, rfl⟩
  · exact ⟨_, _, _, rfl, continues_serve ordered.working_serve allowed served⟩
  · obtain rfl := ordered.working_deliver
    cases job with
    | edge cell uid follows =>
      exact ⟨_, _, _, Network.launch_working (run_callback _ answer) fun _ _ => rfl, continues_edge⟩
    | mirror cell uid follows =>
      refine ⟨_, _, _, Network.launch_working (run_callback _ answer) fun _ _ => rfl, ?_⟩
      simpa using continues_mirror

/-- What is to come of the rows is what is to come of the store, every job is about the account of
its row, and there is at most one about an account. -/
structure Foretold (store : Cloud) (app : App) (work : List (Posted (Job.call currentUid))) :
    Prop where
  agree : ∀ cell uid shown, forecast app work cell = some (uid, shown) →
    shown = target store work uid
  tagged : ∀ posted ∈ work, ∃ shown,
    forecast app work posted.job.cell = some (posted.job.uid, shown)
  single : ∀ uid, jobs work uid ≤ 1

private theorem Foretold.continues (foretold : Foretold store app work)
    (continues : Continues store later app after work rest) : Foretold later after rest := by
  refine ⟨fun cell uid shown forecasts => ?_, fun posted member => ?_, fun uid => ?_⟩
  · rw [continues.target]
    exact foretold.agree cell uid shown (continues.forecast cell ▸ forecasts)
  · obtain ⟨other, among, sameCell, sameUid⟩ := continues.tags posted member
    obtain ⟨shown, forecasts⟩ := foretold.tagged other among
    exact ⟨shown, by rw [continues.forecast, ← sameCell, forecasts, sameUid]⟩
  · exact (continues.jobs uid).trans (foretold.single uid)

/-- The work after a tap that writes the edge to the account. -/
abbrev tapped (work : List (Posted (Job.call currentUid))) (cell : Ref) (uid : Uid)
    (follows : Bool) : List (Posted (Job.call currentUid)) :=
  work ++ issue (Job.call currentUid) [.edge cell uid follows]

variable {uid : Uid} {follows : Bool}

private theorem target_tapped (other : Uid) : target store (tapped work cell uid follows) other =
    if uid = other then follows else target store work other := by
  have written : owed other (issue (Job.call currentUid) [.edge cell uid follows]) =
      if uid = other then [follows] else [] := by
    by_cases same : uid = other <;> simp [owed, Job.writes?, same]
  have owes : owed other (tapped work cell uid follows) =
      owed other work ++ if uid = other then [follows] else [] := by
    rw [← written]
    exact List.filterMap_append
  rw [target, owes]
  split_ifs
  · exact settled_append_singleton ..
  · rw [List.append_nil, target]

private theorem forecast_tapped (other : Ref) : forecast app (tapped work cell uid follows) other =
    (forecast app work other).map fun shown => (shown.1, shown.2 ^^ decide (cell = other)) := by
  rw [forecast, forecast, Option.map_map]
  congr 1
  funext notification
  by_cases same : cell = other
  · simp [turns, Job.cell, same]
  · simp [turns, Job.cell, same]

private theorem forecast_row (shown : app.row? cell = some notification) : forecast app work cell =
    some (notification.uid, notification.userIsFollowed ^^ (turns work cell).bodd) := by
  rw [forecast, shown]
  rfl

/-- A row is turned by jobs about its account only. -/
private theorem Foretold.turns_le (foretold : Foretold store app work)
    (shown : app.row? cell = some notification) : turns work cell ≤ jobs work notification.uid := by
  rw [turns, jobs, List.count, List.count, List.countP_map, List.countP_map]
  refine List.countP_mono_left fun posted member here => ?_
  obtain ⟨told, forecasts⟩ := foretold.tagged posted member
  have here : posted.job.cell = cell := by simpa using here
  rw [here, forecast_row shown] at forecasts
  simpa using (Prod.mk.inj (Option.some.inj forecasts)).1.symm

/-- A tap with no job about the account, on the only row of it, turns the forecast of the row and
that of the store. -/
private theorem Foretold.tap (foretold : Foretold store app work)
    (shown : app.row? cell = some notification) (answered : jobs work notification.uid = 0)
    (only : ∀ other, other ≠ cell → ∀ row, app.row? other = some row → row.uid ≠ notification.uid) :
    Foretold store app (tapped work cell notification.uid (!notification.userIsFollowed)) := by
  have still : turns work cell = 0 := by
    have bound := foretold.turns_le shown
    omega
  refine ⟨fun other uid told forecasts => ?_, fun posted member => ?_, fun uid => ?_⟩
  · rw [forecast_tapped] at forecasts
    obtain ⟨⟨uid, before⟩, told', same⟩ := Option.map_eq_some_iff.mp forecasts
    obtain ⟨rfl, rfl⟩ := Prod.mk.inj same
    have agrees := foretold.agree other uid before told'
    rw [target_tapped]
    by_cases here : cell = other
    · subst here
      rw [forecast_row shown, still] at told'
      obtain ⟨rfl, rfl⟩ := Prod.mk.inj (Option.some.inj told')
      simp
    · obtain ⟨row, displayed, same⟩ := Option.map_eq_some_iff.mp told'
      have apart := only other (Ne.symm here) row displayed
      rw [(Prod.mk.inj same).1] at apart
      simp [here, Ne.symm apart, agrees]
  · rcases List.mem_append.mp member with member | member
    · obtain ⟨told, forecasts⟩ := foretold.tagged posted member
      exact ⟨_, by rw [forecast_tapped, forecasts]; rfl⟩
    · have same := List.mem_singleton.mp (mem_issue.mp member).1
      exact ⟨_, by rw [same, forecast_tapped]; exact congrArg _ (forecast_row shown)⟩
  · have count : jobs (tapped work cell notification.uid (!notification.userIsFollowed)) uid =
        jobs work uid + if notification.uid = uid then 1 else 0 := by
      simp [jobs, Job.uid, List.count_singleton]
    rw [count]
    have bound := foretold.single uid
    split_ifs with same
    · subst same
      omega
    · exact bound

/-- Any other tap sets the forecast of some row against that of the store. -/
private theorem Foretold.tap_wrong (foretold : Foretold store app work)
    (shown : app.row? cell = some notification)
    (unclean : jobs work notification.uid ≠ 0 ∨
      ∃ other row, other ≠ cell ∧ app.row? other = some row ∧ row.uid = notification.uid) :
    ∃ other uid told, forecast app
        (tapped work cell notification.uid (!notification.userIsFollowed)) other = some (uid, told) ∧
      told ≠ target store (tapped work cell notification.uid (!notification.userIsFollowed)) uid := by
  have mine : forecast app work cell =
      some (notification.uid, notification.userIsFollowed ^^ (turns work cell).bodd) :=
    forecast_row shown
  have agrees := foretold.agree _ _ _ mine
  have after (other : Ref) (told : Bool)
      (forecasts : forecast app work other = some (notification.uid, told)) : forecast app
        (tapped work cell notification.uid (!notification.userIsFollowed)) other =
          some (notification.uid, told ^^ decide (cell = other)) := by
    rw [forecast_tapped, forecasts]
    rfl
  have written : target store
      (tapped work cell notification.uid (!notification.userIsFollowed)) notification.uid =
        !notification.userIsFollowed := by
    rw [target_tapped, if_pos rfl]
  by_cases elsewhere : ∃ other row, other ≠ cell ∧ app.row? other = some row ∧
      row.uid = notification.uid
  · -- the two rows agreed before, and the tap is to turn one of them
    obtain ⟨other, row, apart, displayed, same⟩ := elsewhere
    have theirs : forecast app work other =
        some (notification.uid, row.userIsFollowed ^^ (turns work other).bodd) := by
      rw [forecast_row displayed, same]
    have agreed := foretold.agree _ _ _ theirs
    by_cases right : (row.userIsFollowed ^^ (turns work other).bodd) = !notification.userIsFollowed
    · refine ⟨cell, _, _, after cell _ mine, ?_⟩
      rw [written, agrees, ← agreed, right]
      simp
    · refine ⟨other, _, _, after other _ theirs, ?_⟩
      rw [written]
      simpa [Ne.symm apart] using right
  · -- the row is to be turned by a job in flight already, and the tap repeats that job
    have pending : jobs work notification.uid ≠ 0 := unclean.resolve_right elsewhere
    have once : turns work cell = 1 := by
      have upper := foretold.turns_le shown
      have lower : jobs work notification.uid ≤ turns work cell := by
        rw [turns, jobs, List.count, List.count, List.countP_map, List.countP_map]
        refine List.countP_mono_left fun posted member about => ?_
        obtain ⟨told, forecasts⟩ := foretold.tagged posted member
        obtain ⟨row, displayed, same⟩ := Option.map_eq_some_iff.mp forecasts
        by_contra apart
        refine elsewhere ⟨posted.job.cell, row, by simpa using apart, displayed, ?_⟩
        rw [(Prod.mk.inj same).1]
        simpa using about
      have single := foretold.single notification.uid
      omega
    refine ⟨cell, _, _, after cell _ mine, ?_⟩
    rw [written, once]
    simp

end Work

section Run

/-- One step of the session: a touch on a follow button, or a signal without a failure that serves
and answers in the order of issue. -/
def rowStep? (net : Network cloud App Unit Unit) (event : Event cloud Unit Ref) :
    Option (Network cloud App Unit Unit) :=
  match event with
  | .act client cell => some (net.launch id client (NotificationCell.touchFollowButton cell))
  | .signal signal => if net.InOrder id signal ∧ succeeds signal = true then
      net.signal? id signal else none

/-- The request writes a document of the edge. -/
def About (currentUid uid : Uid) (request : Request) : Prop :=
  request.target? = some (.following currentUid uid) ∨
    request.target? = some (.follower uid currentUid)

instance (currentUid uid : Uid) (request : Request) : Decidable (About currentUid uid request) :=
  inferInstanceAs (Decidable (_ ∨ _))

/-- A tap on the only row of its account, with no request about the account in flight. -/
def Clean (currentUid : Uid) (net : Network cloud App Unit Unit) : Event cloud Unit Ref → Prop
  | .act _ cell => ∀ app ∈ net.clients (), ∀ notification ∈ app.row? cell,
    (∀ pending ∈ net.flight, ¬ About currentUid notification.uid pending.call.request) ∧
    ∀ other < app.objects.length, other ≠ cell → ∀ row ∈ app.row? other, row.uid ≠ notification.uid
  | .signal _ => True

instance (currentUid : Uid) (net : Network cloud App Unit Unit) (event : Event cloud Unit Ref) :
    Decidable (Clean currentUid net event) :=
  match event with
  | .act _ cell => inferInstanceAs (Decidable (∀ app ∈ net.clients (),
      ∀ notification ∈ app.row? cell,
      (∀ pending ∈ net.flight, ¬ About currentUid notification.uid pending.call.request) ∧
      ∀ other < app.objects.length, other ≠ cell → ∀ row ∈ app.row? other,
        row.uid ≠ notification.uid))
  | .signal _ => inferInstanceAs (Decidable True)

/-- Every displayed follow row shows whether its account is followed. -/
def Agrees (currentUid : Uid) (net : Network cloud App Unit Unit) : Prop :=
  ∀ app ∈ net.clients (), ∀ cell, ∀ notification ∈ app.row? cell,
    notification.userIsFollowed = true ↔
      .following currentUid notification.uid ∈ net.store.firestore

/-- A session with nothing in flight whose rows agree with the store. -/
structure Loaded (currentUid : Uid) (net : Network cloud App Unit Unit) : Prop where
  idle : net.flight = []
  quiet : net.listeners = []
  client : ∃ app, net.clients () = some app ∧ app.currentUser = some currentUid
  agrees : Agrees currentUid net

/-- The session is at work on its taps, and what is to come of the rows is what is to come of the
store. -/
def Told (currentUid : Uid) (net : Network cloud App Unit Unit) : Prop :=
  ∃ store app, ∃ work : List (Posted (Job.call currentUid)), net = .working (fun _ => ()) store app work ∧
    app.currentUser = some currentUid ∧ Foretold store app work

variable {net next start final called : Network cloud App Unit Unit}
  {events : List (Event cloud Unit Ref)}

private theorem forecast_idle (app : App) (cell : Ref) :
    forecast app ([] : List (Posted (Job.call currentUid))) cell =
      (app.row? cell).map fun row => (row.uid, row.userIsFollowed) := by
  simp [forecast, turns]

/-- With nothing in flight the forecasts are what is there. -/
private theorem agrees_working : Agrees currentUid
    (.working (fun _ => ()) store app ([] : List (Posted (Job.call currentUid)))) ↔
      ∀ cell uid shown, forecast app ([] : List (Posted (Job.call currentUid))) cell =
        some (uid, shown) →
        shown = target store ([] : List (Posted (Job.call currentUid))) uid := by
  have stored (uid : Uid) (shown : Bool) :
      shown = target store ([] : List (Posted (Job.call currentUid))) uid ↔
        (shown = true ↔ .following currentUid uid ∈ store.firestore) := by
    rw [target, owed, List.filterMap_nil, settled_nil, Bool.eq_iff_iff, Cloud.has_iff]
  constructor
  · intro agrees cell uid shown forecasts
    rw [forecast_idle] at forecasts
    obtain ⟨row, displayed, same⟩ := Option.map_eq_some_iff.mp forecasts
    obtain ⟨rfl, rfl⟩ := Prod.mk.inj same
    exact (stored _ _).mpr (agrees app rfl cell row displayed)
  · rintro agrees _ ⟨⟩ cell row displayed
    refine (stored _ _).mp (agrees cell row.uid row.userIsFollowed ?_)
    rw [forecast_idle, displayed]
    rfl

private theorem Loaded.told (loaded : Loaded currentUid net) : Told currentUid net := by
  obtain ⟨app, running, signedIn⟩ := loaded.client
  have same := Network.eq_working (Job.call currentUid) (fun _ => ()) running loaded.idle loaded.quiet
  have agrees := loaded.agrees
  rw [same] at agrees
  exact ⟨_, app, [], same, signedIn, agrees_working.mp agrees, by simp, by simp [jobs]⟩

/-- Jobs about the account are requests about it. -/
private theorem about_iff {posted : Posted (Job.call currentUid)} {uid : Uid} :
    About currentUid uid (posted.pending fun _ => ()).call.request ↔ posted.job.uid = uid := by
  rcases posted with ⟨job, answer⟩
  cases job with
  | edge cell other follows =>
    cases follows <;> simp [About, Posted.pending, Job.call, Request.put, Request.target?, Job.uid]
  | mirror cell other follows =>
    cases follows <;> simp [About, Posted.pending, Job.call, Request.put, Request.target?, Job.uid]

private theorem jobs_eq_zero {work : List (Posted (Job.call currentUid))} {uid : Uid} :
    jobs work uid = 0 ↔ ∀ pending ∈ (Network.working (fun _ => ()) store app work :
      Network cloud App Unit Unit).flight, ¬ About currentUid uid pending.call.request := by
  rw [jobs, List.count_eq_zero, Network.working_flight, List.forall_mem_map]
  simp only [about_iff, List.mem_map, not_exists, not_and]

/-- Only cells in the heap are displayed. -/
private theorem lt_of_row? (displayed : app.row? cell = some notification) :
    cell < app.objects.length := by
  obtain ⟨model, -⟩ := Option.filter_eq_some_iff.mp displayed
  obtain ⟨value, found, -⟩ := Option.bind_eq_some_iff.mp model
  obtain ⟨entry, present, -⟩ := Option.bind_eq_some_iff.mp found
  exact (List.getElem?_eq_some_iff.mp present).1

private theorem Told.signal {signal : Signal cloud} (told : Told currentUid net)
    (taken : rowStep? net (.signal signal) = some next) : Told currentUid next := by
  obtain ⟨store, app, work, rfl, signedIn, foretold⟩ := told
  simp only [rowStep?] at taken
  split_ifs at taken with allowed
  obtain ⟨later, after, rest, rfl, continues⟩ := continues_signal allowed.1 allowed.2 taken
  exact ⟨later, after, rest, rfl, continues.signedIn.trans signedIn, foretold.continues continues⟩

private theorem Told.step {event : Event cloud Unit Ref} (told : Told currentUid net)
    (clean : Clean currentUid net event) (taken : rowStep? net event = some next) :
    Told currentUid next := by
  cases event with
  | signal signal => exact told.signal taken
  | act client cell =>
    obtain ⟨store, app, work, rfl, signedIn, foretold⟩ := told
    obtain rfl := Option.some.inj taken
    cases displayed : app.row? cell with
    | none =>
      have ran : (NotificationCell.touchFollowButton cell).run app =
          ⟨some app, ([] : List Job).map (Job.call currentUid), []⟩ := touch_idle displayed
      refine ⟨store, app, work, ?_, signedIn, foretold⟩
      rw [Network.launch_working ran fun _ _ => rfl, issue_nil, List.append_nil]
    | some notification =>
      obtain ⟨answered, only⟩ := clean app rfl notification displayed
      refine ⟨store, app, _, Network.launch_working (touch_run signedIn displayed) fun _ _ => rfl,
        signedIn,
        foretold.tap displayed (jobs_eq_zero.mpr answered) fun other apart row shown => ?_⟩
      exact only other (lt_of_row? shown) apart row shown

/-- Signals leave a forecast that is wrong, so that it comes out. -/
private theorem wrong_signals {store : Cloud} {app : App} {work : List (Posted (Job.call currentUid))}
    {signals : List (Signal cloud)}
    (run : Run (fun net signal next => rowStep? net (.signal signal) = some next)
      (.working (fun _ => ()) store app work) signals final)
    (idle : final.flight = []) {uid : Uid} {shown : Bool}
    (forecasts : forecast app work cell = some (uid, shown))
    (wrong : shown ≠ target store work uid) : ¬ Agrees currentUid final := by
  have ends : ∃ later after, ∃ rest : List (Posted (Job.call currentUid)),
      final = .working (fun _ => ()) later after rest ∧ target later rest uid = target store work uid ∧
      forecast after rest cell = some (uid, shown) := by
    refine run.history (fun _ net => ∃ later after, ∃ rest : List (Posted (Job.call currentUid)),
      net = .working (fun _ => ()) later after rest ∧ target later rest uid = target store work uid ∧
      forecast after rest cell = some (uid, shown)) ⟨store, app, work, rfl, rfl, forecasts⟩ ?_
    rintro _ _ signal next taken ⟨later, after, rest, rfl, same, told⟩
    simp only [rowStep?] at taken
    split_ifs at taken with allowed
    obtain ⟨last, final, jobs, rfl, continues⟩ := continues_signal allowed.1 allowed.2 taken
    exact ⟨last, final, jobs, rfl, (continues.target uid).trans same,
      (continues.forecast cell).trans told⟩
  obtain ⟨later, after, rest, rfl, target, told⟩ := ends
  obtain rfl := Network.working_idle.mp idle
  intro agrees
  exact wrong ((agrees_working.mp agrees cell uid shown told).trans target)

/-- As long as taps are clean, the rows show the truth whenever nothing is in flight. After a tap
that is not, they do not once everything is answered. -/
theorem rows_agree (loaded : Loaded currentUid start)
    (run : Run (fun net event next => Clean currentUid net event ∧ rowStep? net event = some next)
      start events net) :
    (net.flight = [] → Agrees currentUid net) ∧
    ∀ cell called signals final, ¬ Clean currentUid net (.act () cell) →
      rowStep? net (.act () cell) = some called →
      Run (fun net signal next => rowStep? net (.signal signal) = some next) called signals final →
      final.flight = [] → ¬ Agrees currentUid final := by
  have told : Told currentUid net :=
    run.invariant loaded.told fun taken told => told.step taken.1 taken.2
  obtain ⟨store, app, work, rfl, signedIn, foretold⟩ := told
  constructor
  · intro idle
    obtain rfl := Network.working_idle.mp idle
    exact agrees_working.mpr foretold.agree
  · intro cell called signals final unclean taken rest idle
    obtain rfl := Option.some.inj taken
    simp only [Clean, not_forall] at unclean
    obtain ⟨_, ⟨⟩, notification, displayed, unclean⟩ := unclean
    rw [Network.launch_working (touch_run signedIn displayed) fun _ _ => rfl] at rest
    obtain ⟨other, uid, shown, forecasts, wrong⟩ := foretold.tap_wrong displayed (by
      by_contra clean
      rw [not_or, not_not] at clean
      refine unclean ⟨jobs_eq_zero.mp clean.1, fun other _ apart row shown same => ?_⟩
      exact clean.2 ⟨other, row, apart, shown, same⟩)
    exact wrong_signals rest idle forecasts wrong

/-- A row that tells of a follow by the account. -/
def followRow (uid : Uid) : Notification :=
  ⟨uid, uid, none, uid, none, none, .follow, ⟨0, 0⟩, false⟩

/-- A list of two such rows. -/
def listing : App where
  currentUser := some "u"
  objects :=
    [⟨.notification ⟨[followRow "v", followRow "w"]⟩, true⟩,
      ⟨.notificationCell ⟨some (followRow "v"), 0⟩, true⟩,
      ⟨.notificationCell ⟨some (followRow "w"), 0⟩, true⟩]

/-- The rows are tapped together, then one of them again. -/
def tappedTwice : List (Event cloud Unit Ref) :=
  [.act () 1, .act () 2] ++ drain [Choice.drawing "", Choice.drawing ""] ++
    drain [Choice.drawing "", Choice.drawing ""] ++ [.act () 1] ++ drain [Choice.drawing ""] ++
    drain [Choice.drawing ""]

/-- The rows of two accounts are tapped together, then one of them again. -/
theorem rows_agree_two :
    ∃ net, Run (fun net event next => Clean "u" net event ∧ rowStep? net event = some next)
        { store := {}, clients := fun _ => some listing } tappedTwice net ∧
      net.flight = [] ∧ Agrees "u" net ∧ .following "u" "w" ∈ net.store.firestore := by
  have completes : (replay?
      (fun net event => if Clean "u" net event then rowStep? net event else none)
      { store := {}, clients := fun _ => some listing } tappedTwice).any
      (fun net => decide (net.flight.isEmpty = true ∧
        .following "u" "w" ∈ net.store.firestore)) = true := by
    decide +kernel
  obtain ⟨net, run, empty, followed⟩ := exists_legal_run_of_replay? completes
  have idle := List.isEmpty_iff.mp empty
  refine ⟨net, run, idle, (rows_agree ⟨rfl, rfl, ⟨listing, rfl, rfl⟩, ?_⟩ run).1 idle, followed⟩
  rintro _ ⟨⟩ cell shown displayed
  have offered : ∀ cell < listing.objects.length, ∀ shown ∈ listing.row? cell,
      shown.userIsFollowed = false := by
    decide +kernel
  refine ⟨fun told => ?_, fun present => absurd present Finmap.notMem_empty⟩
  cases (offered cell (lt_of_row? displayed) shown displayed).symm.trans told

/-- A row is tapped twice before the first answer. Both taps follow, and the row is turned twice. -/
theorem rows_disagree :
    ¬ ∀ (currentUid : Uid) (start net : Network cloud App Unit Unit)
      (events : List (Event cloud Unit Ref)), Loaded currentUid start →
      Run (fun net event next => rowStep? net event = some next) start events net →
      net.flight = [] → Agrees currentUid net := by
  intro claim
  let ok : Choice := .answer [] ""
  let row : Notification := ⟨"n", "v", none, "v", none, none, .follow, ⟨0, 0⟩, false⟩
  let app : App :=
    { currentUser := some "u"
      objects := [⟨.notification ⟨[row]⟩, true⟩, ⟨.notificationCell ⟨some row, 0⟩, true⟩] }
  have twice : (replay? rowStep? { store := {}, clients := fun _ => some app }
      ([.act () 1, .act () 1] ++ drain [ok, ok] ++ drain [ok, ok])).any (fun net => decide
        (net.flight.isEmpty = true ∧ .following "u" "v" ∈ net.store.firestore ∧
          ((net.clients ()).bind fun app => app.row? 1) = some row)) = true := by
    decide +kernel
  obtain ⟨net, run, empty, followed, shown⟩ := exists_run_of_replay? twice
  obtain ⟨later, running, displayed⟩ := Option.bind_eq_some_iff.mp shown
  have agrees := claim "u" _ net _ ⟨rfl, rfl, ⟨app, rfl, rfl⟩, ?_⟩ run (List.isEmpty_iff.mp empty)
  · have told := (agrees later running 1 row displayed).mpr followed
    cases told
  · rintro _ ⟨⟩ cell shown displayed
    have offered : ∀ cell < app.objects.length, ∀ shown ∈ app.row? cell,
        shown.userIsFollowed = false := by
      decide +kernel
    refine ⟨fun told => ?_, fun present => absurd present Finmap.notMem_empty⟩
    cases (offered cell (lt_of_row? displayed) shown displayed).symm.trans told

end Run

end FollowRows

end InstagramClone
