import InstagramClone.Async.Run
import InstagramClone.Controller.CommentController

/-! # A comment page lists what its query finds

The page shows the one list that its listener extends: each snapshot's additions go to the end, in
the order of the query. So the list is the query's result as long as at every snapshot the result
reads as it did at the one before, followed by what is new. A comment that is newer than those listed
ends up below them.
-/

namespace InstagramClone

open Async

namespace CommentLists

variable {ι : Type}

/-- A comment page appears, or code anywhere asks something of the backend. -/
inductive Action where
  | viewDidLoad (self : Ref)
  | ask (request : Request)

def Action.perform : Action → Code App
  | viewDidLoad self => CommentController.viewDidLoad self
  | ask request => .post request

/-- Every client has one comment page. -/
def Allowed (page : ι → Ref) : Event cloud ι Action → Prop
  | .act client (.viewDidLoad self) => self = page client
  | .act _ (.ask _) | .signal _ => True

instance [DecidableEq ι] (page : ι → Ref) (event : Event cloud ι Action) :
    Decidable (Allowed page event) :=
  match event with
  | .act client (.viewDidLoad self) => inferInstanceAs (Decidable (self = page client))
  | .act _ (.ask _) | .signal _ => inferInstanceAs (Decidable True)

/-- The comments of a query's result, in its order. -/
def decode (now : Timestamp) (documents : List Document) : List Comment :=
  documents.map fun document => Comment.ofDictionary now document.data

/-- What the listener did not see in its last snapshot. -/
def new (seen documents : List Document) : List Document :=
  documents.filter fun document => document.documentID ∉ seen.map Document.documentID

section Events

variable [DecidableEq ι]

/-- The listener that the event shows a snapshot to, and the result of its query. -/
def snapshot? (net : Network cloud App ι ι) :
    Event cloud ι Action → Option (Listener cloud App ι × List Document)
  | .signal (.notify index choice) => net.listeners[index]?.bind fun listener =>
      match cloud.publish choice net.store (net.unsent id listener.origin) listener.cursor
        listener.subscription.topic with
      | some (.ok _, documents) => some (listener, documents)
      | _ => none
  | _ => none

/-- The page lists the query's result after the snapshot. -/
def ListsResult (page : ι → Ref) (net : Network cloud App ι ι) (event : Event cloud ι Action) :
    Prop :=
  ∀ shown ∈ snapshot? net event, ∀ next ∈ net.event? Action.perform event,
    ∀ app ∈ next.clients shown.1.origin,
      (app.find? CommentController (page shown.1.origin)).map CommentController.comments =
        some (decode app.now shown.2)

instance (page : ι → Ref) (net : Network cloud App ι ι) (event : Event cloud ι Action) :
    Decidable (ListsResult page net event) :=
  inferInstanceAs (Decidable (∀ shown ∈ snapshot? net event,
    ∀ next ∈ net.event? Action.perform event, ∀ app ∈ next.clients shown.1.origin,
      (app.find? CommentController (page shown.1.origin)).map CommentController.comments =
        some (decode app.now shown.2)))

/-- The result reads as the one the listener saw last, followed by what is new. -/
def Continues (net : Network cloud App ι ι) (event : Event cloud ι Action) : Prop :=
  ∀ shown ∈ snapshot? net event, ∀ app ∈ net.clients shown.1.origin,
    decode app.now shown.2 = decode app.now shown.1.cursor ++
      decode app.now (new shown.1.cursor shown.2)

instance (net : Network cloud App ι ι) (event : Event cloud ι Action) :
    Decidable (Continues net event) :=
  inferInstanceAs (Decidable (∀ shown ∈ snapshot? net event,
    ∀ app ∈ net.clients shown.1.origin, decode app.now shown.2 =
      decode app.now shown.1.cursor ++ decode app.now (new shown.1.cursor shown.2)))

end Events

/-- The comments of a post, newest first. -/
def comments (post : PostId) : Query :=
  { collection := .comments post, orderBy := some "timestamp" }

/-- `self.comments = comments` -/
def setComments (comments : List Comment) (controller : CommentController) : CommentController :=
  { controller with comments }

/-- The code run at a snapshot, for a page and the list its listener captured. -/
def callback (page list : Ref) (snapshot : Except BackendError (List DocumentChange)) : Code App :=
  .seq (match snapshot with
    | .error _ => .done
    | .ok changes => Code.withTimestamp fun now =>
        Code.modify list fun comments : List Comment => comments ++ CommentService.added now changes)
    (Code.withObject list fun comments => Code.modify page (setComments comments))

/-- A listener of a page, with its captured list and the documents it has seen. -/
structure Note (ι : Type) where
  origin : ι
  post : PostId
  list : Ref
  seen : List Document

def Note.listener (page : ι → Ref) (note : Note ι) : Listener cloud App ι where
  origin := note.origin
  subscription := ⟨comments note.post, callback (page note.origin) note.list⟩
  cursor := note.seen

/-- The page is there, and the captured list holds what the listener has seen. -/
def Note.Holds (page : ι → Ref) (app : App) (note : Note ι) : Prop :=
  (app.find? CommentController (page note.origin)).isSome ∧
    app.find? (List Comment) note.list = some (decode app.now note.seen)

/-- What holds as long as every result continues the one before. -/
structure Listed (page : ι → Ref) (net : Network cloud App ι ι) (notes : List (Note ι)) : Prop where
  listeners : net.listeners = notes.map (Note.listener page)
  apart : (notes.map fun note => (note.origin, note.list)).Nodup
  holds : ∀ note ∈ notes, ∀ app ∈ net.clients note.origin, note.Holds page app
  flight : ∀ pending ∈ net.flight, ∀ answer, pending.call.callback answer = .done

theorem added_documentChanges (now : Timestamp) (seen documents : List Document) :
    CommentService.added now (documentChanges seen documents) = decode now (new seen documents) := by
  simp [CommentService.added, documentChanges, decode, new, List.filter_append, List.filter_map,
    Function.comp_def]

section Callbacks

variable {page list : Ref} {app : App} {seen : List Comment}

theorem run_callback_error (found : app.find? (List Comment) list = some seen)
    (error : BackendError) : (callback page list (.error error)).run app =
      ⟨some (app.modify page (setComments seen)), [], []⟩ := by
  simp only [callback, Program.done_seq, Code.withObject, Program.run_inspect, found]
  rfl

theorem run_callback_ok (found : app.find? (List Comment) list = some seen)
    (changes : List DocumentChange) : (callback page list (.ok changes)).run app =
      ⟨some ((app.modify list fun comments : List Comment =>
        comments ++ CommentService.added app.now changes).modify page
          (setComments (seen ++ CommentService.added app.now changes))), [], []⟩ := by
  have ran : (callback page list (.ok changes)).run app =
      (Code.withObject list fun comments => Code.modify page (setComments comments)).run
        (app.modify list fun comments : List Comment =>
          comments ++ CommentService.added app.now changes) := rfl
  rw [ran, Code.withObject, Program.run_inspect, App.find?_modify, found]
  rfl

theorem run_viewDidLoad {controller : CommentController}
    (found : app.find? CommentController page = some controller) :
    (CommentController.viewDidLoad page).run app =
      ⟨some (app.add (.capturedComments []) false), [],
        [⟨comments controller.post.postId, callback page app.objects.length⟩]⟩ := by
  simp only [CommentController.viewDidLoad, CommentController.fetchComments, Code.withObject,
    Program.run_inspect, found]
  refine congrArg (fun code => (⟨some (app.add (.capturedComments []) false), [],
    [⟨comments controller.post.postId, code⟩]⟩ : Effect firebase App)) ?_
  funext snapshot
  cases snapshot <;> rfl

end Callbacks

section Holds

variable {page : ι → Ref}

private theorem list_lt {app : App} {note : Note ι} (holds : note.Holds page app) :
    note.list < app.objects.length := by
  obtain ⟨entry, present, -⟩ := Option.bind_eq_some_iff.mp holds.2
  exact (List.getElem?_eq_some_iff.mp present).1

private theorem Note.Holds.add {app : App} {note : Note ι} (holds : note.Holds page app)
    (object : Object) (inTab : Bool) : note.Holds page (app.add object inTab) := by
  obtain ⟨controller, found⟩ := Option.isSome_iff_exists.mp holds.1
  refine ⟨?_, App.find?_add holds.2 object inTab⟩
  rw [App.find?_add found]
  rfl

/-- Showing comments on a page leaves the captured lists. -/
private theorem Note.Holds.setComments {app : App} {note : Note ι} (holds : note.Holds page app)
    (ref : Ref) (comments : List Comment) :
    note.Holds page (app.modify ref (setComments comments)) := by
  refine ⟨?_, ?_⟩
  · by_cases same : page note.origin = ref
    · subst same
      rw [App.find?_modify, Option.isSome_map]
      exact holds.1
    · rw [App.find?_modify_of_ne app same]
      exact holds.1
  · rw [App.find?_modify_other (fun _ => rfl)]
    exact holds.2

/-- Extending one captured list leaves the others. -/
private theorem Note.Holds.extend {app : App} {note : Note ι} (holds : note.Holds page app)
    {ref : Ref} (apart : note.list ≠ ref) (change : List Comment → List Comment) :
    note.Holds page (app.modify ref change) := by
  refine ⟨?_, ?_⟩
  · rw [App.find?_modify_other (fun _ => rfl)]
    exact holds.1
  · rw [App.find?_modify_of_ne app apart]
    exact holds.2

end Holds

section Steps

variable [DecidableEq ι] {page : ι → Ref} {net next : Network cloud App ι ι} {notes : List (Note ι)}

/-- Nothing but requests that nobody awaits are in flight, so an answer changes nothing. -/
private theorem Listed.deliver (listed : Listed page net notes) {index : ℕ}
    (delivered : net.deliver? id index = some next) : Listed page next notes := by
  obtain ⟨before, after, origin, call, answer, split, -, rfl⟩ := Network.deliver?_cases delivered
  have ends : call.callback answer = .done :=
    listed.flight ⟨origin, call, some answer⟩ (by simp [split]) answer
  have rest : Listed page { net with flight := before ++ after } notes :=
    ⟨listed.listeners, listed.apart, listed.holds, fun pending member =>
      listed.flight pending (by
        simp only [split, List.mem_append, List.mem_cons] at member ⊢
        tauto)⟩
  rw [ends, Network.launch_done]
  exact rest

omit [DecidableEq ι] in
private theorem Listed.serve (listed : Listed page net notes) {index : ℕ} {choice : Choice}
    (served : net.serve? index choice = some next) : Listed page next notes := by
  have flight := (Network.serve?_flight (fun _ call => ∀ answer, call.callback answer = .done)
    listed.flight served).2
  obtain ⟨before, after, origin, call, store, answer, -, -, -, rfl⟩ := Network.serve?_cases served
  exact ⟨listed.listeners, listed.apart, listed.holds, flight⟩

private theorem Listed.act (listed : Listed page net notes) {client : ι} {action : Action}
    (allowed : Allowed page (.act client action)) :
    ∃ notes, Listed page (net.launch id client action.perform) notes := by
  cases running : net.clients client with
  | none =>
    rw [Network.launch_trapped running]
    exact ⟨notes, listed⟩
  | some app =>
    have launched := Network.launch_running (show net.clients (id client) = some app from running)
      action.perform
    cases action with
    | ask request =>
      refine ⟨notes, ?_⟩
      rw [launched, Action.perform, Program.run_post]
      refine ⟨by simpa using listed.listeners, listed.apart, ?_, ?_⟩
      · simpa [← running] using listed.holds
      · intro pending member
        rcases List.mem_append.mp member with member | member
        · exact listed.flight pending member
        · obtain rfl := List.mem_singleton.mp member
          exact fun _ => rfl
    | viewDidLoad self =>
      obtain rfl : self = page client := allowed
      cases found : app.find? CommentController (page client) with
      | none =>
        have ran : (CommentController.viewDidLoad (page client)).run app = ⟨some app, [], []⟩ := by
          simp [CommentController.viewDidLoad, CommentController.fetchComments, Code.withObject, found]
        refine ⟨notes, ?_⟩
        rw [launched, Action.perform, ran]
        simpa [← running] using listed
      | some controller =>
        refine ⟨notes ++ [⟨client, controller.post.postId, app.objects.length, []⟩], ?_⟩
        rw [launched, Action.perform, run_viewDidLoad found]
        refine ⟨?_, ?_, ?_, by simpa using listed.flight⟩
        · simp [listed.listeners, Note.listener]
        · rw [List.map_append, List.map_singleton, List.nodup_append_comm, List.singleton_append]
          refine List.nodup_cons.mpr ⟨fun member => ?_, listed.apart⟩
          obtain ⟨note, member, same⟩ := List.mem_map.mp member
          obtain ⟨origin, list⟩ := Prod.mk.inj same
          have bound := list_lt (listed.holds note member app (by rw [origin]; exact running))
          exact absurd list (Nat.ne_of_lt bound)
        · intro note member now is
          rcases List.mem_append.mp member with member | added
          · by_cases same : note.origin = client
            · obtain rfl : app.add (.capturedComments []) false = now := by
                simpa [same] using is
              exact (listed.holds note member app (by rw [same]; exact running)).add _ _
            · exact listed.holds note member now (by simpa [same] using is)
          · obtain rfl := List.mem_singleton.mp added
            obtain rfl : app.add (.capturedComments []) false = now := by simpa using is
            refine ⟨?_, ?_⟩
            · rw [App.find?_add found]
              rfl
            · simp [App.find?, App.add, Instance.project, decode]

/-- Everything a notification says: which note it is about, and what it runs. -/
private theorem Listed.notified (listed : Listed page net notes) {index : ℕ} {choice : Choice}
    (notified : net.notify? id index choice = some next) :
    ∃ before note after event documents, notes = before ++ note :: after ∧
      net.listeners[index]? = some (note.listener page) ∧
      cloud.publish choice net.store (net.unsent id note.origin) note.seen (comments note.post) =
        some (event, documents) ∧
      next = Network.launch id
        { net with
          listeners := (before ++ { note with seen := documents } :: after).map
            (Note.listener page) } note.origin (callback (page note.origin) note.list event) := by
  obtain ⟨listener, present, rest⟩ := Option.bind_eq_some_iff.mp notified
  obtain ⟨⟨event, documents⟩, published, rfl⟩ := Option.map_eq_some_iff.mp rest
  have here := present
  rw [listed.listeners, List.getElem?_map] at present
  obtain ⟨note, found, rfl⟩ := Option.map_eq_some_iff.mp present
  obtain ⟨bound, atIndex⟩ := List.getElem?_eq_some_iff.mp found
  have whole : notes = notes.take index ++ note :: notes.drop (index + 1) := by
    rw [← atIndex, ← List.drop_eq_getElem_cons bound, List.take_append_drop]
  refine ⟨notes.take index, note, notes.drop (index + 1), event, documents, whole, here, published, ?_⟩
  have set : net.listeners.set index { note.listener page with cursor := documents } =
      (notes.take index ++ { note with seen := documents } :: notes.drop (index + 1)).map
        (Note.listener page) := by
    rw [listed.listeners, List.set_eq_take_append_cons_drop, if_pos (by simpa using bound)]
    simp [Note.listener]
  rw [← set]
  rfl

private theorem snapshot?_notify {listener : Listener cloud App ι} {index : ℕ} {choice : Choice}
    {event : Except BackendError (List DocumentChange)} {documents : List Document}
    (present : net.listeners[index]? = some listener)
    (published : cloud.publish choice net.store (net.unsent id listener.origin) listener.cursor
      listener.subscription.topic = some (event, documents)) :
    snapshot? net (.signal (.notify index choice)) =
      if event.isOk then some (listener, documents) else none := by
  rw [snapshot?, present, Option.bind_some, published]
  cases event <;> rfl

end Steps

section Snapshots

variable {page : ι → Ref} {app : App} {note : Note ι} {documents : List Document}

/-- What the listener's list becomes when it is shown a result. -/
def Note.listed (now : Timestamp) (note : Note ι) (documents : List Document) : List Comment :=
  decode now note.seen ++ decode now (new note.seen documents)

/-- The client after a snapshot. -/
def Note.shown (page : ι → Ref) (app : App) (note : Note ι) (documents : List Document) : App :=
  (app.modify note.list fun comments : List Comment =>
      comments ++ decode app.now (new note.seen documents)).modify
    (page note.origin) (setComments (note.listed app.now documents))

private theorem run_snapshot (holds : note.Holds page app) (documents : List Document) :
    (callback (page note.origin) note.list
      (.ok (documentChanges note.seen documents))).run app =
        ⟨some (note.shown page app documents), [], []⟩ := by
  rw [run_callback_ok holds.2, added_documentChanges]
  rfl

/-- The page shows the list delivered. -/
private theorem comments_shown (holds : note.Holds page app) (documents : List Document) :
    ((note.shown page app documents).find? CommentController (page note.origin)).map
      CommentController.comments = some (note.listed app.now documents) := by
  obtain ⟨shown, there⟩ := Option.isSome_iff_exists.mp holds.1
  rw [Note.shown, App.find?_modify, App.find?_modify_other (fun _ => rfl), there]
  rfl

/-- The captured list is the delivered one: what the listener has seen, if that is the result. -/
private theorem Note.Holds.shown (holds : note.Holds page app)
    (lists : note.listed app.now documents = decode app.now documents) :
    Note.Holds page (note.shown page app documents) { note with seen := documents } := by
  refine ⟨?_, ?_⟩
  · have page := congrArg Option.isSome (comments_shown holds documents)
    simpa using page
  · rw [Note.shown, App.find?_modify_other (fun _ => rfl), App.find?_modify, holds.2]
    exact congrArg some lists

/-- Other listeners' lists stay as they are. -/
private theorem Note.Holds.beside {other : Note ι} (holds : other.Holds page app)
    (apart : other.list ≠ note.list) : other.Holds page (note.shown page app documents) :=
  (holds.extend apart _).setComments ..

end Snapshots

section Steps

variable [DecidableEq ι] {page : ι → Ref} {net next : Network cloud App ι ι} {notes : List (Note ι)}

/-- Code that leaves one client with the lists it should have. -/
private theorem Listed.resume {later : List (Note ι)} {origin : ι} {program : Code App}
    (listed : Listed page net notes)
    (same : (later.map fun note => (note.origin, note.list)) =
      notes.map fun note => (note.origin, note.list))
    (others : ∀ note ∈ later, note.origin ≠ origin → note ∈ notes)
    (runs : ∀ app ∈ net.clients origin, ∃ after, program.run app = ⟨some after, [], []⟩ ∧
      ∀ note ∈ later, note.origin = origin → note.Holds page after) :
    Listed page (Network.launch id { net with listeners := later.map (Note.listener page) } origin
      program) later := by
  have apart := listed.apart
  rw [← same] at apart
  have trapped (none : net.clients origin = none) (note : Note ι) (member : note ∈ later) :
      ∀ app ∈ net.clients note.origin, note.Holds page app := by
    intro app running
    by_cases mine : note.origin = origin
    · rw [mine, none] at running
      cases running
    · exact listed.holds note (others note member mine) app running
  cases running : net.clients origin with
  | none =>
    rw [Network.launch_trapped (show _ = _ from running)]
    exact ⟨rfl, apart, trapped running, listed.flight⟩
  | some app =>
    obtain ⟨after, ran, holds⟩ := runs app running
    rw [Network.launch_running (show _ = _ from running), ran]
    refine ⟨by simp, apart, fun note member now is => ?_, by simpa using listed.flight⟩
    by_cases mine : note.origin = origin
    · obtain rfl : after = now := by simpa [mine] using is
      exact holds note member mine
    · exact listed.holds note (others note member mine) now (by simpa [mine] using is)

/-- A snapshot whose result continues the one before. -/
private theorem Listed.notify (listed : Listed page net notes) {index : ℕ} {choice : Choice}
    (continues : Continues net (.signal (.notify index choice)))
    (notified : net.notify? id index choice = some next) : ∃ notes, Listed page next notes := by
  obtain ⟨before, note, after, event, documents, rfl, present, published, rfl⟩ :=
    listed.notified notified
  have here : note ∈ before ++ note :: after := by simp
  cases event with
  | error error =>
    obtain ⟨rfl, -⟩ := publish_error published
    refine ⟨_, listed.resume rfl (fun _ member _ => member) fun app running => ?_⟩
    exact ⟨_, run_callback_error (listed.holds note here app running).2 error,
      fun other among mine => (listed.holds other among app (mine ▸ running)).setComments ..⟩
  | ok changes =>
    obtain ⟨rfl, -⟩ := publish_cases published
    have shown := snapshot?_notify present published
    have elsewhere : ∀ other ∈ before ++ { note with seen := documents } :: after,
        other = { note with seen := documents } ∨ other ∈ before ++ note :: after ∧
          (other.origin, other.list) ≠ (note.origin, note.list) := by
      have distinct := listed.apart
      rw [List.map_append, List.map_cons, List.nodup_middle, List.nodup_cons, ← List.map_append]
        at distinct
      intro other member
      rw [List.mem_append, List.mem_cons] at member
      rcases member with member | rfl | member
      · exact .inr ⟨by simp [member], fun same =>
          distinct.1 (same ▸ List.mem_map_of_mem (List.mem_append_left _ member))⟩
      · exact .inl rfl
      · exact .inr ⟨by simp [member], fun same =>
          distinct.1 (same ▸ List.mem_map_of_mem (List.mem_append_right _ member))⟩
    refine ⟨_, listed.resume (by simp) ?_ ?_⟩
    · intro other member foreign
      rcases elsewhere other member with rfl | ⟨among, -⟩
      · exact absurd rfl foreign
      · exact among
    · intro app running
      have holds := listed.holds note here app running
      refine ⟨_, run_snapshot holds documents, fun other member mine => ?_⟩
      rcases elsewhere other member with rfl | ⟨among, apart⟩
      · exact holds.shown (continues _ shown app running).symm
      · refine (listed.holds other among app (mine ▸ running)).beside fun same => ?_
        exact apart (by rw [mine, same])

/-- A step whose snapshot, if it is one, continues the one before. -/
private theorem Listed.step {event : Event cloud ι Action} (listed : Listed page net notes)
    (allowed : Allowed page event) (continues : Continues net event)
    (taken : net.event? Action.perform event = some next) : ∃ notes, Listed page next notes := by
  cases event with
  | act client action =>
    obtain rfl := Option.some.inj taken
    exact listed.act allowed
  | signal signal =>
    cases signal with
    | serve index choice => exact ⟨notes, listed.serve taken⟩
    | deliver index => exact ⟨notes, listed.deliver taken⟩
    | notify index choice => exact listed.notify continues taken

/-- The page lists the result after a snapshot exactly if that continues the one before. -/
private theorem Listed.listsResult_iff {event : Event cloud ι Action} (listed : Listed page net notes)
    (taken : net.event? Action.perform event = some next) :
    ListsResult page net event ↔ Continues net event := by
  rcases event with ⟨client, action⟩ | ⟨index, choice⟩ | index | ⟨index, choice⟩
  case signal.notify =>
    obtain ⟨before, note, after, event, documents, rfl, present, published, rfl⟩ :=
      listed.notified taken
    have here : note ∈ before ++ note :: after := by simp
    have shows := snapshot?_notify present published
    cases event with
    | error => simp [ListsResult, Continues, shows, Except.isOk, Except.toBool]
    | ok changes =>
      obtain ⟨rfl, -⟩ := publish_cases published
      have delivers : ListsResult page net (.signal (.notify index choice)) ↔
          ∀ app ∈ net.clients note.origin,
            note.listed app.now documents = decode app.now documents := by
        simp only [ListsResult, shows, taken, Except.isOk, Except.toBool, if_true,
          Option.mem_some_iff, forall_eq']
        cases running : net.clients note.origin with
        | none =>
          rw [Network.launch_trapped (show _ = _ from running)]
          simp [Note.listener, running]
        | some app =>
          have holds := listed.holds note here app running
          have shown := comments_shown holds documents
          rw [Network.launch_running (show _ = _ from running), run_snapshot holds]
          simp only [Note.listener, id, Function.update_self, Option.mem_some_iff, forall_eq', shown,
            Option.some.injEq]
          rfl
      rw [delivers, Continues, shows]
      simp only [Except.isOk, Except.toBool, if_true, Option.mem_some_iff, forall_eq']
      exact forall₂_congr fun app _ => eq_comm
  all_goals simp [ListsResult, Continues, snapshot?]

end Steps

/-- At every snapshot of a run the page lists the query's result, exactly if every result continues
the one before. -/
theorem comments_listed_iff [DecidableEq ι] {page : ι → Ref} {net final : Network cloud App ι ι}
    {events : List (Event cloud ι Action)} (idle : net.flight = []) (quiet : net.listeners = []) :
    Run (fun net event next => (Allowed page event ∧ net.event? Action.perform event = some next) ∧
        ListsResult page net event) net events final ↔
      Run (fun net event next => (Allowed page event ∧ net.event? Action.perform event = some next) ∧
        Continues net event) net events final := by
  refine Run.congr (fun net => ∃ notes, Listed page net notes) ?_ ?_ ?_
  · exact ⟨[], ⟨quiet, List.nodup_nil, nofun, by simp [idle]⟩⟩
  · rintro net event next ⟨-, taken⟩ ⟨notes, listed⟩
    exact listed.listsResult_iff taken
  · rintro net event next ⟨allowed, taken⟩ continues ⟨notes, listed⟩
    exact listed.step allowed continues taken

section Examples

/-- A device on the comment page of a post, which has no comments. -/
def commenting : Network cloud App Unit Unit where
  store := {}
  clients _ := some
    { currentUser := some "u"
      objects := [⟨.comment { post := .ofDictionary ⟨0, 0⟩ "p" .empty }, true⟩] }

/-- Somebody comments at a time that their device tells, under this id. -/
def comment (seconds : ℤ) (id : String) : List (Event cloud Unit Action) :=
  [.act () (.ask (.addDocument (.comments "p") fun _ =>
      CommentService.data "" (.ofDictionary ⟨0, 0⟩ "p" .empty) (.ofDictionary .empty) ⟨seconds, 0⟩)),
    .signal (.serve 0 (.answer [] id)), .signal (.deliver 0)]

/-- The page is shown the comments with these ids. -/
def snapshot (ids : List String) : Event cloud Unit Action :=
  .signal (.notify 0 (.answer (ids.map (.comment "p")) ""))

/-- Two comments are in the first snapshot, and an older one comes in later. -/
def older : List (Event cloud Unit Action) :=
  [.act () (.viewDidLoad 0)] ++ comment 2 "a" ++ comment 3 "b" ++ [snapshot ["b", "a"]] ++
    comment 1 "c" ++ [snapshot ["b", "a", "c"]]

/-- The page lists all three. -/
theorem comments_listed_older : ∃ final,
    Run (fun net event next => (Allowed (fun _ => 0) event ∧
      net.event? Action.perform event = some next) ∧ ListsResult (fun _ => 0) net event)
      commenting older final := by
  have completes : (replay? (fun net event =>
      if Allowed (fun _ : Unit => 0) event ∧ Continues net event then
        net.event? Action.perform event else none) commenting older).any
      (fun _ => decide True) = true := by
    decide +kernel
  obtain ⟨final, run, -⟩ := exists_run_of_replay? completes
  have continues := run.mono fun {net event next} taken =>
    show (Allowed (fun _ => 0) event ∧ net.event? Action.perform event = some next) ∧
        Continues net event by
      split_ifs at taken with fine
      exact ⟨⟨fine.1, taken⟩, fine.2⟩
  exact ⟨final, (@comments_listed_iff Unit _ (fun _ => 0) _ _ _ rfl rfl).mpr continues⟩

/-- A comment that comes in later is newer, and is listed last. -/
theorem comments_not_listed :
    ¬ ∀ (page : Unit → Ref) (net final : Network cloud App Unit Unit)
      (events : List (Event cloud Unit Action)), net.flight = [] → net.listeners = [] →
      Run (fun net event next => Allowed page event ∧ net.event? Action.perform event = some next)
        net events final →
      ∀ event, Allowed page event → ListsResult page final event := by
  intro claim
  have completes : (replay? (fun net event => if Allowed (fun _ : Unit => 0) event then
      net.event? Action.perform event else none) commenting
      ([.act () (.viewDidLoad 0)] ++ comment 1 "a" ++ [snapshot ["a"]] ++ comment 2 "b")).any
      (fun final => decide (¬ ListsResult (fun _ => 0) final (snapshot ["b", "a"]))) = true := by
    decide +kernel
  obtain ⟨final, run, wrong⟩ := exists_run_of_replay? completes
  refine wrong (claim _ _ final _ rfl rfl (run.mono fun {net event next} taken => ?_) _ trivial)
  split_ifs at taken with fine
  exact ⟨fine, taken⟩

end Examples

end CommentLists

end InstagramClone
