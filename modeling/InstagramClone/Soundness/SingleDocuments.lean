import InstagramClone.Async.Quota
import InstagramClone.Controller.CommentController
import InstagramClone.Controller.UserAction
import InstagramClone.Discipline.Preservation

/-! # The documents of one submission

A page for a new post is dismissed, and the text of a comment cleared, only by a completion, so that
a second tap in between submits the same again. If nothing of a composition is in flight when it is
submitted, it becomes one document at most, and one notification.
-/

namespace InstagramClone

open Async

namespace SingleDocuments

section Steps

/-- What the user composes: every edit, and the clearing of a text, begins another one, also an edit
that leaves the text as it was. -/
inductive Composition where
  | caption (number : ℕ)
  | comment (number : ℕ)
  /-- Whatever else the app does. -/
  | other
deriving DecidableEq

def host (_ : Composition) : Unit := ()

/-- The client with the numbers of the compositions under way, and what was created for whom. -/
structure Screens where
  net : Network cloud App Composition Unit
  caption : ℕ := 0
  comment : ℕ := 0
  dismissed : Bool := false
  log : List (Composition × Request) := []

def posts : Request → Bool
  | .addDocument .posts _ => true
  | _ => false

def comments : Request → Bool
  | .addDocument (.comments _) _ => true
  | _ => false

def notifications : Request → Bool
  | .addDocument (.userNotifications _) _ => true
  | _ => false

/-- How many documents of the kind were created for the composition. -/
def Screens.created (screens : Screens) (kind : Request → Bool) (composition : Composition) : ℕ :=
  screens.log.countP fun entry => entry.1 = composition && kind entry.2

/-- No composition became two documents, or two notifications. The same text counts as often as it
was composed. -/
def Screens.OneEach (screens : Screens) : Prop :=
  ∀ number, screens.created posts (.caption number) ≤ 1 ∧
    screens.created comments (.comment number) ≤ 1 ∧
    screens.created notifications (.comment number) ≤ 1

inductive Input where
  | share
  | editCaption (caption : String)
  | post
  | editText (text : String)
  /-- The app does something else, or the store changes by other hands. -/
  | act (code : Code App)
  | change (store : Cloud)
  | signal (signal : Signal cloud)

/-- The request was answered without an error. -/
def succeeded? (pending : Pending firebase App Composition) : Option (Composition × Request) :=
  pending.answer.bind fun answer =>
    if pending.call.request.succeeded answer then some (pending.origin, pending.call.request) else none

/-- The completion dismisses the page, or clears the text. -/
def closes (pending : Pending firebase App Composition) : Bool :=
  match pending.origin with
  | .caption _ => posts pending.call.request && pending.answer.any pending.call.request.succeeded
  | .comment _ => comments pending.call.request && pending.answer.isSome
  | .other => false

/-- What the page or the input view has come to when the request's completion has run. -/
def Screens.after (screens : Screens) (pending : Pending firebase App Composition)
    (net : Network cloud App Composition Unit) : Screens :=
  if closes pending then
    match pending.origin with
    | .caption _ => { screens with net, dismissed := true }
    | .comment _ => { screens with net, comment := screens.comment + 1 }
    | .other => { screens with net }
  else { screens with net }

/-- One step of the page for a new post, the input view of a comment page, and the rest. -/
def step? (upload page : Ref) (screens : Screens) : Input → Option Screens
  | .share =>
    if screens.dismissed then none else
    some { screens with
      net := screens.net.launch host (.caption screens.caption) (UploadPostController.onTapShare upload) }
  | .editCaption caption =>
    if screens.dismissed then none else
    some { screens with
      net := screens.net.launch host .other (UploadPostController.editCaption upload caption)
      caption := screens.caption + 1 }
  | .post =>
    some { screens with
      net := screens.net.launch host (.comment screens.comment) (CommentController.onTapPost page) }
  | .editText text =>
    some { screens with
      net := screens.net.launch host .other (CommentController.editText page text)
      comment := screens.comment + 1 }
  | .act code => some { screens with net := screens.net.launch host .other code }
  | .change store => some { screens with net := { screens.net with store } }
  | .signal (.serve index choice) => (screens.net.serve? index choice).map fun net =>
    { screens with net, log := screens.log ++ (net.flight[index]?.bind succeeded?).toList }
  | .signal (.deliver index) => (screens.net.deliver? host index).bind fun net =>
    screens.net.flight[index]?.map fun pending => screens.after pending net
  | .signal (.notify index choice) => (screens.net.notify? host index choice).map fun net =>
    { screens with net }

/-- Nothing of the composition that is submitted is in flight. -/
def Clean (screens : Screens) : Input → Prop
  | .share => screens.net.Idle (.caption screens.caption)
  | .post => screens.net.Idle (.comment screens.comment)
  | _ => True

instance (screens : Screens) (input : Input) : Decidable (Clean screens input) :=
  match input with
  | .share | .post => inferInstanceAs (Decidable (∀ pending ∈ screens.net.flight, _ ≠ _))
  | .editCaption _ | .editText _ | .act _ | .change _ | .signal _ =>
    inferInstanceAs (Decidable True)

end Steps

section Code

variable {self : Ref} {kind : Request → Bool} {α : Type} [Instance α]

private theorem once_withObject {body : α → Code App} (each : ∀ value, (body value).Once kind) :
    (Code.withObject self body).Once kind := by
  intro app
  cases found : app.find? α self with
  | none => simp only [found, Program.Once]
  | some value =>
    simp only [found]
    exact each value

private theorem once_withCurrentUser {body : Uid → Code App} (each : ∀ uid, (body uid).Once kind) :
    (Code.withCurrentUser body).Once kind := by
  intro app
  cases signedIn : Device.currentUser app with
  | none => simp only [signedIn, Program.Once]
  | some uid =>
    simp only [signedIn]
    exact each uid

/-- A request of another kind, whose handler may go on. -/
private theorem once_call {request : Request} {completion : request.Response → Code App}
    (other : kind request = false) (each : ∀ answer, (completion answer).Once kind) :
    (Code.call request completion).Once kind :=
  .inl ⟨⟨each, fun asked => absurd asked (by simp [other])⟩, trivial⟩

/-- A request, whose handler issues nothing of the kind. -/
private theorem once_call_never {request : Request} {completion : request.Response → Code App}
    (never : ∀ answer, (completion answer).Never kind) : (Code.call request completion).Once kind :=
  .inl ⟨⟨fun answer => (never answer).once, fun _ => never⟩, trivial⟩

private theorem posts_of_reads (request : Request) (reads : request.writes = false) :
    posts request = false := by
  cases request <;> first | rfl | cases reads

private theorem once_onTapShare : (UploadPostController.onTapShare self).Once posts := by
  refine once_withObject fun upload => ?_
  split
  · next image user _ _ =>
    refine once_withCurrentUser fun uid => ?_
    refine ImageUploaderService.uploadImage_induction (Program.Once posts) trivial trivial
      (fun _ _ _ each => once_call rfl each) (fun _ _ each => once_call rfl each) fun url => ?_
    refine fun app => once_call_never fun error => ?_
    cases error with
    | some error => trivial
    | none =>
      exact MainTabController.preserves_didFinishUploadPost posts_of_reads
        (fun _ _ _ _ => trivial) (fun _ _ _ _ => trivial) fun _ _ _ _ _ => trivial
  · trivial

/-- The handler of a comment notifies at most once, and comments no more. -/
private theorem commented {post : Post} {user : User} :
    (Program.seq (CommentController.clearInputText self)
      (NotificationService.addNotification post.ownerUid user .comment (some post))).Never comments ∧
    (Program.seq (CommentController.clearInputText self)
      (NotificationService.addNotification post.ownerUid user .comment (some post))).Once
        notifications := by
  constructor
  · exact Program.Preserves.seq ⟨fun _ _ => trivial, trivial⟩
      (NotificationService.preserves_addNotification fun _ => rfl)
  · refine once_withCurrentUser fun uid => ?_
    split_ifs
    · trivial
    · exact fun app => once_call_never fun _ => trivial

private theorem once_onTapPost : (CommentController.onTapPost self).Once comments ∧
    (CommentController.onTapPost self).Once notifications := by
  constructor
  · refine once_withObject fun page app => ?_
    dsimp only
    split
    · exact once_withObject fun page app => once_call_never fun _ => commented.1
    · trivial
  · refine once_withObject fun page app => ?_
    dsimp only
    split
    · exact once_withObject fun page app => once_call rfl fun _ => commented.2
    · trivial

/-- A tap on Post uploads the comment, and does nothing else at first. -/
private theorem run_onTapPost (app : App) :
    (∀ call ∈ ((CommentController.onTapPost self).run app).calls, comments call.request = true) ∧
      ((CommentController.onTapPost self).run app).subscriptions = [] := by
  simp only [CommentController.onTapPost, CommentController.uploadText, Code.withObject,
    Program.run_inspect]
  cases found : app.find? CommentController self with
  | none => simp
  | some page =>
    simp only [Code.withTabUser, Program.run_inspect]
    split
    · simp [found, CommentService.uploadComment, comments]
    · simp

end Code

section Invariant

/-- The documents of this kind are counted for this composition. -/
inductive Counts : (Request → Bool) → Composition → Prop
  | posts (number : ℕ) : Counts posts (.caption number)
  | comments (number : ℕ) : Counts comments (.comment number)
  | notifications (number : ℕ) : Counts notifications (.comment number)

/-- The composition is under way, or was. -/
def Screens.Begun (screens : Screens) : Composition → Prop
  | .caption number => number ≤ screens.caption
  | .comment number => number ≤ screens.comment
  | .other => True

/-- The composition cannot be submitted any more. -/
def Screens.Closed (screens : Screens) : Composition → Prop
  | .caption number => screens.dismissed = true ∨ number < screens.caption
  | .comment number => number < screens.comment
  | .other => False

/-- The network keeps the counts. -/
def Counted (screens : Screens) : Prop :=
  ∀ kind composition, Counts kind composition →
    screens.net.Quota kind composition (screens.created kind composition)

/-- What was created for a composition is still to be reported, or has closed it. -/
structure Ordered (screens : Screens) : Prop where
  begun : ∀ pending ∈ screens.net.flight, screens.Begun pending.origin
  logged : ∀ entry ∈ screens.log, screens.Begun entry.1
  heard : ∀ listener ∈ screens.net.listeners, screens.Begun listener.origin ∧
    ∀ number, listener.origin = .comment number → screens.Closed listener.origin
  first : ∀ pending ∈ screens.net.flight, ∀ number, pending.origin = .comment number →
    comments pending.call.request = true ∨ screens.Closed pending.origin
  made : ∀ entry ∈ screens.log, ∀ kind, Counts kind entry.1 → kind entry.2 = true →
    screens.Closed entry.1 ∨
      ∃ pending ∈ screens.net.flight, pending.origin = entry.1 ∧ closes pending = true

/-- The counters do not go back. -/
structure Later (screens next : Screens) : Prop where
  caption : screens.caption ≤ next.caption
  comment : screens.comment ≤ next.comment
  dismissed : screens.dismissed = true → next.dismissed = true

variable {screens next : Screens} {composition : Composition} {code : Code App}
  {upload page : Ref} {input : Input}

private theorem Later.begun (later : Later screens next) (begun : screens.Begun composition) :
    next.Begun composition := by
  cases composition with
  | caption number => exact le_trans begun later.caption
  | comment number => exact le_trans begun later.comment
  | other => trivial

private theorem Later.closed (later : Later screens next) (closed : screens.Closed composition) :
    next.Closed composition := by
  cases composition with
  | caption number => exact closed.imp later.dismissed fun past => lt_of_lt_of_le past later.caption
  | comment number => exact lt_of_lt_of_le closed later.comment
  | other => exact closed

/-- Nothing was created for a composition that is open and has nothing in flight. -/
private theorem Ordered.created_eq_zero (ordered : Ordered screens)
    (idle : screens.net.Idle composition) (opened : ¬ screens.Closed composition)
    {kind : Request → Bool} (counts : Counts kind composition) :
    screens.created kind composition = 0 := by
  refine List.countP_eq_zero.mpr ?_
  rintro ⟨origin, request⟩ member created
  simp only [Bool.and_eq_true, decide_eq_true_eq] at created
  obtain ⟨rfl, created⟩ := created
  obtain closed | ⟨pending, among, same, -⟩ := ordered.made _ member kind counts created
  · exact opened closed
  · exact idle pending among same

/-- Code runs for a composition that is begun. For a comment it uploads that first, or comes after
the text was cleared. -/
private theorem Ordered.launch (ordered : Ordered screens) (later : Later screens next)
    (log : next.log = screens.log) (net : next.net = screens.net.launch host composition code)
    (begun : next.Begun composition)
    (first : ∀ number, composition = .comment number → next.Closed composition ∨
      ∀ app, (∀ call ∈ (code.run app).calls, comments call.request = true) ∧
        (code.run app).subscriptions = []) : Ordered next := by
  cases running : screens.net.clients () with
  | none =>
    rw [Network.launch_trapped running] at net
    refine ⟨?_, ?_, ?_, ?_, ?_⟩
    · exact net ▸ fun pending member => later.begun (ordered.begun pending member)
    · exact log ▸ fun entry member => later.begun (ordered.logged entry member)
    · exact net ▸ fun listener member => (ordered.heard listener member).imp later.begun
        fun closed number same => later.closed (closed number same)
    · exact net ▸ fun pending member number same =>
        (ordered.first pending member number same).imp_right later.closed
    · exact net ▸ log ▸ fun entry member kind counts created =>
        (ordered.made entry member kind counts created).imp_left later.closed
  | some app =>
    rw [Network.launch_running running] at net
    have flight : ∀ pending ∈ next.net.flight, pending ∈ screens.net.flight ∨
        pending.origin = composition ∧ pending.call ∈ (code.run app).calls := by
      rw [net]
      intro pending member
      refine (List.mem_append.mp member).imp_right fun member => ?_
      obtain ⟨call, asked, rfl⟩ := List.mem_map.mp member
      exact ⟨rfl, asked⟩
    have listeners : ∀ listener ∈ next.net.listeners, listener ∈ screens.net.listeners ∨
        listener.origin = composition ∧ listener.subscription ∈ (code.run app).subscriptions := by
      rw [net]
      intro listener member
      refine (List.mem_append.mp member).imp_right fun member => ?_
      obtain ⟨subscription, opened, rfl⟩ := List.mem_map.mp member
      exact ⟨rfl, opened⟩
    refine ⟨?_, ?_, ?_, ?_, ?_⟩
    · intro pending member
      rcases flight pending member with member | ⟨same, -⟩
      · exact later.begun (ordered.begun pending member)
      · exact same ▸ begun
    · exact log ▸ fun entry member => later.begun (ordered.logged entry member)
    · intro listener member
      rcases listeners listener member with member | ⟨same, opened⟩
      · exact (ordered.heard listener member).imp later.begun
          fun closed number same => later.closed (closed number same)
      · refine ⟨same ▸ begun, fun number comment => ?_⟩
        rw [same] at comment ⊢
        refine (first number comment).resolve_right fun silent => ?_
        simp [(silent app).2] at opened
    · intro pending member number comment
      rcases flight pending member with member | ⟨same, asked⟩
      · exact (ordered.first pending member number comment).imp_right later.closed
      · rw [same] at comment ⊢
        exact (first number comment).symm.imp_left fun silent => (silent app).1 _ asked
    · rw [log]
      intro entry member kind counts created
      refine (ordered.made entry member kind counts created).imp later.closed ?_
      rintro ⟨pending, among, rest⟩
      exact ⟨pending, net ▸ List.mem_append_left _ among, rest⟩

private theorem Counted.submit (counted : Counted screens) (ordered : Ordered screens)
    (idle : screens.net.Idle composition) (opened : ¬ screens.Closed composition)
    (once : ∀ kind, Counts kind composition → code.Once kind) :
    Counted { screens with net := screens.net.launch host composition code } := by
  intro kind counting counts
  by_cases same : composition = counting
  · subst same
    have zero := ordered.created_eq_zero idle opened counts
    have quota : screens.net.Quota kind composition 0 := zero ▸ counted kind composition counts
    have created : Screens.created { screens with
        net := screens.net.launch host composition code } kind composition = 0 := zero
    rw [created]
    exact quota.launch_once (fun pending member same => absurd same (idle pending member))
      (once kind counts)
  · exact (counted kind counting counts).launch fun also => absurd also same

/-- What the app does besides is not counted. -/
private theorem Counted.other (counted : Counted screens)
    (log : next.log = screens.log) (net : next.net = screens.net.launch host .other code) :
    Counted next := by
  intro kind composition counts
  rw [Screens.created, log, net]
  refine (counted kind composition counts).launch ?_
  rintro rfl
  cases counts

section Signals

variable {before after : List (Pending firebase App Composition)}
  {call : Call firebase App} {store : Cloud} {index : ℕ}
  {choice : Backend.Choice cloud} {net : Network cloud App Composition Unit}

/-- What creates a document that is counted closes its composition, or finds it closed. -/
private theorem closed_or_closes (ordered : Ordered screens)
    (mine : (⟨composition, call, none⟩ : Pending firebase App Composition) ∈ screens.net.flight)
    {kind : Request → Bool} (counts : Counts kind composition)
    (created : kind call.request = true) : screens.Closed composition ∨
      ∀ answer, call.request.succeeded answer = true → closes ⟨composition, call, some answer⟩ := by
  cases counts with
  | posts number => exact .inr fun answer good => by simp [closes, created, good]
  | comments number => exact .inr fun answer _ => by simp [closes, created]
  | notifications number =>
    refine .inl ((ordered.first _ mine number rfl).resolve_left fun asked => ?_)
    change comments call.request = true at asked
    unfold notifications at created
    split at created
    · next request => simp [request, comments] at asked
    · cases created

private theorem serve_keeps (counted : Counted screens) (ordered : Ordered screens)
    (served : screens.net.serve? index choice = some net) :
    Counted { screens with net, log := screens.log ++ (net.flight[index]?.bind succeeded?).toList } ∧
    Ordered { screens with net, log := screens.log ++ (net.flight[index]?.bind succeeded?).toList } := by
  obtain ⟨before, after, origin, call, store, answer, split, rfl, -, rfl⟩ :=
    Network.serve?_cases served
  have entry : (before ++ ⟨origin, call, some answer⟩ :: after)[before.length]? =
      some (⟨origin, call, some answer⟩ : Pending firebase App Composition) := by
    simp
  simp only [entry, Option.bind_some, succeeded?]
  constructor
  · intro kind composition counts
    refine (counted kind composition counts).answer split ?_
    simp only [Screens.created, List.countP_append]
    split_ifs
    · by_cases mine : origin = composition ∧ kind call.request = true
      · refine .inr ⟨mine.1, mine.2, ?_⟩
        simp [mine.1, mine.2]
      · refine .inl ?_
        simpa using mine
    · exact .inl rfl
  · have entries : ∀ pending ∈ before ++ ⟨origin, call, some answer⟩ :: after,
        ∃ earlier ∈ screens.net.flight, earlier.origin = pending.origin ∧
          earlier.call.request = pending.call.request := by
      intro pending member
      rcases List.mem_append.mp member with member | member
      · exact ⟨pending, by simp [split, member], rfl, rfl⟩
      rcases List.mem_cons.mp member with rfl | member
      · exact ⟨⟨origin, call, none⟩, by simp [split], rfl, rfl⟩
      · exact ⟨pending, by simp [split, member], rfl, rfl⟩
    have mine : (⟨origin, call, none⟩ : Pending firebase App Composition) ∈ screens.net.flight := by
      simp [split]
    refine ⟨?_, ?_, ordered.heard, ?_, ?_⟩
    · intro pending member
      obtain ⟨earlier, among, same, -⟩ := entries pending member
      exact same ▸ ordered.begun earlier among
    · intro entry member
      rcases List.mem_append.mp member with member | member
      · exact ordered.logged entry member
      · split_ifs at member
        · obtain rfl := List.mem_singleton.mp member
          exact ordered.begun _ mine
        · cases member
    · intro pending member number comment
      obtain ⟨earlier, among, same, asked⟩ := entries pending member
      rw [← same, ← asked]
      exact ordered.first earlier among number (same.trans comment)
    · intro entry member kind counts created
      rcases List.mem_append.mp member with member | member
      · refine (ordered.made entry member kind counts created).imp_right ?_
        rintro ⟨pending, among, same, closing⟩
        refine ⟨pending, ?_, same, closing⟩
        rw [split] at among
        rcases List.mem_append.mp among with among | among
        · exact List.mem_append_left _ among
        rcases List.mem_cons.mp among with rfl | among
        · cases origin <;> simp [closes] at closing
        · exact List.mem_append_right _ (List.mem_cons_of_mem _ among)
      · split_ifs at member with good
        · obtain rfl := List.mem_singleton.mp member
          refine (closed_or_closes ordered mine counts created).imp_right fun closing => ?_
          exact ⟨⟨origin, call, some answer⟩, by simp, rfl, closing answer good⟩
        · cases member

variable {mine : Pending firebase App Composition} {rest : Network cloud App Composition Unit}

private theorem after_net (screens : Screens) (mine : Pending firebase App Composition)
    (net : Network cloud App Composition Unit) :
    (screens.after mine net).net = net ∧ (screens.after mine net).log = screens.log := by
  unfold Screens.after
  split_ifs
  · cases mine.origin <;> exact ⟨rfl, rfl⟩
  · exact ⟨rfl, rfl⟩

private theorem later_after : Later screens (screens.after mine net) := by
  unfold Screens.after
  split_ifs
  · cases mine.origin with
    | caption number => exact ⟨le_rfl, le_rfl, fun _ => rfl⟩
    | comment number => exact ⟨le_rfl, Nat.le_succ _, id⟩
    | other => exact ⟨le_rfl, le_rfl, id⟩
  · exact ⟨le_rfl, le_rfl, id⟩

private theorem after_later : Later (screens.after mine rest) (screens.after mine net) := by
  unfold Screens.after
  split_ifs
  · cases mine.origin <;> exact ⟨le_rfl, le_rfl, id⟩
  · exact ⟨le_rfl, le_rfl, id⟩

/-- A completion that dismisses the page or clears the text closes the composition. -/
private theorem closed_after (ordered : Ordered screens) (member : mine ∈ screens.net.flight)
    (closing : closes mine = true) : (screens.after mine net).Closed mine.origin := by
  have begun := ordered.begun mine member
  unfold Screens.after
  rw [if_pos closing]
  cases origin : mine.origin with
  | caption number => exact .inl rfl
  | comment number =>
    rw [origin] at begun
    exact Nat.lt_succ_of_le begun
  | other => simp [closes, origin] at closing

/-- An answer leaves the flight, and what it closes is closed. -/
private theorem Ordered.erase (ordered : Ordered screens)
    (split : screens.net.flight = before ++ mine :: after) :
    Ordered (screens.after mine { screens.net with flight := before ++ after }) := by
  have member : mine ∈ screens.net.flight := by simp [split]
  have kept : before ++ after ⊆ screens.net.flight := by
    rw [split]
    exact ((List.Sublist.refl before).append (List.sublist_cons_self mine after)).subset
  obtain ⟨net, log⟩ := after_net screens mine { screens.net with flight := before ++ after }
  refine ⟨?_, ?_, ?_, ?_, ?_⟩
  · rw [net]
    exact fun pending among => later_after.begun (ordered.begun pending (kept among))
  · rw [log]
    exact fun entry among => later_after.begun (ordered.logged entry among)
  · rw [net]
    exact fun listener among => (ordered.heard listener among).imp later_after.begun
      fun closed number same => later_after.closed (closed number same)
  · rw [net]
    exact fun pending among number same =>
      (ordered.first pending (kept among) number same).imp_right later_after.closed
  · rw [net, log]
    intro entry among kind counts created
    obtain closed | ⟨pending, found, same, closing⟩ := ordered.made entry among kind counts created
    · exact .inl (later_after.closed closed)
    rw [split] at found
    rcases List.mem_append.mp found with found | found
    · exact .inr ⟨pending, List.mem_append_left _ found, same, closing⟩
    rcases List.mem_cons.mp found with rfl | found
    · exact .inl (same ▸ closed_after ordered member closing)
    · exact .inr ⟨pending, List.mem_append_right _ found, same, closing⟩

private theorem deliver_keeps (counted : Counted screens) (ordered : Ordered screens)
    (found : screens.net.flight[index]? = some mine)
    (delivered : screens.net.deliver? host index = some net) :
    Counted (screens.after mine net) ∧ Ordered (screens.after mine net) := by
  constructor
  · intro kind composition counts
    rw [Screens.created, (after_net screens mine net).1, (after_net screens mine net).2]
    exact (counted kind composition counts).deliver delivered
  obtain ⟨before, after, origin, call, answer, split, rfl, rfl⟩ := Network.deliver?_cases delivered
  have here : screens.net.flight[before.length]? = some ⟨origin, call, some answer⟩ := by
    simp [split]
  obtain rfl := Option.some.inj (found.symm.trans here)
  have member : (⟨origin, call, some answer⟩ : Pending firebase App Composition) ∈
      screens.net.flight := by
    simp [split]
  have net : (screens.after ⟨origin, call, some answer⟩ (Network.launch host
      { screens.net with flight := before ++ after } origin (call.callback answer))).net =
        (screens.after ⟨origin, call, some answer⟩
          { screens.net with flight := before ++ after }).net.launch host origin
            (call.callback answer) := by
    rw [(after_net ..).1, (after_net ..).1]
  refine (ordered.erase split).launch after_later ?_ net ?_ ?_
  · rw [(after_net ..).2, (after_net ..).2]
  · exact later_after.begun (ordered.begun _ member)
  · rintro number rfl
    obtain asked | closed := ordered.first _ member number rfl
    · exact .inl (closed_after ordered member (by simpa [closes] using asked))
    · exact .inl (later_after.closed closed)

private theorem notify_keeps (counted : Counted screens) (ordered : Ordered screens)
    (notified : screens.net.notify? host index choice = some net) :
    Counted { screens with net } ∧ Ordered { screens with net } := by
  constructor
  · exact fun kind composition counts => (counted kind composition counts).notify notified
  obtain ⟨before, after, origin, subscription, cursor, event, seen, split, -, rfl⟩ :=
    Network.notify?_cases notified
  have mine := ordered.heard ⟨origin, subscription, cursor⟩ (by simp [split])
  have heard : Ordered { screens with net := { screens.net with
      listeners := before ++ ⟨origin, subscription, seen⟩ :: after } } := by
    refine ⟨ordered.begun, ordered.logged, fun listener member => ?_, ordered.first, ordered.made⟩
    rcases List.mem_append.mp member with member | member
    · exact ordered.heard listener (by simp [split, member])
    rcases List.mem_cons.mp member with rfl | member
    · exact mine
    · exact ordered.heard listener (by simp [split, member])
  exact heard.launch ⟨le_rfl, le_rfl, id⟩ rfl rfl mine.1 fun number comment =>
    .inl (mine.2 number comment)

end Signals

private theorem step_keeps (counted : Counted screens) (ordered : Ordered screens)
    (clean : Clean screens input) (taken : step? upload page screens input = some next) :
    Counted next ∧ Ordered next := by
  cases input with
  | share =>
    simp only [step?] at taken
    split_ifs at taken with dismissed
    obtain rfl := Option.some.inj taken
    refine ⟨counted.submit ordered clean ?_ ?_, ordered.launch ⟨le_rfl, le_rfl, id⟩ rfl rfl le_rfl nofun⟩
    · simp [Screens.Closed, dismissed]
    · rintro kind ⟨⟩
      exact once_onTapShare
  | editCaption caption =>
    simp only [step?] at taken
    split_ifs at taken with dismissed
    obtain rfl := Option.some.inj taken
    exact ⟨counted.other rfl rfl,
      ordered.launch ⟨Nat.le_succ _, le_rfl, id⟩ rfl rfl trivial nofun⟩
  | post =>
    obtain rfl := Option.some.inj taken
    refine ⟨counted.submit ordered clean (lt_irrefl _) ?_,
      ordered.launch ⟨le_rfl, le_rfl, id⟩ rfl rfl le_rfl fun _ _ => .inr run_onTapPost⟩
    rintro kind (_ | _)
    · exact once_onTapPost.1
    · exact once_onTapPost.2
  | editText text =>
    obtain rfl := Option.some.inj taken
    exact ⟨counted.other rfl rfl,
      ordered.launch ⟨le_rfl, Nat.le_succ _, id⟩ rfl rfl trivial nofun⟩
  | act code =>
    obtain rfl := Option.some.inj taken
    exact ⟨counted.other rfl rfl, ordered.launch ⟨le_rfl, le_rfl, id⟩ rfl rfl trivial nofun⟩
  | change store =>
    obtain rfl := Option.some.inj taken
    exact ⟨fun kind composition counts => (counted kind composition counts).congr rfl rfl,
      ⟨ordered.begun, ordered.logged, ordered.heard, ordered.first, ordered.made⟩⟩
  | signal signal =>
    cases signal with
    | serve index choice =>
      obtain ⟨net, served, rfl⟩ := Option.map_eq_some_iff.mp taken
      exact serve_keeps counted ordered served
    | deliver index =>
      obtain ⟨net, delivered, rest⟩ := Option.bind_eq_some_iff.mp taken
      obtain ⟨pending, found, rfl⟩ := Option.map_eq_some_iff.mp rest
      exact deliver_keeps counted ordered found delivered
    | notify index choice =>
      obtain ⟨net, notified, rfl⟩ := Option.map_eq_some_iff.mp taken
      exact notify_keeps counted ordered notified

end Invariant

/-- A page for a new post and a comment page have been opened, and nothing is under way. -/
structure Opened (net : Network cloud App Composition Unit) : Prop where
  flight : net.flight = []
  listeners : net.listeners = []

/-- If nothing of a composition is in flight when it is submitted, it becomes one document at most,
and one notification, whatever else happens. -/
theorem submissions_once {upload page : Ref} {net : Network cloud App Composition Unit}
    {final : Screens} {inputs : List Input} (opened : Opened net)
    (run : Run (fun screens input next => Clean screens input ∧
      step? upload page screens input = some next) { net } inputs final) : final.OneEach := by
  have start : Counted { net } ∧ Ordered { net } := by
    refine ⟨fun kind composition _ => ⟨?_, ?_, .inl rfl, ?_⟩, ⟨?_, ?_, ?_, ?_, ?_⟩⟩ <;>
      simp [opened.flight, opened.listeners]
  have kept : Counted final ∧ Ordered final :=
    run.invariant start fun taken holds => step_keeps holds.1 holds.2 taken.1 taken.2
  intro number
  exact ⟨(kept.1 _ _ (.posts number)).le_one, (kept.1 _ _ (.comments number)).le_one,
    (kept.1 _ _ (.notifications number)).le_one⟩

section Examples

def user : User := ⟨"", "", "", "", "u", ⟨0, 0, 0⟩, false⟩

/-- A page for a new post, and the comment page of a post of another account. -/
def screen : Network cloud App Composition Unit where
  store := {}
  clients _ := some
    { currentUser := some "u"
      user := some user
      objects := [⟨.uploadPost ⟨some ⟨some [1]⟩, some user, "c"⟩, true⟩,
        ⟨.comment ⟨⟨"p", "", "", 0, "v", "", "", ⟨0, 0⟩, false⟩, [], "t"⟩, true⟩] }

/-- Every request in flight is answered, oldest first. -/
def answers (names : List String) : List Input :=
  names.mapIdx (fun index name => .signal (.serve index (.answer [] name))) ++
    names.map fun _ => .signal (.deliver 0)

/-- A post is shared and a comment posted, and answered in time. -/
theorem submissions_once_both : ∃ final,
    Run (fun screens input next => Clean screens input ∧ step? 0 1 screens input = some next)
      { net := screen }
      ([.share, .post] ++ answers ["gs://instagramclone-62b50.appspot.com/a", "k"] ++
        answers ["", "n"] ++ [.post] ++ answers ["x"]) final ∧
    final.OneEach := by
  let inputs : List Input := [.share, .post] ++
    answers ["gs://instagramclone-62b50.appspot.com/a", "k"] ++ answers ["", "n"] ++ [.post] ++
      answers ["x"]
  have completes : (replay? (fun screens input =>
      if Clean screens input then step? 0 1 screens input else none) { net := screen } inputs).any
        (fun screens => decide (screens.log ≠ [])) = true := by
    decide +kernel
  obtain ⟨final, replayed, -⟩ := exists_run_of_replay? completes
  have run : Run (fun screens input next => Clean screens input ∧
      step? 0 1 screens input = some next) { net := screen } inputs final := by
    refine replayed.mono fun {screens input next} taken => ?_
    split_ifs at taken with clean
    exact ⟨clean, taken⟩
  exact ⟨final, run, submissions_once ⟨rfl, rfl⟩ run⟩

/-- A second tap on Share before the first is answered. -/
theorem not_submissions_once : ¬ ∀ (upload page : Ref) (net : Network cloud App Composition Unit)
    (final : Screens) (inputs : List Input), Opened net →
    Run (fun screens input next => step? upload page screens input = some next) { net } inputs final →
      final.OneEach := by
  intro once
  have twice : (replay? (step? 0 1) { net := screen } ([.share, .share] ++
      answers ["gs://instagramclone-62b50.appspot.com/a", "gs://instagramclone-62b50.appspot.com/b"] ++
        answers ["", ""] ++ answers ["x", "y"])).any
          (fun screens => decide (screens.created posts (.caption 0) = 2)) = true := by
    decide +kernel
  obtain ⟨final, run, created⟩ := exists_run_of_replay? twice
  have one := (once 0 1 screen final _ ⟨rfl, rfl⟩ run 0).1
  omega

end Examples

end SingleDocuments

end InstagramClone
