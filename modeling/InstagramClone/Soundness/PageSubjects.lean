import InstagramClone.Discipline.Subjects

/-! # What a page shows for its whole life

No tap and no answer ever changes what a page is about, a page that left the tab controller never
comes back, and the tabs are always those of the tab controller's user.
-/

namespace InstagramClone

open Async Code

namespace PageSubjects

/-- The course on which all objects are still about the same. -/
def course : Course firebase App where
  toMotion := lasting
  own := lasting
  follows := id
  listens _ := True

private theorem guides : Guides course where
  lasts moved := moved
  alters same := lasts_modify fun value found => congrArg Prod.fst (same value found)
  add edits _ := lasts_add edits
  tabs := lasts_setUser
  signs := lasts_signs
  google := lasts_profile

private theorem steers_commentViewDidLoad {app : App} {self : Ref} :
    (CommentController.viewDidLoad self).Steers course app := by
  apply steers_withObject
  intro page _
  apply CommentService.steers_fetchComments trivial
  · exact lasts_add fun _ _ edits => by cases edits
  · exact fun later ref change _ => lasts_modify fun _ _ => rfl
  · exact fun comments later _ => steers_modify (lasts_modify fun _ _ => rfl)

/-- All code of the app keeps what its pages are about. -/
private theorem steers_perform {app : App} (coherent : Coherent app) (action : AppAction) :
    action.perform.Steers course app := by
  cases loads : action.loadsComments with
  | false => exact guides.steers_perform coherent loads
  | true =>
    cases action with
    | auth => cases loads
    | user action =>
      cases action with
      | commentViewDidLoad self => exact steers_commentViewDidLoad
      | _ => cases loads

section Runs

variable {ι : Type} {B : Backend firebase} [DecidableEq ι] {start net final : Network B App ι ι}
  {past events : List (Event B ι AppAction)} {client : ι} {app now : App} {ref : Ref}

/-- What lasts from one moment of a run to a later one. -/
private theorem lasts_of_runs
    (coherent : ∀ client app, start.clients client = some app → Coherent app)
    (idle : start.flight = []) (quiet : start.listeners = [])
    (before : Run (fun net event next => net.event? AppAction.perform event = some next) start past
      net)
    (run : Run (fun net event next => net.event? AppAction.perform event = some next) net events
      final) (shown : net.clients client = some app) (running : final.clients client = some now) :
    Coherent app ∧ Lasts app now := by
  have kept {first second : App} (moved : course.own.moves first second) (known : Coherent first) :
      Coherent second := moved.coherent known
  have opened : start.Steered course id := .of_idle idle quiet
  obtain ⟨steered, moved⟩ := opened.run coherent kept (fun _ => steers_perform) before
  have known (client : ι) (app : App) (shown : net.clients client = some app) : Coherent app := by
    obtain ⟨first, there, since⟩ := moved client app shown
    exact since.coherent (coherent client first there)
  obtain ⟨first, there, since⟩ :=
    (steered.run known kept (fun _ => steers_perform) run).2 client now running
  obtain rfl := Option.some.inj (shown.symm.trans there)
  exact ⟨known client _ shown, since⟩

section Example

private theorem coherent_signedOut : Coherent .signedOut := by
  constructor
  · intro ref uid delegate known
    obtain ⟨entry, found, edits⟩ := Option.map_eq_some_iff.mp known
    obtain rfl := List.mem_singleton.mp (List.mem_of_getElem? found)
    cases edits
  · rintro user ⟨⟩
  · exact fun _ => rfl

/-- One device that nobody is signed in to, over an empty backend. -/
def signedOut : Network cloud App Unit Unit where
  store := {}
  clients _ := some .signedOut

private theorem coherent_start (client : Unit) (app : App)
    (running : signedOut.clients client = some app) :
    Coherent app := by
  obtain rfl := Option.some.inj running
  exact coherent_signedOut

/-- The account `u` signs in with Google. -/
def entering : List (Event cloud Unit AppAction) :=
  .act () (.auth (.loginOnTapGoogle 0 ⟨"g"⟩ ⟨"u@x", "u", none⟩)) ::
    drain [Choice.drawing "u"] ++ drain [Choice.drawing ""] ++ drain [Choice.drawing ""]

/-- It opens an editor from its profile page. -/
def editing : List (Event cloud Unit AppAction) :=
  entering ++
    [.act () (.user (.profileViewForHeader 4)), .act () (.user (.profileOnTapEditProfile 4))]

/-- It signs out, and in again. -/
def switching : List (Event cloud Unit AppAction) := .act () (.auth (.feedOnTapLogout 1)) :: entering

/-- The editor was opened in the tabs of the first session, which the second one replaces. -/
private theorem switched : ∃ net final app now,
    Run (fun net event next => net.event? AppAction.perform event = some next) signedOut editing net ∧
      Run (fun net event next => net.event? AppAction.perform event = some next) net switching final ∧
      net.clients () = some app ∧ final.clients () = some now ∧
      app.subject? 5 = some (.editProfile "u" 4) ∧ app.viewControllers = [1, 2, 3, 4] ∧
      now.viewControllers = [7, 8, 9, 10] := by
  have completes : (replay? (Network.event? AppAction.perform) signedOut editing).any (fun net =>
      decide (((net.clients ()).any fun app => decide (app.subject? 5 = some (.editProfile "u" 4) ∧
          app.viewControllers = [1, 2, 3, 4])) = true ∧
        ((replay? (Network.event? AppAction.perform) net switching).any fun final =>
          decide (((final.clients ()).any fun now =>
            decide (now.viewControllers = [7, 8, 9, 10])) = true)) = true)) = true := by
    decide +kernel
  obtain ⟨net, first, shows, again⟩ := exists_run_of_replay? completes
  obtain ⟨final, second, later⟩ := exists_run_of_replay? again
  obtain ⟨app, shown, tabs⟩ := (Option.any_eq_true _ _).mp shows
  obtain ⟨now, running, others⟩ := (Option.any_eq_true _ _).mp later
  obtain ⟨edits, tabs⟩ := of_decide_eq_true tabs
  exact ⟨net, final, app, now, first, second, shown, running, edits, tabs, of_decide_eq_true others⟩

end Example

/-- In every run of any number of devices, the tabs of each are those of its tab controller's user,
and every editor edits the account of the page it reports to. -/
theorem coherent_of_run (coherent : ∀ client app, start.clients client = some app → Coherent app)
    (idle : start.flight = []) (quiet : start.listeners = [])
    (run : Run (fun net event next => net.event? AppAction.perform event = some next) start events
      final) (running : final.clients client = some now) : Coherent now :=
  (lasts_of_runs coherent idle quiet run (.nil final) running running).1

/-- The first tabs are those of the account that signed in. -/
theorem coherent_of_run_editing : ∃ final now,
    Run (fun net event next => net.event? AppAction.perform event = some next) signedOut editing
        final ∧ final.clients () = some now ∧ now.viewControllers = [1, 2, 3, 4] ∧ Coherent now := by
  obtain ⟨final, -, now, -, run, -, running, -, -, tabs, -⟩ := switched
  exact ⟨final, now, run, running, tabs, coherent_of_run coherent_start rfl rfl run running⟩

/-- From any moment of a run to any later one, every page and cell stays about the same: no tap and
no answer changes the account of a profile page or an editor, the post of a comment page or of a feed
that shows one post, or the photo and the user of an upload page. -/
theorem subjects_last (coherent : ∀ client app, start.clients client = some app → Coherent app)
    (idle : start.flight = []) (quiet : start.listeners = [])
    (before : Run (fun net event next => net.event? AppAction.perform event = some next) start past
      net)
    (run : Run (fun net event next => net.event? AppAction.perform event = some next) net events
      final) (shown : net.clients client = some app) (running : final.clients client = some now)
    {subject : Subject} (about : app.subject? ref = some subject) :
    now.subject? ref = some subject :=
  (lasts_of_runs coherent idle quiet before run shown running).2.subjects about

/-- In the second session the editor is still one of the same account and page. -/
theorem subjects_last_switched : ∃ (net final : Network cloud App Unit Unit) (now : App),
    Run (fun net event next => net.event? AppAction.perform event = some next) net switching final ∧
      final.clients () = some now ∧ now.subject? 5 = some (.editProfile "u" 4) := by
  obtain ⟨net, final, app, now, first, second, shown, running, edits, -, -⟩ := switched
  exact ⟨net, final, now, second, running,
    subjects_last coherent_start rfl rfl first second shown running edits⟩

/-- Three taps on the page do nothing: like on one of its cells, the button of its header, and Post
below its comments. -/
structure Inert (ref : Ref) (app : App) : Prop where
  likes : ∀ cell shown, app.find? FeedCell cell = some shown → shown.delegate = ref →
    (UserAction.feedCellOnTapLike cell).perform.run app = ⟨some app, [], []⟩
  follows : (UserAction.profileOnTapEditProfile ref).perform.run app = ⟨some app, [], []⟩
  comments : (UserAction.commentOnTapPost ref).perform.run app = ⟨some app, [], []⟩

private theorem run_withTabUser (outside : app.inTab ref = false) {body : User → Code App} :
    (Code.withTabUser ref body).run app = ⟨some app, [], []⟩ := by
  simp [Code.withTabUser, outside]

/-- What is outside of the tab controller finds no user to act for. -/
private theorem inert_of_outside (outside : app.inTab ref = false) : Inert ref app := by
  constructor
  · intro cell shown found mine
    simp only [UserAction.perform, FeedCell.onTapLike, FeedCell.withViewModel, Code.withObject,
      Program.run_inspect, found]
    cases shown.viewModel with
    | none => rfl
    | some post => exact run_withTabUser (mine ▸ outside)
  · simp only [UserAction.perform, ProfileController.onTapEditProfile, Code.withObject,
      Program.run_inspect]
    cases app.find? ProfileController ref with
    | none => rfl
    | some profile =>
      simp only
      cases profile.header with
      | none => rfl
      | some user => exact run_withTabUser outside
  · simp only [UserAction.perform, CommentController.onTapPost, Code.withObject,
      Program.run_inspect]
    cases app.find? CommentController ref with
    | none => rfl
    | some page => exact run_withTabUser outside

/-- Once the tabs of a device have been replaced, whoever signed in and in whatever order answers
came, the cells of a page opened before like nothing any more, its header's button does nothing, and
nothing is commented on it. -/
theorem replaced_inert (coherent : ∀ client app, start.clients client = some app → Coherent app)
    (idle : start.flight = []) (quiet : start.listeners = [])
    (before : Run (fun net event next => net.event? AppAction.perform event = some next) start past
      net)
    (run : Run (fun net event next => net.event? AppAction.perform event = some next) net events
      final) (shown : net.clients client = some app) (running : final.clients client = some now)
    (replaced : now.viewControllers ≠ app.viewControllers) (old : ref < app.objects.length) :
    Inert ref now := by
  rcases (lasts_of_runs coherent idle quiet before run shown running).2.replaced with same | gone
  · exact absurd same replaced
  · exact inert_of_outside (gone ref old)

/-- In the second session, the profile page of the first one does nothing. -/
theorem replaced_inert_switched : ∃ (net final : Network cloud App Unit Unit) (now : App),
    Run (fun net event next => net.event? AppAction.perform event = some next) net switching final ∧
      final.clients () = some now ∧ Inert 4 now := by
  obtain ⟨net, final, app, now, first, second, shown, running, edits, tabs, others⟩ := switched
  have old : 4 < app.objects.length := Nat.lt_of_succ_lt (lt_of_told? edits)
  exact ⟨net, final, now, second, running,
    replaced_inert coherent_start rfl rfl first second shown running (by simp [tabs, others]) old⟩

end Runs

end PageSubjects

end InstagramClone
