import InstagramClone.Async.Completion
import InstagramClone.Async.Work
import InstagramClone.Controller.MainTabController
import Mathlib

/-! # The rows of the search page

A search event filters the users that the page has by then, and compares usernames as they are
with the lowercased text. The rows are right exactly as long as no user is missed by either: because
the users arrived after the last search event, or because a username is not in lower case.
-/

namespace InstagramClone

open Async

/-- A way to lowercase strings and to search them, which finds a lowercased text wherever it stands
also when that is lowercased. -/
structure Lowercasing where
  lowercased : String → String
  contains : String → String → Bool
  keeps : ∀ name text, contains name (lowercased text) = true →
    contains (lowercased name) (lowercased text) = true

namespace SearchResults

private theorem toList_toLower (text : String) :
    text.toLower.toList = text.toList.map Char.toLower := by
  rw [String.toLower, String.toList_map]

/-- Lowercasing the letters of ASCII, and searching scalar by scalar. -/
def ascii : Lowercasing where
  lowercased := String.toLower
  contains := SearchController.contains
  keeps name text found := by
    have infixed : text.toLower.toList <:+: name.toList := of_decide_eq_true found
    have lowered := infixed.map Char.toLower
    rw [toList_toLower, List.map_map] at lowered
    refine decide_eq_true ?_
    rw [toList_toLower, toList_toLower]
    simpa [Function.comp_def] using lowered

variable {lowercasing : Lowercasing} {page : Ref} {text : String} {user : User} {store : Cloud}

/-- The username or the full name contains the text ignoring case. -/
def Matches (lowercasing : Lowercasing) (text : String) (user : User) : Bool :=
  lowercasing.contains (lowercasing.lowercased user.username) (lowercasing.lowercased text) ||
    lowercasing.contains (lowercasing.lowercased user.fullname) (lowercasing.lowercased text)

/-- The test of `updateSearchResults`. -/
def finds (lowercasing : Lowercasing) (text : String) (user : User) : Bool :=
  lowercasing.contains user.username (lowercasing.lowercased text) ||
    lowercasing.contains (lowercasing.lowercased user.fullname) (lowercasing.lowercased text)

/-- What is found matches. -/
private theorem matches_of_finds (found : finds lowercasing text user = true) :
    Matches lowercasing text user = true := by
  rw [finds, Bool.or_eq_true] at found
  rw [Matches, Bool.or_eq_true]
  exact found.imp_left (lowercasing.keeps user.username text)

private theorem filter_eq_filter_iff {α : Type} {items : List α} {narrow wide : α → Bool}
    (weaker : ∀ item, narrow item = true → wide item = true) :
    items.filter narrow = items.filter wide ↔
      ∀ item ∈ items, wide item = true → narrow item = true := by
  constructor
  · intro same item member kept
    have listed : item ∈ items.filter narrow := by
      rw [same]
      exact List.mem_filter.mpr ⟨member, kept⟩
    exact (List.mem_filter.mp listed).2
  · intro stronger
    refine List.filter_congr fun item member => ?_
    rw [Bool.eq_iff_iff]
    exact ⟨weaker item, stronger item member⟩

section Run

/-- A search event with the new state of the search bar, or a change of its activation that it does
not report. -/
inductive SearchAction where
  | update (isActive : Bool) (text : String)
  | setActive (isActive : Bool)

def SearchAction.perform (lowercasing : Lowercasing) (page : Ref) : SearchAction → Code App
  | update isActive text =>
    SearchController.updateSearchResults page isActive text lowercasing.lowercased
      lowercasing.contains
  | setActive isActive =>
    Code.modify page fun search : SearchController => { search with isActive }

/-- What a search event does to the page. -/
def SearchAction.change (lowercasing : Lowercasing) :
    SearchAction → SearchController → SearchController
  | update isActive text, search => { search with
      isActive
      searchText := text
      filteredUsers := search.users.filter (finds lowercasing text) }
  | setActive isActive, search => { search with isActive }

private theorem SearchAction.run_perform (action : SearchAction) (app : App) :
    (action.perform lowercasing page).run app =
      ⟨some (app.modify page (action.change lowercasing)), [], []⟩ := by
  cases action <;> rfl

/-- A network, and whether the users had arrived at the last search event. -/
structure Watched where
  net : Network cloud App Unit Unit
  current : Bool := false

/-- One step: a search event, or a signal without a failure. -/
def step? (lowercasing : Lowercasing) (page : Ref) (watched : Watched)
    (event : Event cloud Unit SearchAction) : Option Watched :=
  match event with
  | .act _ action => some
      { net := watched.net.launch id () (action.perform lowercasing page)
        current := match action with
          | .update .. => watched.net.flight.isEmpty
          | .setActive _ => watched.current }
  | .signal signal => if succeeds signal then
      (watched.net.signal? id signal).map fun next => { watched with net := next }
    else none

/-- A session with a fresh search page and nothing in flight. -/
structure Opened (page : Ref) (net : Network cloud App Unit Unit) : Prop where
  idle : net.flight = []
  quiet : net.listeners = []
  client : ∃ app, net.clients () = some app ∧ app.find? SearchController page = some {}

/-- These are the users of the store, in the order of the answer. -/
def Directory (store : Cloud) (users : List User) : Prop :=
  ∃ order documents, Query.answer? { collection := .users } store.firestore order = some documents ∧
    users = documents.map fun document => User.ofDictionary document.data

/-- The rows are the users whose username or full name contains the text ignoring case, or all. -/
def Right (lowercasing : Lowercasing) (search : SearchController) : Prop :=
  search.rows = if search.isSearchEnabled then
    search.users.filter (Matches lowercasing search.searchText) else search.users

instance (lowercasing : Lowercasing) (search : SearchController) :
    Decidable (Right lowercasing search) :=
  inferInstanceAs (Decidable (search.rows = if search.isSearchEnabled then
    search.users.filter (Matches lowercasing search.searchText) else search.users))

/-- The one request of the page. -/
def request (page : Ref) (_ : Unit) : Call firebase App :=
  ⟨.getDocuments { collection := .users }, fun
    | .ok documents => Code.modify page fun search : SearchController =>
        { search with users := documents.map fun document => User.ofDictionary document.data }
    | .error _ => .done⟩

/-- How far the page has come: what it is waiting for, and what was filtered. -/
structure Searches (lowercasing : Lowercasing) (store : Cloud) (work : List (Posted (request page)))
    (search : SearchController) (current : Bool) : Prop where
  filtered : search.filteredUsers =
    if current then search.users.filter (finds lowercasing search.searchText) else []
  stage : work = [] ∧ Directory store search.users ∨ current = false ∧ search.users = [] ∧
    ∃ posted, work = [posted] ∧ ∀ answer ∈ posted.answer, ∃ documents, answer = .ok documents ∧
      Directory store (documents.map fun document => User.ofDictionary document.data)

def Told (lowercasing : Lowercasing) (page : Ref) (store : Cloud) (watched : Watched) : Prop :=
  ∃ app search, ∃ work : List (Posted (request page)),
    watched.net = .working (fun _ => ()) store app work ∧
    app.find? SearchController page = some search ∧
    Searches lowercasing store work search watched.current

variable {start net : Network cloud App Unit Unit} {watched next : Watched}
  {events : List (Event cloud Unit SearchAction)}

private theorem Opened.told (opened : Opened page start) : Told lowercasing page start.store
    { net := start.launch id () (SearchController.viewDidLoad page) } := by
  obtain ⟨app, running, shown⟩ := opened.client
  have same := Network.eq_working (request page) (fun _ => ()) running opened.idle opened.quiet
  have ran : (SearchController.viewDidLoad page).run app =
      ⟨some app, [()].map (request page), []⟩ := rfl
  refine ⟨app, {}, [⟨(), none⟩], ?_, shown, rfl, .inr ⟨rfl, rfl, _, rfl, nofun⟩⟩
  conv_lhs => rw [same]
  exact Network.launch_working ran fun _ _ => rfl

private theorem Told.act (told : Told lowercasing page store watched) (action : SearchAction)
    (client : Unit) (taken : step? lowercasing page watched (.act client action) = some next) :
    Told lowercasing page store next := by
  obtain ⟨app, search, work, same, shown, filtered, stage⟩ := told
  obtain rfl := Option.some.inj taken
  have ran : (action.perform lowercasing page).run app =
      ⟨some (app.modify page (action.change lowercasing)), ([] : List Unit).map (request page),
        []⟩ := action.run_perform app
  refine ⟨app.modify page (action.change lowercasing), action.change lowercasing search, work, ?_,
    ?_, ?_⟩
  · rw [same, Network.launch_working ran fun _ _ => rfl, issue_nil, List.append_nil]
  · rw [App.find?_modify, shown]
    rfl
  · cases action with
    | setActive isActive => exact ⟨filtered, stage⟩
    | update isActive text =>
      rcases stage with ⟨rfl, directory⟩ | ⟨-, empty, posted, rfl, answered⟩
      · exact ⟨by rw [same]; rfl, .inl ⟨rfl, directory⟩⟩
      · refine ⟨?_, .inr ⟨by rw [same]; rfl, empty, posted, rfl, answered⟩⟩
        rw [SearchAction.change, empty]
        simp

private theorem Told.signal {signal : Signal cloud} (told : Told lowercasing page store watched)
    (taken : step? lowercasing page watched (.signal signal) = some next) :
    Told lowercasing page store next := by
  obtain ⟨app, search, work, same, shown, filtered, stage⟩ := told
  simp only [step?] at taken
  split_ifs at taken with allowed
  obtain ⟨net, moved, rfl⟩ := Option.map_eq_some_iff.mp taken
  rw [same] at moved
  rcases Network.signal_working moved with
    ⟨before, job, after, choice, later, answer, rfl, rfl, served, rfl⟩ |
    ⟨before, job, answer, after, rfl, rfl, rfl⟩
  · rcases stage with ⟨none, -⟩ | ⟨stale, empty, posted, one, -⟩
    · simp at none
    · obtain ⟨rfl, rfl, -⟩ := Network.only_split one.symm
      obtain ⟨order, fresh, transfer, resolved⟩ := serve_succeeds allowed served
      obtain ⟨documents, answered, reply⟩ := Option.map_eq_some_iff.mp resolved
      obtain ⟨rfl, rfl⟩ := Prod.mk.inj reply
      refine ⟨app, search, _, rfl, shown, filtered, .inr ⟨stale, empty, _, rfl, ?_⟩⟩
      rintro _ ⟨⟩
      exact ⟨documents, rfl, order, documents, answered, rfl⟩
  · rcases stage with ⟨none, -⟩ | ⟨stale, empty, posted, one, answered⟩
    · simp at none
    · obtain ⟨rfl, rfl, rfl⟩ := Network.only_split one.symm
      obtain ⟨documents, rfl, directory⟩ := answered answer rfl
      let users := documents.map fun document => User.ofDictionary document.data
      have ran : ((request page job).callback (.ok documents)).run app =
          ⟨some (app.modify page fun search : SearchController => { search with users }),
            ([] : List Unit).map (request page), []⟩ := rfl
      refine ⟨_, { search with users }, [], Network.launch_working ran fun _ _ => rfl, ?_, ?_,
        .inl ⟨rfl, directory⟩⟩
      · rw [App.find?_modify, shown]
        rfl
      · simp only [stale, Bool.false_eq_true, if_false] at filtered ⊢
        exact filtered

/-- Once the users have arrived, the rows are right exactly if, while search is enabled, the last
search event came after them, and every user who matches the text does so with the username as it
is or with the full name. -/
theorem rows_right_iff (opened : Opened page start)
    (run : Run (fun watched event next => step? lowercasing page watched event = some next)
      { net := start.launch id () (SearchController.viewDidLoad page) } events watched)
    (arrived : watched.net.flight = []) :
    ∃ app ∈ watched.net.clients (), ∃ search ∈ app.find? SearchController page,
      Directory start.store search.users ∧
      (Right lowercasing search ↔ (search.isSearchEnabled = true →
        ∀ user ∈ search.users, Matches lowercasing search.searchText user = true →
          watched.current = true ∧ finds lowercasing search.searchText user = true)) := by
  have told : Told lowercasing page start.store watched := by
    refine run.invariant opened.told ?_
    intro watched event next taken told
    cases event with
    | act client action => exact told.act action client taken
    | signal signal => exact told.signal taken
  obtain ⟨app, search, work, same, shown, filtered, stage⟩ := told
  rw [same] at arrived
  obtain rfl := Network.working_idle.mp arrived
  obtain ⟨-, directory⟩ | ⟨-, -, posted, none, -⟩ := stage
  swap
  · cases none
  refine ⟨app, by rw [same]; rfl, search, shown, directory, ?_⟩
  rw [Right, SearchController.rows]
  by_cases enabled : search.isSearchEnabled = true
  · rw [if_pos enabled, if_pos enabled, filtered, eq_true enabled, true_imp_iff]
    by_cases current : watched.current = true
    · simp only [current, true_and]
      exact filter_eq_filter_iff fun _ => matches_of_finds
    · rw [if_neg current, eq_comm, List.filter_eq_nil_iff]
      refine forall₂_congr fun user _ => ?_
      simp [current]
  · simp [enabled]

end Run

section Examples

/-- A search page over a directory with one user. -/
def directory (username : String) : Network cloud App Unit Unit where
  store := { firestore := .singleton (.user "u") (UserService.data "" "Al" "" "u" username) }
  clients _ := some { currentUser := some "u", objects := [⟨.search {}, true⟩] }

private theorem directory_opened (username : String) : Opened 0 (directory username) :=
  ⟨rfl, rfl, _, rfl, rfl⟩

/-- The users arrive, then a text is entered. -/
def searching (text : String) : List (Event cloud Unit SearchAction) :=
  drain [Choice.answer [.user "u"] ""] ++ [.act () (.update true text)]

/-- A username in lower case is found by a text in any case. -/
theorem rows_right_lowercase : ∃ watched,
    Run (fun watched event next => step? ascii 0 watched event = some next)
      { net := (directory "bob").launch id () (SearchController.viewDidLoad 0) } (searching "BO")
      watched ∧
    ∃ app ∈ watched.net.clients (), ∃ search ∈ app.find? SearchController 0, Right ascii search := by
  have completes : (replay? (step? ascii 0)
      { net := (directory "bob").launch id () (SearchController.viewDidLoad 0) }
      (searching "BO")).any (fun watched => decide (watched.net.flight.isEmpty = true ∧
        watched.current = true ∧ ∀ app ∈ watched.net.clients (),
          ∀ search ∈ app.find? SearchController 0, ∀ user ∈ search.users,
            finds ascii search.searchText user = true)) = true := by
    decide +kernel
  obtain ⟨watched, run, empty, current, all⟩ := exists_run_of_replay? completes
  obtain ⟨app, running, search, shown, -, same⟩ :=
    rows_right_iff (directory_opened "bob") run (List.isEmpty_iff.mp empty)
  refine ⟨watched, run, app, running, search, shown, same.mpr fun _ user member _ => ?_⟩
  exact ⟨current, all app running search shown user member⟩

/-- A user named `Bob` is not found by `Bob`: the text is lowercased and the username is not. -/
theorem rows_not_right :
    ¬ ∀ (lowercasing : Lowercasing) (page : Ref) (start : Network cloud App Unit Unit)
      (events : List (Event cloud Unit SearchAction)) (watched : Watched), Opened page start →
      Run (fun watched event next => step? lowercasing page watched event = some next)
        { net := start.launch id () (SearchController.viewDidLoad page) } events watched →
      watched.net.flight = [] → ∀ app ∈ watched.net.clients (),
        ∀ search ∈ app.find? SearchController page, Right lowercasing search := by
  intro claim
  have missed : (replay? (step? ascii 0)
      { net := (directory "Bob").launch id () (SearchController.viewDidLoad 0) }
      (searching "Bob")).any (fun watched => decide (watched.net.flight.isEmpty = true ∧
        ∃ app ∈ watched.net.clients (), ∃ search ∈ app.find? SearchController 0,
          ¬ Right ascii search)) = true := by
    decide +kernel
  obtain ⟨watched, run, empty, app, running, search, shown, wrong⟩ := exists_run_of_replay? missed
  exact wrong (claim ascii 0 _ _ watched (directory_opened "Bob") run (List.isEmpty_iff.mp empty)
    app running search shown)

end Examples

end SearchResults

end InstagramClone
