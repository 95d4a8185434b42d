import InstagramClone.Async.Mirror
import InstagramClone.Model.Device

/-! # Pairs of documents that are written one after the other

A like is one document under the post and one under the user; a follow is one document under
either account. The services write the second of such a pair when the first is acknowledged.
-/

namespace InstagramClone

open Async

variable {σ ι : Type}

def Cloud.has (cloud : Cloud) (reference : DocumentReference) : Bool :=
  decide (reference ∈ cloud.firestore)

@[simp] theorem Cloud.has_iff {cloud : Cloud} {reference : DocumentReference} :
    cloud.has reference = true ↔ reference ∈ cloud.firestore := decide_eq_true_iff

/-- A document that is read says whether it exists. -/
theorem isSome_lookup (store : Cloud) (reference : DocumentReference) :
    (store.firestore.lookup reference).isSome = store.has reference := by
  rw [Cloud.has, Bool.eq_iff_iff, decide_eq_true_iff, Finmap.mem_iff, Option.isSome_iff_exists]

namespace Request

/-- Whether the document exists once this request is served, where the request decides that. -/
def writes? (reference : DocumentReference) : Request → Option Bool
  | setData target _ => if target = reference then some true else none
  | delete target => if target = reference then some false else none
  | _ => none

/-- The request adds a document to the collection. -/
def AddsTo (collection : CollectionReference) : Request → Prop
  | addDocument target _ => target = collection
  | _ => False

theorem writes?_put (target reference : DocumentReference) (present : Bool) :
    (put target present).writes? reference = if target = reference then some present else none := by
  cases present <;> rfl

theorem not_addsTo_put (target : DocumentReference) (present : Bool)
    (collection : CollectionReference) : ¬ (put target present).AddsTo collection := by
  cases present <;> exact id

private theorem writes?_eq_some {request : Request} {reference : DocumentReference} {value : Bool}
    (writes : request.writes? reference = some value) :
    (∃ data, request = .setData reference data) ∨ request = .delete reference := by
  cases request with
  | setData target data =>
    simp only [writes?, Option.ite_none_right_eq_some] at writes
    exact .inl ⟨data, by rw [writes.1]⟩
  | delete target =>
    simp only [writes?, Option.ite_none_right_eq_some] at writes
    exact .inr (by rw [writes.1])
  | _ => cases writes

/-- A request decides the existence of the documents it writes, and of no other. -/
theorem mem_apply {request : Request} {fresh : String} {store : Firestore}
    {reference : DocumentReference} (apart : ¬ request.AddsTo reference.parent) :
    decide (reference ∈ request.apply fresh store) =
      (request.writes? reference).getD (decide (reference ∈ store)) := by
  cases request with
  | setData target data =>
    by_cases same : target = reference
    · simp [apply, writes?, same]
    · simp [apply, writes?, same, Ne.symm same]
  | updateData target fields =>
    cases found : store.lookup target with
    | none => simp only [apply, found, writes?, Option.getD_none]
    | some stored =>
      have present := Finmap.mem_of_lookup_eq_some found
      have either : reference = target ∨ reference ∈ store ↔ reference ∈ store :=
        ⟨fun member => member.elim (fun same => same ▸ present) id, .inr⟩
      simp [apply, found, writes?, Finmap.mem_insert, either]
  | delete target =>
    by_cases same : target = reference
    · simp [apply, writes?, same]
    · simp [apply, writes?, same, Ne.symm same]
  | addDocument collection data =>
    have other : reference ≠ collection.document fresh := by
      rintro rfl
      exact apart (by simp [AddsTo])
    simp [apply, writes?, other]
  | _ => rfl

end Request

/-- The two documents as registers of whether they exist. -/
def mirrored (first second : DocumentReference) : Mirror cloud Bool where
  chosen choice := choice.succeeds = true
  regular request := ¬ request.AddsTo first.parent ∧ ¬ request.AddsTo second.parent
  first store := store.has first
  second store := store.has second
  writeFirst? := Request.writes? first
  writeSecond? := Request.writes? second
  serve_first {choice store request next answer} succeeds regular served := by
    obtain ⟨fresh, applied, -⟩ := serve_firestore succeeds served
    rw [Cloud.has, applied, Request.mem_apply regular.1]
    rfl
  serve_second {choice store request next answer} succeeds regular served := by
    obtain ⟨fresh, applied, -⟩ := serve_firestore succeeds served
    rw [Cloud.has, applied, Request.mem_apply regular.2]
    rfl

/-- Every client stays signed in to its account. -/
def SignedIn (account : ι → Uid) (client : ι) (session : Session) : Prop :=
  session.currentUser = some (account client)

/-- Code of clients that stay on their accounts, and that writes neither document. -/
abbrev leaving (first second : DocumentReference) (account : ι → Uid) :
    Contract firebase Cloud Session ι :=
  (mirrored first second).quiet id (SignedIn account)

/-- A completion handler that writes neither document. -/
def Leaves (first second : DocumentReference) (account : ι → Uid) (client : ι)
    (completion : Option BackendError → Code Session) : Prop :=
  ∀ error store, (completion error).Keeps (leaving first second account) client store

/-- The first write of a chain that decides both documents alike. -/
theorem chained_of_writes {first second : DocumentReference} {account : ι → Uid} {client : ι}
    (distinct : first ≠ second) {request next : Request} {value : Bool}
    {callback : next.Response → Code Session} (writes : request.writes? first = some value)
    (writesNext : next.writes? second = some value)
    (quiet : ∀ store answer, (callback answer).Keeps (leaving first second account) client store) :
    (mirrored first second).Chained (leaving first second account) client
      ⟨request, fun _ => Code.call next callback⟩ := by
  have noSecond : request.writes? second = none := by
    rcases Request.writes?_eq_some writes with ⟨data, rfl⟩ | rfl <;>
      simp [Request.writes?, distinct]
  have noFirst : next.writes? first = none := by
    rcases Request.writes?_eq_some writesNext with ⟨data, rfl⟩ | rfl <;>
      simp [Request.writes?, distinct.symm]
  have regular : (mirrored first second).regular request := by
    rcases Request.writes?_eq_some writes with ⟨data, rfl⟩ | rfl <;> exact ⟨id, id⟩
  have regularNext : (mirrored first second).regular next := by
    rcases Request.writes?_eq_some writesNext with ⟨data, rfl⟩ | rfl <;> exact ⟨id, id⟩
  refine ⟨regular, ?_, ?_⟩
  · intro other written
    obtain rfl : value = other := Option.some.inj (writes.symm.trans written)
    exact ⟨noSecond, fun _ => ⟨⟨next, callback⟩, rfl, regularNext, noFirst, writesNext, quiet⟩⟩
  · intro none
    exact absurd (writes.symm.trans none) (by simp)

/-- Code guarded by the signed-in account runs with its client's. -/
theorem keeps_withCurrentUser {first second : DocumentReference} {account : ι → Uid} {client : ι}
    {store : Cloud} {body : Uid → Code Session}
    (keeps : ∀ later, (body (account client)).Keeps (leaving first second account) client later) :
    (Code.withCurrentUser body).Keeps (leaving first second account) client store := by
  intro later session _ signedIn
  have current : Device.currentUser session = some (account client) := signedIn
  simp only [current]
  exact keeps later

/-- A call of a request on other documents leaves these two alone. -/
theorem keeps_call {first second : DocumentReference} {account : ι → Uid} {client : ι}
    {store : Cloud} {request : Request} {callback : request.Response → Code Session}
    (allowed : (leaving first second account).allows client store request)
    (quiet : ∀ later answer, (callback answer).Keeps (leaving first second account) client later) :
    (Code.call request callback).Keeps (leaving first second account) client store :=
  ⟨⟨allowed, fun later answer _ _ => quiet later answer⟩, trivial⟩

/-- Every client is signed in to its account and nothing is in flight. -/
def sessions (store : Cloud) (account : ι → Uid) : Network cloud Session ι ι where
  store
  clients client := some { currentUser := some (account client) }

/-- At the start the pair is tracked at its present state. -/
theorem tracks_sessions {store : Cloud} {account : ι → Uid} {first second : DocumentReference}
    (mine : ι → Prop) (agree : store.has first = store.has second) :
    (mirrored first second).Tracks id (SignedIn account) mine (store.has first)
      (sessions store account) := by
  refine ⟨fun client => ⟨_, rfl, rfl⟩, ?_, ?_, ?_, rfl, agree.symm, .inr ?_⟩
  all_goals
    intro pending member
    cases member

variable [DecidableEq ι]

/-- No request fails, and each client's requests are applied and answered in the order issued. -/
def Orderly {Action : Type} (net : Network cloud Session ι ι) : Event cloud ι Action → Prop
  | .act .. => True
  | .signal signal => succeeds signal = true ∧ net.InOrder id signal

instance {Action : Type} (net : Network cloud Session ι ι) (event : Event cloud ι Action) :
    Decidable (Orderly net event) :=
  match event with
  | .act .. => inferInstanceAs (Decidable True)
  | .signal signal => inferInstanceAs (Decidable (succeeds signal = true ∧ net.InOrder id signal))

/-- Signals in order and without failures keep what is tracked. -/
theorem tracks_signal {first second : DocumentReference} {account : ι → Uid} {mine : ι → Prop}
    {desired : Bool} {net next : Network cloud Session ι ι} {signal : Signal cloud}
    (tracks : (mirrored first second).Tracks id (SignedIn account) mine desired net)
    (succeeds : succeeds signal = true) (ordered : net.InOrder id signal)
    (taken : net.signal? id signal = some next) :
    (mirrored first second).Tracks id (SignedIn account) mine desired next := by
  cases signal with
  | serve index choice => exact tracks.serve succeeds ordered taken
  | deliver index => exact tracks.deliver ordered taken
  | notify index choice => exact tracks.notify taken

end InstagramClone
