import InstagramClone.Soundness.TypedStore

/-! # What stays stored

Accounts, posts, comments and notifications are never deleted. A comment and a notification stay as
they were written, and of a post only the counter of likes and the image of its owner may change. So
nothing that any device does, on whatever stale copy, loses or rewrites what was shared.
-/

namespace InstagramClone

open Async

/-- The document is never deleted. -/
def DocumentReference.permanent : DocumentReference → Bool
  | user _ | post _ | comment .. | notification .. => true
  | _ => false

/-- The field of the document may be written again. -/
def DocumentReference.rewritable : DocumentReference → String → Bool
  | user _, _ => true
  | post _, key => key = "likes" || key = "ownerProfileImage"
  | _, _ => false

namespace LastingDocuments

variable {ι : Type} {first second third store : Firestore} {reference : DocumentReference}
  {fresh : String} {data : Dictionary}

/-- Permanent documents are still there, with the fields that are never written again. -/
def Lasting (before after : Firestore) : Prop :=
  ∀ reference data, reference.permanent = true → before.lookup reference = some data →
    ∃ later, after.lookup reference = some later ∧
      ∀ key, reference.rewritable key = false → later key = data key

theorem Lasting.refl (store : Firestore) : Lasting store store :=
  fun _ data _ stored => ⟨data, stored, fun _ _ => rfl⟩

private theorem Lasting.trans (left : Lasting first second) (right : Lasting second third) :
    Lasting first third := by
  intro reference data permanent stored
  obtain ⟨between, held, same⟩ := left reference data permanent stored
  obtain ⟨later, holds, still⟩ := right reference between permanent held
  exact ⟨later, holds, fun key fixed => (still key fixed).trans (same key fixed)⟩

/-- A document that is created stands where none did. -/
private theorem lookup_addDocument {collection : CollectionReference} {data : String → Dictionary}
    (drawn : (Request.addDocument collection data).Draws fresh store) (stored : reference ∈ store) :
    ((Request.addDocument collection data).apply fresh store).lookup reference =
      store.lookup reference := by
  have apart : reference ≠ collection.document fresh := by
    rintro rfl
    refine drawn.2 _ (Finmap.mem_keys.mpr stored) ?_
    simp [DocumentReference.ids]
  simp [Request.apply, apart]

/-- Every change of the records leaves permanent documents in place. -/
private theorem lasting_apply {change : RecordChange} (drawn : change.request.Draws fresh store) :
    Lasting store (change.request.apply fresh store) := by
  intro reference data permanent stored
  have present : reference ∈ store := Finmap.mem_of_lookup_eq_some stored
  by_cases touches : change.request.Touches reference
  swap
  · exact ⟨data, by rw [Request.lookup_apply touches, stored], fun _ _ => rfl⟩
  have kept {collection : CollectionReference} {written : String → Dictionary}
      (drawn : (Request.addDocument collection written).Draws fresh store) :
      ∃ later, ((Request.addDocument collection written).apply fresh store).lookup reference =
        some later ∧ ∀ key, reference.rewritable key = false → later key = data key :=
    ⟨data, by rw [lookup_addDocument drawn present, stored], fun _ _ => rfl⟩
  have updated {key : String} {value : Value} (rewritten : ∀ other,
      reference.rewritable other = false → other ≠ key) :
      ∃ later, ((Request.updateData reference (.ofList [(key, value)])).apply fresh store).lookup
        reference = some later ∧ ∀ other, reference.rewritable other = false →
          later other = data other := by
    refine ⟨data.updating (.ofList [(key, value)]), by simp [Request.apply, stored], ?_⟩
    exact fun other fixed => Dictionary.updating_of_ne data value (rewritten other fixed)
  cases change with
  | saveUser uid record =>
    obtain rfl : .user uid = reference := touches
    refine ⟨record.data uid, by simp [RecordChange.request, Request.apply], fun key fixed => ?_⟩
    cases fixed
  | setProfileImage uid profileImage =>
    obtain rfl : .user uid = reference := touches
    exact updated fun other fixed => by cases fixed
  | addPost record => exact kept drawn
  | setLikes post likes =>
    obtain rfl : .post post = reference := touches
    apply updated
    rintro other fixed rfl
    cases fixed
  | setOwnerProfileImage post profileImage =>
    obtain rfl : .post post = reference := touches
    apply updated
    rintro other fixed rfl
    cases fixed
  | addComment post record => exact kept drawn
  | addNotification receiver record => exact kept drawn
  | put mark present =>
    obtain rfl : mark.reference = reference := Request.touches_put.mp touches
    cases mark <;> cases permanent

/-- Serving a typed request does. -/
theorem lasting_serve {before after : Cloud} {choice : Choice} {request : Request}
    {answer : request.Response} (typed : request.Typed)
    (served : cloud.serve choice before request = some (after, answer)) :
    Lasting before.firestore after.firestore := by
  rcases serve_cases served with ⟨rfl, -⟩ | ⟨order, fresh, transfer, resolved⟩
  · exact .refl after.firestore
  obtain ⟨applied, drawn⟩ := Request.resolve_firestore resolved
  rcases Bool.eq_false_or_eq_true request.writes with writes | reads
  · obtain ⟨change, rfl⟩ := typed writes
    rw [applied]
    exact lasting_apply drawn
  · rw [TypedStore.same_of_reads resolved reads]
    exact .refl before.firestore

theorem lasting_refl (store : Cloud) : Lasting store.firestore store.firestore :=
  .refl store.firestore

theorem lasting_trans (first second third : Cloud) (left : Lasting first.firestore second.firestore)
    (right : Lasting second.firestore third.firestore) : Lasting first.firestore third.firestore :=
  left.trans right

section Run

/-- Permanent documents last while typed requests are served. -/
def contract (ι : Type) : Contract firebase Cloud App ι :=
  TypedStore.contract ι (fun _ => True) (fun before after => Lasting before.firestore after.firestore)
    lasting_refl lasting_trans

private theorem lawful : cloud.Lawful (contract ι) fun _ => True where
  serve _ _ typed served := ⟨trivial, lasting_serve typed served, trivial⟩
  publish _ _ _ _ := trivial

variable [DecidableEq ι] {start net final : Network cloud App ι ι}
  {past events : List (Event cloud ι AppAction)}

/-- From any moment of a run of any number of devices to any later one, permanent documents last. -/
theorem documents_last (idle : start.flight = []) (quiet : start.listeners = [])
    (before : Run (fun net event next => net.event? AppAction.perform event = some next) start past
      net)
    (run : Run (fun net event next => net.event? AppAction.perform event = some next) net events
      final) : Lasting net.store.firestore final.store.firestore := by
  have sound : net.Sound (contract ι) id := TypedStore.sound_of_run lawful trivial idle quiet before
  exact (TypedStore.sound_run lawful sound run).2

/-- A stored post, and a feed cell that shows it. -/
def liking : PostRecord := ⟨"c", ⟨0, 0⟩, 0, "i", "v", "v", "w"⟩

def likingFeed : Network cloud App Unit Unit where
  store := { firestore := (∅ : Firestore).insert (.post "p") liking.data }
  clients _ := some
    { currentUser := some "u"
      user := some ⟨"", "", "", "", "u", ⟨0, 0, 0⟩, false⟩
      objects :=
        [⟨.feed {}, true⟩, ⟨.feedCell ⟨some (.ofDictionary ⟨0, 0⟩ "p" liking.data), 0⟩, true⟩] }

/-- A post that is liked keeps its caption. -/
theorem documents_last_liked :
    ∃ final later, Run (fun net event next => net.event? AppAction.perform event = some next)
        likingFeed (.act () (.user (.feedCellOnTapLike 1)) ::
          drain [Choice.drawing "", Choice.drawing ""]) final ∧
      final.store.firestore.lookup (.post "p") = some later ∧ later "likes" = some (.int 1) ∧
      later "caption" = some (.string "c") := by
  have completes : (replay? (Network.event? AppAction.perform) likingFeed
      (.act () (.user (.feedCellOnTapLike 1)) ::
        drain [Choice.drawing "", Choice.drawing ""])).any (fun final =>
      decide ((final.store.firestore.lookup (.post "p")).any (fun later =>
        decide (later "likes" = some (.int 1))) = true)) = true := by
    decide +kernel
  obtain ⟨final, run, liked⟩ := exists_run_of_replay? completes
  obtain ⟨later, stored, counts⟩ := (Option.any_eq_true _ _).mp liked
  have held : likingFeed.store.firestore.lookup (.post "p") = some liking.data := by
    simp [likingFeed]
  obtain ⟨found, same, fixed⟩ :=
    documents_last rfl rfl (.nil likingFeed) run (.post "p") liking.data rfl held
  obtain rfl := Option.some.inj (stored.symm.trans same)
  exact ⟨final, later, run, stored, of_decide_eq_true counts, fixed "caption" rfl⟩

end Run

end LastingDocuments

end InstagramClone
