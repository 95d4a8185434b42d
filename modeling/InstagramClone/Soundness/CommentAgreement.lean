import InstagramClone.Discipline.Subjects
import InstagramClone.Soundness.CommentLists
import InstagramClone.Soundness.LastingDocuments

/-! # Comment pages agree on what was commented

The order in which a comment page lists is that in which its listener was told. What it lists is not:
along every run of the whole app, whatever fails and however many pages listen, a page lists stored
comments of its post, each once, and beside them only what its own device has sent, which it shows
before that is stored and keeps when it never is. A device that has none of its own to send lists
all that is stored whenever its listener is told of all of it. So pages of a post that were told
since the last comment came in list the same comments.
-/

namespace InstagramClone

open Async TypedStore LastingDocuments PageSubjects

namespace CommentAgreement

variable {ι : Type}

/-- The comment that is stored here. It names its time, so that of decoding does not matter. -/
def shown (store : Firestore) (reference : DocumentReference) : Comment :=
  .ofDictionary ⟨0, 0⟩ ((store.lookup reference).getD .empty)

/-- The comments on a post. -/
def commentsOn (store : Firestore) (post : PostId) : Multiset Comment :=
  (store.references (.comments post)).val.map (shown store)

/-- The comments are the stored ones with these ids, which the listener has seen, and beside them
some of `own`. -/
structure Parts (store : Firestore) (post : PostId) (own : Comment → Prop) (seen : List Document)
    (comments : List Comment) (ids : List String) (extra : List Comment) : Prop where
  perm : comments.Perm (ids.map (fun id => shown store (.comment post id)) ++ extra)
  nodup : ids.Nodup
  stored : ∀ id ∈ ids, DocumentReference.comment post id ∈ store
  listed : ∀ id ∈ ids, id ∈ seen.map Document.documentID
  whole : extra = [] → ∀ document ∈ seen, document.documentID ∈ ids
  own : ∀ comment ∈ extra, own comment

/-- The list of a listener that has seen these documents. -/
def Lists (store : Firestore) (post : PostId) (own : Comment → Prop) (seen : List Document)
    (comments : List Comment) : Prop :=
  ∃ ids extra, Parts store post own seen comments ids extra

section Documents

variable {store later known : Firestore} {post : PostId} {id : String} {ids : List String}
  {own : Comment → Prop} {comments extra : List Comment} {order : List DocumentReference}
  {seen documents : List Document}

private theorem lists_nil (store : Firestore) (post : PostId) (own : Comment → Prop) :
    Lists store post own [] [] :=
  ⟨[], [], .refl [], List.nodup_nil, by simp, by simp, by simp, by simp⟩

private theorem lookup_of_lasting {data : Dictionary} (lasting : Lasting store later)
    (held : store.lookup (.comment post id) = some data) :
    later.lookup (.comment post id) = some data := by
  obtain ⟨after, present, same⟩ := lasting (.comment post id) data rfl held
  rw [present, funext fun key => same key rfl]

/-- Comments stay stored. -/
private theorem shown_of_lasting (lasting : Lasting store later)
    (present : .comment post id ∈ store) :
    .comment post id ∈ later ∧
      shown later (.comment post id) = shown store (.comment post id) := by
  obtain ⟨data, held⟩ := Finmap.mem_iff.mp present
  have still := lookup_of_lasting lasting held
  exact ⟨Finmap.mem_of_lookup_eq_some still, by rw [shown, shown, still, held]⟩

private theorem Lists.mono (lists : Lists store post own seen comments)
    (lasting : Lasting store later) :
    Lists later post own seen comments := by
  obtain ⟨ids, extra, parts⟩ := lists
  refine ⟨ids, extra, ?_, parts.nodup, fun id member =>
    (shown_of_lasting lasting (parts.stored id member)).1, parts.listed, parts.whole, parts.own⟩
  rw [List.map_congr_left fun id member => (shown_of_lasting lasting (parts.stored id member)).2]
  exact parts.perm

private theorem Lists.widen {more : Comment → Prop} (lists : Lists store post own seen comments)
    (widens : ∀ comment, own comment → more comment) : Lists store post more seen comments := by
  obtain ⟨ids, extra, parts⟩ := lists
  exact ⟨ids, extra, { parts with
    own := fun comment member => widens comment (parts.own comment member) }⟩

private theorem mem_comments {reference : DocumentReference} :
    reference ∈ (store.references (.comments post)).val ↔
      ∃ id, reference = .comment post id ∧ .comment post id ∈ store := by
  rw [Finset.mem_val, Firestore.mem_references]
  constructor
  · rintro ⟨present, parent⟩
    have path := reference.parent_document
    rw [parent] at path
    exact ⟨reference.documentID, path.symm, path ▸ present⟩
  · rintro ⟨id, rfl, present⟩
    exact ⟨present, rfl⟩

private theorem commentsOn_mono (lasting : Lasting store later) (post : PostId) :
    commentsOn store post ≤ commentsOn later post := by
  have same : commentsOn store post =
      (store.references (.comments post)).val.map (shown later) := by
    refine Multiset.map_congr rfl fun reference member => ?_
    obtain ⟨id, rfl, present⟩ := mem_comments.mp member
    exact (shown_of_lasting lasting present).2.symm
  rw [same]
  refine Multiset.map_le_map ((Multiset.le_iff_subset (Finset.nodup _)).mpr fun reference member => ?_)
  obtain ⟨id, rfl, present⟩ := mem_comments.mp member
  exact mem_comments.mpr ⟨id, rfl, (shown_of_lasting lasting present).1⟩

private theorem Parts.coe (parts : Parts store post own seen comments ids extra) :
    (comments : Multiset Comment) =
      Multiset.map (shown store) (ids.map (DocumentReference.comment post) : List _) + ↑extra := by
  rw [Multiset.map_coe, List.map_map, Multiset.coe_add, Multiset.coe_eq_coe]
  exact parts.perm

private theorem Parts.references (parts : Parts store post own seen comments ids extra) :
    ((ids.map (DocumentReference.comment post) : List _) : Multiset DocumentReference) ≤
      (store.references (.comments post)).val := by
  have nodup : (ids.map (DocumentReference.comment post)).Nodup :=
    parts.nodup.map fun first second same => (DocumentReference.comment.inj same).2
  refine (Multiset.le_iff_subset (Multiset.coe_nodup.mpr nodup)).mpr fun reference member => ?_
  obtain ⟨id, listed, rfl⟩ := List.mem_map.mp (Multiset.mem_coe.mp member)
  exact mem_comments.mpr ⟨id, rfl, parts.stored id listed⟩

/-- What is listed is stored, and no stored comment is listed twice, but for what is its own. -/
private theorem Lists.le (lists : Lists store post own seen comments) :
    ∃ extra : List Comment, ↑comments ≤ commentsOn store post + ↑extra ∧
      ∀ comment ∈ extra, own comment := by
  obtain ⟨ids, extra, parts⟩ := lists
  refine ⟨extra, ?_, parts.own⟩
  rw [parts.coe]
  exact add_le_add_left (Multiset.map_le_map parts.references) _

/-- When nothing is its own and all ids are seen, all comments are listed. -/
private theorem Lists.eq (lists : Lists store post own seen comments)
    (none : ∀ comment, ¬ own comment)
    (all : ∀ id, .comment post id ∈ store → id ∈ seen.map Document.documentID) :
    ↑comments = commentsOn store post := by
  obtain ⟨ids, extra, parts⟩ := lists
  obtain rfl : extra = [] := List.eq_nil_iff_forall_not_mem.mpr fun comment member =>
    none comment (parts.own comment member)
  have whole : (store.references (.comments post)).val ≤
      ((ids.map (DocumentReference.comment post) : List _) : Multiset DocumentReference) := by
    refine (Multiset.le_iff_subset (Finset.nodup _)).mpr fun reference member => ?_
    obtain ⟨id, rfl, present⟩ := mem_comments.mp member
    obtain ⟨document, old, rfl⟩ := List.mem_map.mp (all id present)
    exact Multiset.mem_coe.mpr (List.mem_map_of_mem (parts.whole rfl document old))
  rw [parts.coe, parts.references.antisymm whole, Multiset.coe_nil, add_zero]
  rfl

private theorem ofDictionary_data (record : CommentRecord) (now : Timestamp) :
    Comment.ofDictionary now record.data = Comment.ofDictionary ⟨0, 0⟩ record.data := by
  simp [Comment.ofDictionary, CommentRecord.data, Dictionary.ofList, Dictionary.string,
    Dictionary.timestamp, List.lookup_cons]

private theorem record_of_stored (decodes : Decodes store) {data : Dictionary}
    (held : store.lookup (.comment post id) = some data) :
    ∃ record : CommentRecord, record.data = data :=
  ⟨_, decodes.comment held ⟨0, 0⟩⟩

/-- What the snapshot has that was not seen is appended: stored comments, and some of its own. -/
private theorem Parts.append (parts : Parts store post own seen comments ids extra) {now : Timestamp}
    {landed drafts : List Document}
    (split : (CommentLists.new seen documents).Perm (landed ++ drafts))
    (found : (documents.map Document.documentID).Nodup)
    (kept : ∀ id ∈ ids, id ∈ documents.map Document.documentID)
    (stored : ∀ document ∈ landed, .comment post document.documentID ∈ store ∧
      Comment.ofDictionary now document.data = shown store (.comment post document.documentID))
    (sent : ∀ document ∈ drafts, own (Comment.ofDictionary now document.data)) :
    Parts store post own documents
      (comments ++ CommentLists.decode now (CommentLists.new seen documents))
      (ids ++ landed.map Document.documentID) (extra ++ CommentLists.decode now drafts) := by
  have fresh {document : Document} : document ∈ landed ++ drafts ↔
      document ∈ documents ∧ document.documentID ∉ seen.map Document.documentID := by
    rw [← split.mem_iff]
    simp [CommentLists.new]
  have among {document : Document} (member : document ∈ landed) :=
    fresh.mp (List.mem_append_left drafts member)
  refine ⟨?_, ?_, fun id member => ?_, fun id member => ?_, fun none document member => ?_,
    fun comment member => ?_⟩
  · have shows : (landed.map Document.documentID).map (fun id => shown store (.comment post id)) =
        CommentLists.decode now landed := by
      rw [List.map_map]
      exact List.map_congr_left fun document member => (stored document member).2.symm
    have parted : (CommentLists.decode now (CommentLists.new seen documents)).Perm
        (CommentLists.decode now landed ++ CommentLists.decode now drafts) := by
      simpa only [CommentLists.decode, List.map_append] using split.map _
    refine (parts.perm.append parted).trans ?_
    rw [List.map_append, shows, ← Multiset.coe_eq_coe]
    simp only [← Multiset.coe_add]
    exact add_add_add_comm ..
  · have sublist : ((landed ++ drafts).map Document.documentID).Nodup :=
      (split.map _).nodup_iff.mp (found.sublist (List.filter_sublist.map _))
    rw [List.map_append] at sublist
    refine parts.nodup.append sublist.of_append_left fun id old new => ?_
    obtain ⟨document, member, rfl⟩ := List.mem_map.mp new
    exact (among member).2 (parts.listed _ old)
  · rcases List.mem_append.mp member with old | new
    · exact parts.stored id old
    · obtain ⟨document, listed, rfl⟩ := List.mem_map.mp new
      exact (stored document listed).1
  · rcases List.mem_append.mp member with old | new
    · exact kept id old
    · obtain ⟨document, listed, rfl⟩ := List.mem_map.mp new
      exact List.mem_map_of_mem (among listed).1
  · obtain ⟨alone, rest⟩ := List.append_eq_nil_iff.mp none
    obtain rfl := List.map_eq_nil_iff.mp rest
    by_cases old : document.documentID ∈ seen.map Document.documentID
    · obtain ⟨before, listed, same⟩ := List.mem_map.mp old
      exact List.mem_append_left _ (same ▸ parts.whole alone before listed)
    · have new := fresh.mpr ⟨member, old⟩
      rw [List.append_nil] at new
      exact List.mem_append_right _ (List.mem_map_of_mem new)
  · rcases List.mem_append.mp member with old | new
    · exact parts.own comment old
    · obtain ⟨document, draft, rfl⟩ := List.mem_map.mp new
      exact sent document draft

/-- The data of a comment that the app writes does not depend on its id. -/
private theorem data_of_typed {written : String → Dictionary}
    (typed : (Request.addDocument (.comments post) written).Typed) :
    ∃ record : CommentRecord, ∀ name, written name = record.data := by
  obtain ⟨change, same⟩ := typed rfl
  cases change with
  | addComment other record =>
    obtain ⟨-, rfl⟩ := Request.addDocument.inj same
    exact ⟨record, fun _ => rfl⟩
  | addPost | addNotification =>
    obtain ⟨impossible, -⟩ := Request.addDocument.inj same
    cases impossible
  | put mark present => cases present <;> cases same
  | _ => cases same

/-- A snapshot that does not lag behind finds every comment of the post. -/
private theorem mem_answer (decodes : Decodes store)
    (keeps : ∀ reference data, store.lookup reference = some data →
      known.lookup reference = some data)
    (answered : (CommentLists.comments post).answer? known order = some documents)
    (present : .comment post id ∈ store) : id ∈ documents.map Document.documentID := by
  obtain ⟨data, held⟩ := Finmap.mem_iff.mp present
  obtain ⟨record, rfl⟩ := record_of_stored decodes held
  have there : known.lookup ((CollectionReference.comments post).document id) = some record.data :=
    keeps _ _ held
  refine (Query.mem_answer?_ids answered id).mpr ⟨Finmap.mem_of_lookup_eq_some there, rfl,
    fun filter filtered => (by cases filtered), fun field ordered => ?_⟩
  obtain rfl : "timestamp" = field := Option.some.inj ordered
  simp [CommentLists.comments, there, CommentRecord.data, Dictionary.ofList, List.lookup_cons]

/-- What a listener is told of completes its list. -/
private theorem Lists.extend {choice : Choice} {state : Cloud} {unsent : List Request}
    {changes : List DocumentChange} (lists : Lists state.firestore post own seen comments)
    (decodes : Decodes state.firestore) (typed : ∀ request ∈ unsent, request.Typed)
    (sends : ∀ written name, .addDocument (.comments post) written ∈ unsent →
      own (Comment.ofDictionary ⟨0, 0⟩ (written name)))
    (published : cloud.publish choice state unsent seen (CommentLists.comments post) =
      some (.ok changes, documents)) (now : Timestamp) :
    Lists state.firestore post own documents
      (comments ++ CommentLists.decode now (CommentLists.new seen documents)) := by
  obtain ⟨ids, extra, parts⟩ := lists
  obtain ⟨-, drafts, known, order, all, drafted, answered, current, rfl⟩ := publish_cases published
  obtain ⟨keeps, adds⟩ := lookup_withDrafts drafted
  have held {document : Document} (member : document ∈ CommentLists.new seen
      (all.filter fun document => document.documentID ∉ choice.lagging)) :
      known.lookup (.comment post document.documentID) = some document.data :=
    Query.lookup_answer? answered (List.mem_of_mem_filter (List.mem_of_mem_filter member))
  refine ⟨_, _, parts.append (List.filter_append_perm (fun document =>
      decide (DocumentReference.comment post document.documentID ∈ state.firestore)) _).symm
    ((Query.answer?_nodup answered).sublist (List.filter_sublist.map _)) ?_ ?_ ?_⟩
  · intro id old
    obtain ⟨before, listed, rfl⟩ := List.mem_map.mp (parts.listed id old)
    obtain ⟨document, member, same⟩ :=
      List.mem_map.mp (mem_answer decodes keeps answered (parts.stored _ old))
    rw [← same]
    refine List.mem_map_of_mem (List.mem_filter.mpr ⟨member, decide_eq_true ?_⟩)
    rw [same]
    exact current before listed
  · intro document member
    obtain ⟨new, present⟩ := List.mem_filter.mp member
    have present := of_decide_eq_true present
    obtain ⟨data, there⟩ := Finmap.mem_iff.mp present
    obtain ⟨record, rfl⟩ := record_of_stored decodes there
    have same := (held new).symm.trans (keeps _ _ there)
    refine ⟨present, ?_⟩
    rw [Option.some.inj same, ofDictionary_data, shown, there]
    rfl
  · intro document member
    obtain ⟨new, absent⟩ := List.mem_filter.mp member
    rcases adds _ _ (held new) with there | ⟨collection, written, draft, waits, -, -, path, same⟩
    · simp [Finmap.mem_of_lookup_eq_some there] at absent
    · obtain rfl : CollectionReference.comments post = collection :=
        (congrArg DocumentReference.parent path.symm).trans (by simp)
      obtain ⟨record, fixed⟩ := data_of_typed (typed _ waits)
      rw [← same, fixed, ofDictionary_data, ← fixed draft]
      exact sends written draft waits

/-- A listener that is told of all that is stored sees it. -/
private theorem mem_shown {choice : Choice} {state : Cloud} {unsent : List Request}
    {event : Except BackendError (List DocumentChange)} (decodes : Decodes state.firestore)
    (succeeds : choice.succeeds = true) (current : choice.lagging = [])
    (published : cloud.publish choice state unsent seen (CommentLists.comments post) =
      some (event, documents)) (present : .comment post id ∈ state.firestore) :
    id ∈ documents.map Document.documentID := by
  cases event with
  | error =>
    obtain ⟨-, fails⟩ := publish_error published
    cases succeeds.symm.trans fails
  | ok changes =>
    obtain ⟨-, drafts, known, order, all, drafted, answered, -, rfl⟩ := publish_cases published
    simpa [current] using mem_answer decodes (lookup_withDrafts drafted).1 answered present

end Documents
section Clients

variable {first second third app after : App} {ref : Ref} {post : Post} {comments : List Comment}

/-- Later on, every object still holds the comments it held, and what is new holds none. -/
structure Keeps (before after : App) : Prop where
  lasts : Lasts before after
  kept : ∀ {ref told}, before.told? Object.kept ref = some told →
    after.told? Object.kept ref = some told
  blank : ∀ {ref told}, after.told? Object.kept ref = some told →
    before.told? Object.kept ref = some told ∨ told.2 = []

private theorem Keeps.of_same (lasts : Lasts first second)
    (same : ∀ ref, second.told? Object.kept ref = first.told? Object.kept ref) :
    Keeps first second :=
  ⟨lasts, fun {ref _} known => (same ref).trans known, fun {ref _} known =>
    .inl ((same ref).symm.trans known)⟩

private theorem Keeps.refl (app : App) : Keeps app app := .of_same (.refl app) fun _ => rfl

private theorem Keeps.trans (left : Keeps first second) (right : Keeps second third) :
    Keeps first third := by
  refine ⟨left.lasts.trans right.lasts, fun known => right.kept (left.kept known), fun known => ?_⟩
  rcases right.blank known with between | blank
  · exact left.blank between
  · exact .inr blank

/-- Listeners aside, code keeps the comments that a device holds, and it opens no listener. -/
def course : Course firebase App where
  toMotion := lasting
  own := ⟨Keeps, Keeps.refl, Keeps.trans⟩
  follows := Keeps.lasts
  listens _ := False

private theorem keeps_add {object : Object} {inTab : Bool}
    (edits : ∀ uid delegate, object.subject = .editProfile uid delegate →
      app.subject? delegate = some (.profile uid)) (blank : object.comments = []) :
    Keeps app (app.add object inTab) := by
  refine ⟨lasts_add edits, fun known => told?_add known object inTab, fun known => ?_⟩
  rcases told?_add_cases known with old | rfl
  · exact .inl old
  · exact .inr blank

private theorem keeps_setUser (app : App) (user : User) :
    Keeps app (MainTabController.setUser user app) := by
  refine ⟨lasts_setUser app user, fun {ref _} known => ?_, fun {ref told} known => ?_⟩
  · exact (told?_setUser_of_lt (lt_of_told? known) user).trans known
  · rcases Nat.lt_or_ge ref app.objects.length with old | new
    · exact .inl ((told?_setUser_of_lt old user).symm.trans known)
    · obtain ⟨index, rfl⟩ := Nat.exists_eq_add_of_le new
      rw [told?_setUser_add] at known
      obtain ⟨entry, listed, rfl⟩ := Option.map_eq_some_iff.mp known
      have member := List.mem_of_getElem? listed
      simp only [tabs, List.mem_cons, List.not_mem_nil, or_false] at member
      rcases member with rfl | rfl | rfl | rfl <;> exact .inr rfl

private theorem guides : Guides course where
  lasts moved := moved
  alters same := .of_same (lasts_modify fun value found => congrArg Prod.fst (same value found))
    fun _ => told?_modify same
  add := keeps_add
  tabs := keeps_setUser
  signs app uid := .of_same (lasts_signs app uid) fun _ => rfl
  google app profile := .of_same (lasts_profile app profile) fun _ => rfl

private theorem find?_captured
    (held : app.told? Object.kept ref = some (.capturedComments, comments)) :
    app.find? (List Comment) ref = some comments := by
  obtain ⟨entry, found, same⟩ := Option.map_eq_some_iff.mp held
  rw [App.find?, found, Option.bind_some]
  rcases entry with ⟨object, inTab⟩
  cases object with
  | capturedComments list => exact congrArg (fun told => some told.2) same
  | _ => cases same

private theorem subject?_of_kept {subject : Subject}
    (known : app.told? Object.kept ref = some (subject, comments)) :
    app.subject? ref = some subject := by
  obtain ⟨entry, found, same⟩ := Option.map_eq_some_iff.mp known
  exact Option.map_eq_some_iff.mpr ⟨entry, found, congrArg Prod.fst same⟩

private theorem kept_of_subject? {subject : Subject} (about : app.subject? ref = some subject) :
    ∃ comments, app.told? Object.kept ref = some (subject, comments) := by
  obtain ⟨entry, found, rfl⟩ := Option.map_eq_some_iff.mp about
  exact ⟨entry.object.comments, Option.map_eq_some_iff.mpr ⟨entry, found, rfl⟩⟩

private theorem find?_page (known : app.told? Object.kept ref = some (.comment post, comments)) :
    ∃ page, app.find? CommentController ref = some page ∧ page.post = post ∧
      page.comments = comments := by
  obtain ⟨entry, found, same⟩ := Option.map_eq_some_iff.mp known
  rw [App.find?, found, Option.bind_some]
  rcases entry with ⟨object, inTab⟩
  cases object with
  | comment page =>
    obtain ⟨about, listed⟩ := Prod.mk.inj same
    exact ⟨page, rfl, Subject.comment.inj about, listed⟩
  | _ => cases same

end Clients

/-- What each list of each device may show of each post beside what is stored. -/
abbrev Own (ι : Type) := ι → Ref → PostId → Comment → Prop

/-- A listener of a comment page, with the list it extends and the documents it saw last. -/
structure Watch (ι : Type) where
  origin : ι
  page : Ref
  list : Ref
  post : Post
  seen : List Document

/-- The same listener, before it was told of anything. -/
def Watch.opened (watch : Watch ι) : Watch ι := { watch with seen := [] }

def Watch.listener (watch : Watch ι) : Listener cloud App ι where
  origin := watch.origin
  subscription := ⟨CommentLists.comments watch.post.postId,
    CommentLists.callback watch.page watch.list⟩
  cursor := watch.seen

/-- What the watch may show beside what is stored. -/
def Watch.owns (own : Own ι) (watch : Watch ι) : Comment → Prop :=
  own watch.origin watch.list watch.post.postId

/-- The page is one of the post, and the list holds the comments that the listener was told of. -/
structure Watch.Holds (store : Firestore) (own : Own ι) (app : App) (watch : Watch ι) : Prop where
  page : app.subject? watch.page = some (.comment watch.post)
  list : ∃ comments, app.told? Object.kept watch.list = some (.capturedComments, comments) ∧
    Lists store watch.post.postId (watch.owns own) watch.seen comments

/-- Every comment page lists stored comments of its post, none twice, and beside them only such of
`own`. -/
def Pages (store : Firestore) (own : PostId → Comment → Prop) (app : App) : Prop :=
  ∀ ref page, app.find? CommentController ref = some page → ∃ extra : List Comment,
    ↑page.comments ≤ commentsOn store page.post.postId + ↑extra ∧
      ∀ comment ∈ extra, own page.post.postId comment

/-- The device once the watch has shown these comments. -/
def Watch.shows (watch : Watch ι) (comments : List Comment) (app : App) : App :=
  (app.modify watch.list fun _ : List Comment => comments).modify watch.page
    (CommentLists.setComments comments)

section Watches

variable {store later : Firestore} {own more : Own ι} {app after : App} {watch other : Watch ι}
  {ref : Ref} {allowed wider : PostId → Comment → Prop} {comments : List Comment}
  {seen : List Document}

private theorem Watch.Holds.mono (holds : watch.Holds store own app) (lasting : Lasting store later)
    (keeps : Keeps app after) : watch.Holds later own after := by
  obtain ⟨comments, held, lists⟩ := holds.list
  exact ⟨keeps.lasts.subjects holds.page, comments, keeps.kept held, lists.mono lasting⟩

private theorem pages_iff : Pages store allowed app ↔ ∀ ref post comments,
    app.told? Object.kept ref = some (.comment post, comments) → ∃ extra : List Comment,
      ↑comments ≤ commentsOn store post.postId + ↑extra ∧
        ∀ comment ∈ extra, allowed post.postId comment := by
  constructor
  · intro pages ref post comments known
    obtain ⟨page, found, rfl, rfl⟩ := find?_page known
    exact pages ref page found
  · exact fun pages ref page found => pages ref page.post page.comments (told?_of_find found)

private theorem Pages.mono (pages : Pages store allowed app) (lasting : Lasting store later)
    (keeps : Keeps app after) : Pages later allowed after := by
  refine pages_iff.mpr fun ref post comments known => ?_
  rcases keeps.blank known with before | rfl
  · obtain ⟨extra, listed, owned⟩ := pages_iff.mp pages ref post comments before
    exact ⟨extra, listed.trans (add_le_add_left (commentsOn_mono lasting post.postId) _), owned⟩
  · exact ⟨[], Multiset.zero_le _, by simp⟩

private theorem Pages.widen (pages : Pages store allowed app)
    (widens : ∀ post comment, allowed post comment → wider post comment) :
    Pages store wider app := by
  intro ref page found
  obtain ⟨extra, listed, owned⟩ := pages ref page found
  exact ⟨extra, listed, fun comment member => widens _ comment (owned comment member)⟩

private theorem lasts_shows (watch : Watch ι) (comments : List Comment) (app : App) :
    Lasts app (watch.shows comments app) := by
  have extended : Lasts app (app.modify watch.list fun _ : List Comment => comments) :=
    lasts_modify fun _ _ => rfl
  exact extended.trans (lasts_modify fun _ _ => rfl)

private theorem told?_shows_of_ne (list : ref ≠ watch.list) (page : ref ≠ watch.page) :
    (watch.shows comments app).told? Object.kept ref = app.told? Object.kept ref := by
  rw [Watch.shows, told?_modify_of_ne page, told?_modify_of_ne list]

private theorem Watch.Holds.apart (holds : watch.Holds store own app) : watch.list ≠ watch.page := by
  intro same
  obtain ⟨seen, held, -⟩ := holds.list
  have impossible := holds.page.symm.trans (same ▸ subject?_of_kept held)
  cases impossible

private theorem Watch.Holds.told?_list (holds : watch.Holds store own app) (comments : List Comment) :
    (watch.shows comments app).told? Object.kept watch.list = some (.capturedComments, comments) := by
  obtain ⟨seen, held, -⟩ := holds.list
  have extended : (app.modify watch.list fun _ : List Comment => comments).find? (List Comment)
      watch.list = some comments := by
    rw [App.find?_modify, find?_captured held]
    rfl
  rw [Watch.shows, told?_modify_of_ne holds.apart, told?_of_find extended]
  rfl

private theorem Watch.Holds.told?_page (holds : watch.Holds store own app) (comments : List Comment) :
    (watch.shows comments app).told? Object.kept watch.page =
      some (.comment watch.post, comments) := by
  obtain ⟨listed, known⟩ := kept_of_subject? holds.page
  obtain ⟨page, found, same, -⟩ := find?_page known
  have shown : (watch.shows comments app).find? CommentController watch.page =
      some (CommentLists.setComments comments page) := by
    rw [Watch.shows, App.find?_modify, App.find?_modify_of_ne app holds.apart.symm, found]
    rfl
  rw [told?_of_find shown, ← same]
  rfl

/-- The watch itself, once it was told of more. -/
private theorem Watch.Holds.shown (holds : watch.Holds store own app)
    (lists : Lists store watch.post.postId (watch.owns own) seen comments) :
    ({ watch with seen } : Watch ι).Holds store own (watch.shows comments app) :=
  ⟨(lasts_shows watch comments app).subjects holds.page, comments, holds.told?_list comments, lists⟩

/-- Other watches of the device, which extend other lists. -/
private theorem Watch.Holds.beside (holds : watch.Holds store own app)
    (mine : other.Holds store own app) (apart : other.list ≠ watch.list) :
    other.Holds store own (watch.shows comments app) := by
  obtain ⟨listed, held, lists⟩ := mine.list
  have list : other.list ≠ watch.page := by
    intro same
    have impossible := holds.page.symm.trans (same ▸ subject?_of_kept held)
    cases impossible
  refine ⟨(lasts_shows watch comments app).subjects mine.page, listed, ?_, lists⟩
  rw [told?_shows_of_ne apart list, held]

private theorem Pages.shown (pages : Pages store allowed app) (holds : watch.Holds store own app)
    (lists : Lists store watch.post.postId (watch.owns own) seen comments)
    (owned : ∀ comment, watch.owns own comment → allowed watch.post.postId comment) :
    Pages store allowed (watch.shows comments app) := by
  refine pages_iff.mpr fun ref post listed known => ?_
  by_cases page : ref = watch.page
  · subst page
    obtain ⟨rfl, rfl⟩ : watch.post = post ∧ comments = listed := by
      simpa [Prod.ext_iff] using (holds.told?_page comments).symm.trans known
    obtain ⟨extra, fewer, mine⟩ := lists.le
    exact ⟨extra, fewer, fun comment member => owned comment (mine comment member)⟩
  by_cases list : ref = watch.list
  · subst list
    have impossible := (holds.told?_list comments).symm.trans known
    cases impossible
  · rw [told?_shows_of_ne list page] at known
    exact pages_iff.mp pages ref post listed known

/-- What the code of a listener does when it is told of a snapshot, or of an error. -/
private theorem Watch.Holds.run_callback {state : Cloud} {unsent : List Request} {choice : Choice}
    {event : Except BackendError (List DocumentChange)} (holds : watch.Holds state.firestore own app)
    (decodes : Decodes state.firestore) (typed : ∀ request ∈ unsent, request.Typed)
    (sends : ∀ written name, .addDocument (.comments watch.post.postId) written ∈ unsent →
      watch.owns own (Comment.ofDictionary ⟨0, 0⟩ (written name)))
    (published : cloud.publish choice state unsent watch.seen
      (CommentLists.comments watch.post.postId) = some (event, seen)) :
    ∃ comments, Lists state.firestore watch.post.postId (watch.owns own) seen comments ∧
      (CommentLists.callback watch.page watch.list event).run app =
        ⟨some (watch.shows comments app), [], []⟩ := by
  obtain ⟨listed, held, lists⟩ := holds.list
  have found := find?_captured held
  cases event with
  | error error =>
    obtain ⟨rfl, -⟩ := publish_error published
    refine ⟨listed, lists, ?_⟩
    rw [CommentLists.run_callback_error found, Watch.shows, App.modify_eq_self found rfl]
  | ok changes =>
    refine ⟨_, lists.extend decodes typed sends published app.now, ?_⟩
    obtain ⟨rfl, -⟩ := publish_cases published
    have extended (more : List Comment) : (app.modify watch.list fun comments => comments ++ more) =
        app.modify watch.list fun _ => listed ++ more :=
      App.modify_congr found rfl
    rw [CommentLists.run_callback_ok found, CommentLists.added_documentChanges, extended, Watch.shows]

end Watches

/-- All listeners are those of watches that extend lists of their own, and all other code keeps what
they extend and show. -/
structure Agreeing (own : Own ι) (net : Network cloud App ι ι) (watches : List (Watch ι)) : Prop where
  bound : net.Bound course id
  coherent : ∀ client, ∀ app ∈ net.clients client, Coherent app
  listeners : net.listeners = watches.map Watch.listener
  apart : (watches.map fun watch => (watch.origin, watch.list)).Nodup
  holds : ∀ watch ∈ watches, ∀ app ∈ net.clients watch.origin,
    watch.Holds net.store.firestore own app
  pages : ∀ client, ∀ app ∈ net.clients client,
    Pages net.store.firestore (fun post comment => ∃ list, own client list post comment) app

section Steps

variable {own more : Own ι} {net next : Network cloud App ι ι} {watches added : List (Watch ι)}
  {client : ι} {app : App} {ref : Ref} {page : CommentController} {index : ℕ} {choice : Choice}

/-- What keeps the lists of the watches there are, and may add some. -/
private theorem Agreeing.follow (agreeing : Agreeing own net watches)
    (lasting : Lasting net.store.firestore next.store.firestore) (bound : next.Bound course id)
    (moved : net.Moved course.own next)
    (listeners : next.listeners = (watches ++ added).map Watch.listener)
    (apart : ((watches ++ added).map fun watch => (watch.origin, watch.list)).Nodup)
    (new : ∀ watch ∈ added, ∀ app ∈ next.clients watch.origin,
      watch.Holds next.store.firestore own app) : Agreeing own next (watches ++ added) := by
  refine ⟨bound, fun client app running => ?_, listeners, apart, fun watch member app running => ?_,
    fun client app running => ?_⟩
  · obtain ⟨before, known, keeps⟩ := moved client app running
    exact keeps.lasts.coherent (agreeing.coherent client before known)
  · rcases List.mem_append.mp member with old | member
    · obtain ⟨before, known, keeps⟩ := moved watch.origin app running
      exact (agreeing.holds watch old before known).mono lasting keeps
    · exact new watch member app running
  · obtain ⟨before, known, keeps⟩ := moved client app running
    exact (agreeing.pages client before known).mono lasting keeps

/-- The lists may show more of their own. -/
private theorem Agreeing.widen (agreeing : Agreeing own net watches)
    (lists : ∀ watch ∈ watches, ∀ comment, watch.owns own comment → watch.owns more comment)
    (pages : ∀ client post comment, (∃ list, own client list post comment) →
      ∃ list, more client list post comment) : Agreeing more net watches := by
  refine ⟨agreeing.bound, agreeing.coherent, agreeing.listeners, agreeing.apart,
    fun watch member app running => ?_,
    fun client app running => (agreeing.pages client app running).widen (pages client)⟩
  obtain ⟨page, comments, held, listed⟩ := agreeing.holds watch member app running
  exact ⟨page, comments, held, listed.widen (lists watch member)⟩

private theorem Agreeing.serve (agreeing : Agreeing own net watches)
    (lasting : Lasting net.store.firestore next.store.firestore)
    (served : net.serve? index choice = some next) : Agreeing own next watches := by
  have bound := agreeing.bound.serve served
  obtain ⟨before, after, origin, call, store, answer, -, -, -, rfl⟩ := Network.serve?_cases served
  have moved : net.Moved course.own net := .refl net
  rw [← List.append_nil watches]
  exact agreeing.follow lasting bound moved (by simpa using agreeing.listeners)
    (by simpa using agreeing.apart) (by simp)

variable [DecidableEq ι]

/-- Code that opens no listener. -/
private theorem Agreeing.launch (agreeing : Agreeing own net watches) {program : Code App}
    (steers : ∀ app ∈ net.clients client, program.Steers course app) :
    Agreeing own (net.launch id client program) watches := by
  obtain ⟨bound, moved⟩ : (net.launch id client program).Bound course id ∧
      net.Moved course.own (net.launch id client program) := agreeing.bound.launch steers
  have quiet : (net.launch id client program).listeners = net.listeners :=
    Network.listeners_launch steers fun _ => id
  have lasting : Lasting net.store.firestore (net.launch id client program).store.firestore := by
    rw [Network.launch_store]
    exact .refl net.store.firestore
  rw [← List.append_nil watches]
  exact agreeing.follow lasting bound moved (by simpa using quiet.trans agreeing.listeners)
    (by simpa using agreeing.apart) (by simp)

private theorem Agreeing.deliver (agreeing : Agreeing own net watches)
    (delivered : net.deliver? id index = some next) : Agreeing own next watches := by
  obtain ⟨flight, origin, program, rfl, bound, steers⟩ := agreeing.bound.deliver delivered
  have rest : Agreeing own { net with flight } watches :=
    ⟨bound, agreeing.coherent, agreeing.listeners, agreeing.apart, agreeing.holds, agreeing.pages⟩
  exact rest.launch steers

/-- A page that is there begins to listen. -/
private theorem Agreeing.load (agreeing : Agreeing own net watches)
    (running : net.clients client = some app)
    (found : app.find? CommentController ref = some page) :
    Agreeing own (net.launch id client (CommentController.viewDidLoad ref))
      (watches ++ [⟨client, ref, app.objects.length, page.post, []⟩]) := by
  have ran := CommentLists.run_viewDidLoad found
  have keeps : Keeps app (app.add (.capturedComments []) false) :=
    keeps_add (fun _ _ edits => by cases edits) rfl
  have moved : net.Moved course.own
      (net.launch id client (CommentController.viewDidLoad ref)) := by
    refine fun other after now => Network.launch_moves net (fun state here next became => ?_) now
    obtain rfl := Option.some.inj (running.symm.trans here)
    rw [ran] at became
    obtain rfl := Option.some.inj became
    exact keeps
  have launched := Network.launch_running (show net.clients (id client) = some app from running)
    (CommentController.viewDidLoad ref)
  rw [ran] at launched
  rw [launched] at moved ⊢
  have bound : net.Bound course id := agreeing.bound
  refine agreeing.follow (.refl net.store.firestore)
    (bound.mono (by simp) (moved.mono course.follows)) moved ?_ ?_ ?_
  · simp [agreeing.listeners, Watch.listener]
  · rw [List.map_append, List.map_singleton, List.nodup_append_comm, List.singleton_append]
    refine List.nodup_cons.mpr ⟨fun member => ?_, agreeing.apart⟩
    obtain ⟨watch, old, same⟩ := List.mem_map.mp member
    obtain ⟨rfl, list⟩ := Prod.mk.inj same
    obtain ⟨comments, held, -⟩ := (agreeing.holds watch old app running).list
    exact absurd list (Nat.ne_of_lt (lt_of_told? held))
  · intro watch member now is
    obtain rfl := List.mem_singleton.mp member
    obtain rfl : app.add (.capturedComments []) false = now := by simpa using is
    refine ⟨keeps.lasts.subjects (told?_of_find found), [], ?_, lists_nil _ _ _⟩
    simp [App.told?, App.add, Object.kept, Object.subject, Object.comments]

/-- Every action goes on with the watches there are, and may add one. -/
private theorem Agreeing.act (agreeing : Agreeing own net watches) (client : ι) (action : AppAction) :
    ∃ added, Agreeing own (net.launch id client action.perform) (watches ++ added) := by
  have calm (steers : ∀ app ∈ net.clients client, action.perform.Steers course app) :
      ∃ added, Agreeing own (net.launch id client action.perform) (watches ++ added) := by
    refine ⟨[], ?_⟩
    rw [List.append_nil]
    exact agreeing.launch steers
  cases loads : action.loadsComments with
  | false =>
    refine calm fun app running => ?_
    exact guides.steers_perform (agreeing.coherent client app running) loads
  | true =>
    cases action with
    | auth => cases loads
    | user action =>
      cases action with
      | commentViewDidLoad ref =>
        cases running : net.clients client with
        | none => exact calm (by simp [running])
        | some app =>
          cases found : app.find? CommentController ref with
          | some page => exact ⟨_, agreeing.load running found⟩
          | none =>
            refine calm fun state here => Code.steers_withObject fun page present => ?_
            obtain rfl := Option.some.inj (running.symm.trans here)
            cases found.symm.trans present
      | _ => cases loads

/-- The device has this comment on the post still to send. -/
def Waiting (net : Network cloud App ι ι) (client : ι) (post : PostId) (comment : Comment) : Prop :=
  ∃ written name, .addDocument (.comments post) written ∈ net.unsent id client ∧
    comment = Comment.ofDictionary ⟨0, 0⟩ (written name)

/-- What a device has still to send, its lists may show. -/
def Covers (own : Own ι) (net : Network cloud App ι ι) : Prop :=
  ∀ client list post comment, Waiting net client post comment → own client list post comment

omit [DecidableEq ι] in
/-- When one watch has seen more, the others are as they were, and hold other lists. -/
private theorem Agreeing.elsewhere {before after : List (Watch ι)} {watch other : Watch ι}
    (agreeing : Agreeing own net (before ++ watch :: after)) (seen : List Document)
    (member : other ∈ before ++ { watch with seen } :: after) :
    other = { watch with seen } ∨ other ∈ before ++ watch :: after ∧
      (other.origin, other.list) ≠ (watch.origin, watch.list) := by
  have distinct := agreeing.apart
  rw [List.map_append, List.map_cons, List.nodup_middle, List.nodup_cons, ← List.map_append]
    at distinct
  rw [List.mem_append, List.mem_cons] at member
  rcases member with member | rfl | member
  · exact .inr ⟨by simp [member], fun same =>
      distinct.1 (same ▸ List.mem_map_of_mem (List.mem_append_left _ member))⟩
  · exact .inl rfl
  · exact .inr ⟨by simp [member], fun same =>
      distinct.1 (same ▸ List.mem_map_of_mem (List.mem_append_right _ member))⟩

/-- A listener is told of a snapshot, or of an error, and its page shows what it has been told of. -/
private theorem Agreeing.tell {before after : List (Watch ι)} {watch : Watch ι} {seen : List Document}
    {event : Except BackendError (List DocumentChange)}
    (agreeing : Agreeing own net (before ++ watch :: after)) (decodes : Decodes net.store.firestore)
    (typed : ∀ request ∈ net.unsent id watch.origin, request.Typed) (covers : Covers own net)
    (published : cloud.publish choice net.store (net.unsent id watch.origin) watch.seen
      (CommentLists.comments watch.post.postId) = some (event, seen))
    (told : next = Network.launch id
      { net with listeners := (before ++ { watch with seen } :: after).map Watch.listener }
      watch.origin (CommentLists.callback watch.page watch.list event)) :
    Agreeing own next (before ++ { watch with seen } :: after) ∧
      ∀ app ∈ next.clients watch.origin, ∃ comments,
        app.told? Object.kept watch.page = some (.comment watch.post, comments) ∧
        Lists net.store.firestore watch.post.postId (watch.owns own) seen comments := by
  have here : watch ∈ before ++ watch :: after := by simp
  have same : ((before ++ { watch with seen } :: after).map fun watch => (watch.origin, watch.list)) =
      (before ++ watch :: after).map fun watch => (watch.origin, watch.list) := by
    simp
  cases running : net.clients watch.origin with
  | none =>
    rw [Network.launch_trapped (show _ = _ from running)] at told
    subst told
    refine ⟨⟨agreeing.bound, agreeing.coherent, rfl, same ▸ agreeing.apart, ?_, agreeing.pages⟩,
      by simp [running]⟩
    intro other member app there
    rcases agreeing.elsewhere seen member with rfl | ⟨among, -⟩
    · cases running.symm.trans there
    · exact agreeing.holds other among app there
  | some app =>
    have holds := agreeing.holds watch here app running
    obtain ⟨comments, lists, ran⟩ := holds.run_callback decodes typed
      (fun written name waits => covers _ _ _ _ ⟨written, name, waits, rfl⟩) published
    rw [Network.launch_running (show _ = some app from running), ran] at told
    have moved : net.Moved lasting next := by
      intro client now there
      subst told
      by_cases mine : client = watch.origin
      · obtain rfl : watch.shows comments app = now := by simpa [mine] using there
        exact ⟨app, mine ▸ running, lasts_shows watch comments app⟩
      · exact ⟨now, by simpa [mine] using there, .refl now⟩
    have bound : next.Bound course id := agreeing.bound.mono (by simp [told]) moved
    subst told
    refine ⟨⟨bound, fun client now there => ?_, by simp, same ▸ agreeing.apart, ?_, ?_⟩, ?_⟩
    · obtain ⟨first, known, lasts⟩ := moved client now there
      exact lasts.coherent (agreeing.coherent client first known)
    · intro other member now there
      by_cases mine : other.origin = watch.origin
      · obtain rfl : watch.shows comments app = now := by simpa [mine] using there
        rcases agreeing.elsewhere seen member with rfl | ⟨among, apart⟩
        · exact holds.shown lists
        · refine holds.beside (agreeing.holds other among app (mine ▸ running)) fun list => ?_
          exact apart (Prod.ext mine list)
      · rcases agreeing.elsewhere seen member with rfl | ⟨among, -⟩
        · exact absurd rfl mine
        · exact agreeing.holds other among now (by simpa [mine] using there)
    · intro client now there
      by_cases mine : client = watch.origin
      · subst mine
        obtain rfl : watch.shows comments app = now := by simpa using there
        exact (agreeing.pages watch.origin app running).shown holds lists
          fun comment owned => ⟨watch.list, owned⟩
      · exact agreeing.pages client now (by simpa [mine] using there)
    · intro now there
      obtain rfl : watch.shows comments app = now := by simpa using there
      exact ⟨comments, holds.told?_page comments, lists⟩

/-- What a listener is told of when it is notified, and by which watch. -/
private theorem Agreeing.notify (agreeing : Agreeing own net watches)
    (decodes : Decodes net.store.firestore)
    (typed : ∀ client, ∀ request ∈ net.unsent id client, request.Typed) (covers : Covers own net)
    (notified : net.notify? id index choice = some next) :
    ∃ before watch after seen event, watches = before ++ watch :: after ∧ before.length = index ∧
      cloud.publish choice net.store (net.unsent id watch.origin) watch.seen
        (CommentLists.comments watch.post.postId) = some (event, seen) ∧
      Agreeing own next (before ++ { watch with seen } :: after) ∧
      ∀ app ∈ next.clients watch.origin, ∃ comments,
        app.told? Object.kept watch.page = some (.comment watch.post, comments) ∧
        Lists net.store.firestore watch.post.postId (watch.owns own) seen comments := by
  obtain ⟨listener, present, rest⟩ := Option.bind_eq_some_iff.mp notified
  obtain ⟨⟨event, seen⟩, published, told⟩ := Option.map_eq_some_iff.mp rest
  rw [agreeing.listeners, List.getElem?_map] at present
  obtain ⟨watch, found, rfl⟩ := Option.map_eq_some_iff.mp present
  obtain ⟨bound, atIndex⟩ := List.getElem?_eq_some_iff.mp found
  have whole : watches = watches.take index ++ watch :: watches.drop (index + 1) := by
    rw [← atIndex, ← List.drop_eq_getElem_cons bound, List.take_append_drop]
  have set : net.listeners.set index { watch.listener with cursor := seen } =
      (watches.take index ++ { watch with seen } :: watches.drop (index + 1)).map
        Watch.listener := by
    rw [agreeing.listeners, List.set_eq_take_append_cons_drop, if_pos (by simpa using bound)]
    simp [Watch.listener]
  dsimp only at told
  rw [set] at told
  rw [whole] at agreeing
  exact ⟨_, watch, _, seen, event, whole, List.length_take_of_le (Nat.le_of_lt bound), published,
    agreeing.tell decodes (typed watch.origin) covers published told.symm⟩

/-- The watches there are go on, in their places. -/
private theorem Agreeing.step {event : Event cloud ι AppAction} (agreeing : Agreeing own net watches)
    (decodes : Decodes net.store.firestore)
    (typed : ∀ client, ∀ request ∈ net.unsent id client, request.Typed) (covers : Covers own net)
    (lasting : Lasting net.store.firestore next.store.firestore)
    (taken : net.event? AppAction.perform event = some next) :
    ∃ later, Agreeing own next later ∧ watches.map Watch.opened <+: later.map Watch.opened := by
  cases event with
  | act client action =>
    obtain rfl := Option.some.inj taken
    obtain ⟨added, agreeing⟩ := agreeing.act client action
    exact ⟨_, agreeing, by simp⟩
  | signal signal =>
    cases signal with
    | serve index choice => exact ⟨watches, agreeing.serve lasting taken, List.prefix_refl _⟩
    | deliver index => exact ⟨watches, agreeing.deliver taken, List.prefix_refl _⟩
    | notify index choice =>
      obtain ⟨before, watch, after, seen, -, rfl, -, -, agreeing, -⟩ :=
        agreeing.notify decodes typed covers taken
      exact ⟨_, agreeing, by simp [Watch.opened]⟩

end Steps

section Runs

/-- The documents are those of records, and permanent ones last. -/
def contract (ι : Type) : Contract firebase Cloud App ι :=
  TypedStore.contract ι (fun store => ∃ records : Records, records.Represents store.firestore)
    (fun before after => Lasting before.firestore after.firestore) lasting_refl lasting_trans

private theorem lawful : cloud.Lawful (contract ι) fun _ => True where
  serve _ kept typed served :=
    ⟨represents_serve kept typed served, lasting_serve typed served, trivial⟩
  publish _ _ _ _ := trivial

variable [DecidableEq ι] {own : Own ι} {start net opened final next : Network cloud App ι ι}
  {past events : List (Event cloud ι AppAction)} {watches : List (Watch ι)} {records : Records}

private theorem typed_unsent (sound : net.Sound (contract ι) id) (client : ι) :
    ∀ request ∈ net.unsent id client, request.Typed := by
  intro request member
  obtain ⟨origin, call, among, -, rfl⟩ := Network.mem_unsent.mp member
  exact (sound.flight _ among).1

/-- Along a run in which lists may show what their device sends. -/
private theorem agreeing_run (sound : net.Sound (contract ι) id) (agreeing : Agreeing own net watches)
    (run : Run (fun net event next => net.event? AppAction.perform event = some next ∧
      Covers own net) net events final) : final.Sound (contract ι) id ∧
      ∃ later, Agreeing own final later ∧ watches.map Watch.opened <+: later.map Watch.opened := by
  apply run.invariant ⟨sound, watches, agreeing, List.prefix_refl _⟩
  rintro state event next ⟨taken, covers⟩ ⟨sound, between, agreeing, kept⟩
  obtain ⟨records, represents⟩ := sound.store
  obtain ⟨still, lasting⟩ := TypedStore.sound_run lawful sound (.single taken)
  obtain ⟨later, agreeing, goes⟩ := agreeing.step (decodes_of_represents represents)
    (typed_unsent sound) covers lasting taken
  exact ⟨still, later, agreeing, kept.trans goes⟩

/-- No page listens yet, and none lists what is not stored. -/
structure Fresh (net : Network cloud App ι ι) : Prop where
  represents : ∃ records : Records, records.Represents net.store.firestore
  coherent : ∀ client, ∀ app ∈ net.clients client, Coherent app
  pages : ∀ client, ∀ app ∈ net.clients client, Pages net.store.firestore (fun _ _ => False) app
  idle : net.flight = []
  quiet : net.listeners = []

private theorem Fresh.run (fresh : Fresh start)
    (run : Run (fun net event next => net.event? AppAction.perform event = some next ∧
      Covers own net) start events final) :
    final.Sound (contract ι) id ∧ ∃ watches, Agreeing own final watches := by
  have sound : start.Sound (contract ι) id := by
    refine ⟨fresh.represents, fun _ _ => trivial, fun _ _ _ => trivial, ?_, ?_⟩
    · simp [fresh.idle]
    · simp [fresh.quiet]
  have agreeing : Agreeing own start [] := by
    refine ⟨?_, fresh.coherent, by simp [fresh.quiet], List.nodup_nil, by simp, ?_⟩
    · intro pending member
      simp [fresh.idle] at member
    · exact fun client app running => (fresh.pages client app running).widen fun _ _ => False.elim
  obtain ⟨still, later, agrees, -⟩ := agreeing_run sound agreeing run
  exact ⟨still, later, agrees⟩

section Example

/-- A comment on the post `p`, which is in the backend from the start. -/
def record : CommentRecord := ⟨"v", "", "v", "", "w", ⟨1, 0⟩⟩

/-- The user of the device. -/
def user : User := ⟨"", "", "", "", "u", ⟨0, 0, 0⟩, false⟩

/-- A device with a comment page of the post beside its tabs. -/
def phone : App where
  currentUser := some "u"
  user := some user
  viewControllers := [1, 2, 3, 4]
  objects := ⟨.comment { post := .ofDictionary ⟨0, 0⟩ "p" .empty }, true⟩ :: tabs user

def reading (ι : Type) : Network cloud App ι ι where
  store := { firestore := (RecordChange.addComment "p" record).request.apply "a" ∅ }
  clients _ := some phone

private theorem coherent_phone : Coherent phone := by
  constructor
  · intro ref uid delegate known
    obtain ⟨entry, found, edits⟩ := Option.map_eq_some_iff.mp known
    have member := List.mem_of_getElem? found
    simp only [phone, tabs, List.mem_cons, List.not_mem_nil, or_false] at member
    rcases member with rfl | rfl | rfl | rfl | rfl <;> cases edits
  · rintro current ⟨⟩
    refine ⟨1, 2, 3, 4, rfl, ?_, rfl, rfl, rfl, rfl⟩
    decide
  · intro absent
    cases absent

private theorem fresh_reading (ι : Type) : Fresh (reading ι) := by
  refine ⟨⟨_, (RecordChange.addComment "p" record).represents_apply Records.represents_empty⟩, ?_, ?_,
    rfl, rfl⟩
  · rintro client app ⟨⟩
    exact coherent_phone
  · rintro client app ⟨⟩
    refine pages_iff.mpr fun ref post comments known => ?_
    obtain ⟨entry, found, same⟩ := Option.map_eq_some_iff.mp known
    have member := List.mem_of_getElem? found
    simp only [phone, tabs, List.mem_cons, List.not_mem_nil, or_false] at member
    rcases member with rfl | rfl | rfl | rfl | rfl <;> cases same
    exact ⟨[], Multiset.zero_le _, by simp⟩

def commenting (client : ι) : List (Event cloud ι AppAction) :=
  [.act client (.user (.commentEditText 0 "c")), .act client (.user (.commentOnTapPost 0))]

/-- Somebody else comments. The page is first shown what its device has in its cache. -/
def commented : List (Event cloud Bool AppAction) :=
  commenting false ++ [.signal (.serve 0 (Choice.drawing "b")),
    .signal (.notify 0 (.snapshot [.comment "p" "a", .comment "p" "b"] [] ["b"]))]

/-- The page is shown both comments. -/
def snapshot : Choice := .snapshot [.comment "p" "a", .comment "p" "b"] [] []

end Example

/-- The device has no comment on the post to send. -/
def Silent (client : ι) (post : PostId) (net : Network cloud App ι ι) : Prop :=
  ∀ comment, ¬ Waiting net client post comment

/-- Every list may show what its device sends, but this one of the post. -/
def others (client : ι) (list : Ref) (post : PostId) : Own ι :=
  fun other ref id _ => (other, ref, id) ≠ (client, list, post)

private theorem Silent.covers {client : ι} {post : PostId} (silent : Silent client post net)
    (list : Ref) :
    Covers (others client list post) net := by
  rintro other ref id comment waits same
  obtain ⟨rfl, rfl, rfl⟩ : other = client ∧ ref = list ∧ id = post := by simpa using same
  exact silent comment waits

/-- Once a comment page has appeared, and while its device has no comment on the post to send, it
lists exactly the stored comments of its post whenever its listener was just told of all of them,
however many devices have commented and whatever has failed. -/
theorem comments_complete (fresh : Fresh start)
    (before : Run (fun net event next => net.event? AppAction.perform event = some next) start past
      net) {client : ι} {app now : App} {ref : Ref} {page : CommentController}
    (running : net.clients client = some app)
    (found : app.find? CommentController ref = some page)
    (appears : net.event? AppAction.perform (.act client (.user (.commentViewDidLoad ref))) =
      some opened)
    (run : Run (fun net event next => net.event? AppAction.perform event = some next ∧
      Silent client page.post.postId net) opened events final)
    (silent : Silent client page.post.postId final) {choice : Choice}
    (succeeds : choice.succeeds = true) (current : choice.lagging = [])
    (notified : final.event? AppAction.perform (.signal (.notify net.listeners.length choice)) =
      some next)
    (runs : next.clients client = some now) :
    ∃ later, now.find? CommentController ref = some later ∧ later.post = page.post ∧
      ↑later.comments = commentsOn final.store.firestore page.post.postId := by
  obtain ⟨sound, watches, agreeing⟩ := fresh.run
    (before.mono fun taken => ⟨taken, fun _ _ _ _ _ => trivial⟩ : Run (fun net event next =>
      net.event? AppAction.perform event = some next ∧ Covers (fun _ _ _ _ => True) net) start past net)
  let own := others client app.objects.length page.post.postId
  have agreeing : Agreeing own net watches := by
    refine agreeing.widen (fun watch old comment _ same => ?_)
      fun other post comment _ => ⟨app.objects.length + 1, by simp [own, others]⟩
    obtain ⟨rfl, list, -⟩ : watch.origin = client ∧ watch.list = app.objects.length ∧
        watch.post.postId = page.post.postId := by
      simpa using same
    obtain ⟨comments, held, -⟩ := (agreeing.holds watch old app running).list
    exact absurd list (Nat.ne_of_lt (lt_of_told? held))
  have loaded : Agreeing own opened (watches ++ [⟨client, ref, app.objects.length, page.post, []⟩]) := by
    obtain rfl := Option.some.inj appears
    exact agreeing.load running found
  have still := (TypedStore.sound_run lawful sound (.single appears)).1
  obtain ⟨kept, later, agrees, goes⟩ :=
    agreeing_run still loaded (run.mono fun ⟨taken, silent⟩ => ⟨taken, silent.covers _⟩)
  obtain ⟨records, represents⟩ := kept.store
  have decodes := decodes_of_represents represents
  obtain ⟨first, watch, last, seen, event, rfl, place, published, -, shows⟩ :=
    agrees.notify decodes (typed_unsent kept) (silent.covers _) notified
  -- the listener that the page opened is the one that was notified
  have mine : watch.opened = ⟨client, ref, app.objects.length, page.post, []⟩ := by
    obtain ⟨rest, same⟩ := goes
    have count : (watches.map Watch.opened).length = (first.map Watch.opened).length := by
      rw [List.length_map, List.length_map, place, agreeing.listeners, List.length_map]
    simp only [List.map_append, List.map_cons, List.map_nil, List.append_assoc,
      List.singleton_append] at same
    exact (List.cons.inj (List.append_inj same count).2).1.symm
  obtain rfl : watch.origin = client := congrArg Watch.origin mine
  obtain rfl : watch.page = ref := congrArg Watch.page mine
  have list : watch.list = app.objects.length := congrArg Watch.list mine
  have post : watch.post = page.post := congrArg Watch.post mine
  obtain ⟨comments, known, lists⟩ := shows now runs
  obtain ⟨shown, there, about, rfl⟩ := find?_page known
  refine ⟨shown, there, about.trans post, ?_⟩
  rw [← post]
  refine lists.eq (fun comment owned => owned (by rw [list, post])) fun id present => ?_
  exact mem_shown decodes succeeds current published present

/-- The page of the device lists both comments. -/
theorem comments_complete_commented : ∃ (opened final next : Network cloud App Bool Bool) (now : App)
    (later : CommentController),
    (reading Bool).event? AppAction.perform (.act true (.user (.commentViewDidLoad 0))) =
        some opened ∧
      Run (fun net event next => net.event? AppAction.perform event = some next) opened commented
        final ∧
      final.event? AppAction.perform (.signal (.notify 0 snapshot)) = some next ∧
      next.clients true = some now ∧ now.find? CommentController 0 = some later ∧
      later.comments.length = 2 ∧ ↑later.comments = commentsOn final.store.firestore "p" := by
  have completes : (replay? (fun net event => if (net.unsent id true).isEmpty then
        net.event? AppAction.perform event else none)
      ((reading Bool).launch id true (UserAction.commentViewDidLoad 0).perform) commented).any
      (fun final => decide (((final.unsent id true).isEmpty = true) ∧
        ((((final.event? AppAction.perform (.signal (.notify 0 snapshot))).bind fun next =>
          next.clients true).isSome = true) ∧ final.store.firestore.count (.comments "p") = 2))) =
      true := by
    decide +kernel
  obtain ⟨final, run, empty, told, both⟩ := exists_run_of_replay? completes
  obtain ⟨now, told⟩ := Option.isSome_iff_exists.mp told
  obtain ⟨next, taken, runs⟩ := Option.bind_eq_some_iff.mp told
  have silent {net : Network cloud App Bool Bool} (empty : (net.unsent id true).isEmpty = true) :
      Silent true "p" net := by
    rintro comment ⟨written, name, waits, -⟩
    rw [List.isEmpty_iff.mp empty] at waits
    cases waits
  have quiet := run.mono fun {net event next} taken =>
    show net.event? AppAction.perform event = some next ∧ Silent true "p" net by
      split_ifs at taken with empty
      exact ⟨taken, silent empty⟩
  have shown : phone.find? CommentController 0 =
      some { post := .ofDictionary ⟨0, 0⟩ "p" .empty } := rfl
  have succeeds : snapshot.succeeds = true := rfl
  obtain ⟨later, found, -, lists⟩ := comments_complete (fresh_reading Bool) (.nil _) rfl shown rfl
    quiet (silent empty) succeeds rfl taken runs
  refine ⟨_, final, next, now, later, rfl, quiet.mono And.left, taken, runs, found, ?_, lists⟩
  rw [← both, Firestore.count, ← Multiset.coe_card, lists, commentsOn, Multiset.card_map]
  rfl

end Runs

end CommentAgreement

end InstagramClone
