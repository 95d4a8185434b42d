import InstagramClone.API.ImageUploaderService
import InstagramClone.Model.App

/-! # PostService -/

namespace InstagramClone.PostService

open Async

variable {σ : Type} [Device σ]

/-- The data of a new post. -/
def data (caption : String) (timestamp : Timestamp) (imageUrl : String) (uid : Uid) (user : User) :
    Dictionary :=
  .ofList
    [("caption", .string caption), ("timestamp", .timestamp timestamp), ("likes", .int 0),
     ("imageUrl", .string imageUrl), ("ownerUid", .string uid),
     ("ownerUsername", .string user.username), ("ownerProfileImage", .string user.profileImage)]

def postAnImage (caption : String) (image : UIImage) (user : User)
    (completion : Option BackendError → Code σ) : Code σ :=
  Code.withCurrentUser fun uid =>
    ImageUploaderService.uploadImage image fun imageUrl =>
      Code.withTimestamp fun timestamp =>
        Code.call (.addDocument .posts fun _ => data caption timestamp imageUrl uid user) completion

/-- `Post(postId: $0.documentID, dictionary: $0.data())` for every document. -/
def decode (now : Timestamp) (documents : List Document) : List Post :=
  documents.map fun document => Post.ofDictionary now document.documentID document.data

def fetchPosts (completion : List Post → Code σ) : Code σ :=
  Code.call (.getDocuments { collection := .posts, orderBy := some "timestamp" }) fun
    | .error _ => .done
    | .ok documents => Code.withTimestamp fun now => completion (decode now documents)

/-- The posts of one user, as `whereField("ownerUid", isEqualTo: uid)` selects them. -/
def ownedBy (uid : Uid) : Query :=
  { collection := .posts, whereField := some ("ownerUid", .string uid) }

/-- The stored post names this account as its owner. -/
def OwnedBy (store : Firestore) (owner : Uid) (post : PostId) : Prop :=
  (store.lookup (.post post)).bind (fun data => data "ownerUid") = some (.string owner)

instance (store : Firestore) (owner : Uid) (post : PostId) : Decidable (OwnedBy store owner post) :=
  inferInstanceAs (Decidable
    ((store.lookup (.post post)).bind (fun data => data "ownerUid") = some (.string owner)))

theorem OwnedBy.mem {store : Firestore} {owner : Uid} {post : PostId}
    (owned : OwnedBy store owner post) : .post post ∈ store := by
  cases stored : store.lookup (.post post) with
  | none => simp [OwnedBy, stored] at owned
  | some data => exact Finmap.mem_of_lookup_eq_some stored

theorem OwnedBy.unique {store : Firestore} {first second : Uid} {post : PostId}
    (one : OwnedBy store first post) (other : OwnedBy store second post) : first = second := by
  have same := one.symm.trans other
  simpa using same

/-- A query for the posts of an account answers with the posts it owns. -/
theorem mem_answer_ownedBy {store : Cloud} {owner : Uid} {documents : List Document}
    (answers : Request.Answers store (.getDocuments (ownedBy owner)) (.ok documents))
    (post : PostId) :
    post ∈ documents.map Document.documentID ↔ OwnedBy store.firestore owner post := by
  obtain ⟨listed, same, members⟩ := answers
  obtain rfl := Except.ok.inj same
  rw [List.mem_map]
  constructor
  · rintro ⟨document, member, rfl⟩
    obtain ⟨reference, ⟨parent, owned, -⟩, -, id⟩ := (members document).mp member
    have path : reference = .post document.documentID := by
      rw [← id, ← reference.parent_document, parent]
      rfl
    rw [path] at owned
    exact owned _ rfl
  · intro owned
    cases stored : store.firestore.lookup (.post post) with
    | none => simp [OwnedBy, stored] at owned
    | some data =>
      refine ⟨⟨post, data⟩, (members _).mpr ⟨.post post, ⟨rfl, ?_, ?_⟩, stored, rfl⟩, rfl⟩
      · rintro filter ⟨⟩
        exact owned
      · rintro field ⟨⟩

def fetchPostsForUser (uid : Uid) (completion : List Post → Code σ) : Code σ :=
  Code.call (.getDocuments (ownedBy uid)) fun
    | .error _ => .done
    | .ok documents => Code.withTimestamp fun now =>
        -- the client compares whole seconds only
        completion ((decode now documents).mergeSort fun first second =>
          first.timestamp.seconds ≥ second.timestamp.seconds)

def fetchPost (postId : PostId) (completion : Post → Code σ) : Code σ :=
  Code.call (.getDocument (.post postId)) fun
    | .ok (some data) => Code.withTimestamp fun now =>
        completion (Post.ofDictionary now postId data)
    | _ => .done

def likePost (post : Post) (completion : Option BackendError → Code σ) : Code σ :=
  Code.withCurrentUser fun uid =>
    .seq (.post (.updateData (.post post.postId) (.ofList [("likes", .int (post.likes + 1))]))) <|
    Code.call (.setData (.postLike post.postId uid) .empty) fun _ =>
      Code.call (.setData (.userLike uid post.postId) .empty) completion

def unlikePost (post : Post) (completion : Option BackendError → Code σ) : Code σ :=
  Code.withCurrentUser fun uid =>
    if post.likes > 0 then
      .seq (.post (.updateData (.post post.postId) (.ofList [("likes", .int (post.likes - 1))]))) <|
      Code.call (.delete (.postLike post.postId uid)) fun _ =>
        Code.call (.delete (.userLike uid post.postId)) completion
    else .done

/-- The counter and the post's document are written at once, the user's after the latter. -/
theorem run_likePost {state : σ} {uid : Uid} (signedIn : Device.currentUser state = some uid)
    (post : Post) (completion : Option BackendError → Code σ) :
    (likePost post completion).run state =
      ⟨some state,
        [⟨.updateData (.post post.postId) (.ofList [("likes", .int (post.likes + 1))]),
            fun _ => .done⟩,
          ⟨.setData (.postLike post.postId uid) .empty, fun _ =>
            Code.call (.setData (.userLike uid post.postId) .empty) completion⟩], []⟩ := by
  rw [likePost, Code.run_withCurrentUser signedIn]
  rfl

theorem run_unlikePost {state : σ} {uid : Uid} (signedIn : Device.currentUser state = some uid)
    {post : Post} (liked : post.likes > 0) (completion : Option BackendError → Code σ) :
    (unlikePost post completion).run state =
      ⟨some state,
        [⟨.updateData (.post post.postId) (.ofList [("likes", .int (post.likes - 1))]),
            fun _ => .done⟩,
          ⟨.delete (.postLike post.postId uid), fun _ =>
            Code.call (.delete (.userLike uid post.postId)) completion⟩], []⟩ := by
  rw [unlikePost, Code.run_withCurrentUser signedIn, if_pos liked]
  rfl

def isUserLikedPost (post : Post) (completion : Bool → Code σ) : Code σ :=
  Code.withCurrentUser fun uid =>
    Code.call (.getDocument (.userLike uid post.postId)) fun
      | .ok snapshot => completion snapshot.isSome
      | .error _ => .done

def updateUserFeed (user : User) : Code σ :=
  Code.withCurrentUser fun uid =>
    Code.call (.getDocuments (ownedBy user.uid)) fun
      | .error _ => .done
      | .ok documents => .forEach (documents.map Document.documentID) fun id =>
          .post (.setData (.userFeed uid id) .empty)

def removeUserFeed (user : User) : Code σ :=
  Code.withCurrentUser fun uid =>
    Code.call (.getDocuments (ownedBy user.uid)) fun
      -- `snapshot!.documents`
      | .error _ => .trap
      | .ok documents => .forEach documents fun document =>
          .post (.delete (.userFeed uid document.documentID))

/-- Each post that arrives is appended to the one captured list, and the whole list delivered. -/
def fetchFeedPosts (completion : List Post → Code App) : Code App :=
  Code.withCurrentUser fun uid =>
    Code.alloc ([] : List Post) false fun posts =>
      Code.call (.getDocuments { collection := .userFeeds uid }) fun
        | .error _ => Code.withObject posts completion
        | .ok documents =>
          .seq (if documents.isEmpty then Code.withObject posts completion else .done) <|
          .forEach documents fun document =>
            fetchPost document.documentID fun post =>
              .seq (Code.modify posts fun list : List Post => list ++ [post]) <|
              Code.withObject posts completion

end InstagramClone.PostService
