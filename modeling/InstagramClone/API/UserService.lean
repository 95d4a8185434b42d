import InstagramClone.API.ImageUploaderService

/-! # UserService -/

namespace InstagramClone.UserService

open Async

variable {σ : Type} [Device σ]

def fetchUser (uid : Uid) (completion : User → Code σ) : Code σ :=
  Code.call (.getDocument (.user uid)) fun
    | .ok (some data) => completion (User.ofDictionary data)
    | _ => .done

def fetchUsers (completion : List User → Code σ) : Code σ :=
  Code.call (.getDocuments { collection := .users }) fun
    | .ok documents => completion (documents.map fun document => User.ofDictionary document.data)
    | .error _ => .done

def follow (uid : Uid) (completion : Option BackendError → Code σ) : Code σ :=
  Code.withCurrentUser fun currentUid =>
    Code.call (.setData (.following currentUid uid) .empty) fun _ =>
      Code.call (.setData (.follower uid currentUid) .empty) completion

def unFollow (uid : Uid) (completion : Option BackendError → Code σ) : Code σ :=
  Code.withCurrentUser fun currentId =>
    Code.call (.delete (.following currentId uid)) fun _ =>
      Code.call (.delete (.follower uid currentId)) completion

/-- The follower's document is written at once, the other when that is acknowledged. -/
theorem run_follow {state : σ} {currentUid : Uid}
    (signedIn : Device.currentUser state = some currentUid) (uid : Uid)
    (completion : Option BackendError → Code σ) : (follow uid completion).run state =
      ⟨some state, [⟨.setData (.following currentUid uid) .empty, fun _ =>
        Code.call (.setData (.follower uid currentUid) .empty) completion⟩], []⟩ := by
  rw [follow, Code.run_withCurrentUser signedIn]
  rfl

theorem run_unFollow {state : σ} {currentId : Uid}
    (signedIn : Device.currentUser state = some currentId) (uid : Uid)
    (completion : Option BackendError → Code σ) : (unFollow uid completion).run state =
      ⟨some state, [⟨.delete (.following currentId uid), fun _ =>
        Code.call (.delete (.follower uid currentId)) completion⟩], []⟩ := by
  rw [unFollow, Code.run_withCurrentUser signedIn]
  rfl

def isUserFollowed (uid : Uid) (completion : Bool → Code σ) : Code σ :=
  Code.withCurrentUser fun currentId =>
    Code.call (.getDocument (.following currentId uid)) fun
      | .ok snapshot => completion snapshot.isSome
      | .error _ => .done

/-- `snapshot?.documents.count ?? 0` -/
def count : Except BackendError (List Document) → ℕ
  | .ok documents => documents.length
  | .error _ => 0

def fetchUserStats (uid : Uid) (completion : UserStats → Code σ) : Code σ :=
  Code.call (.getDocuments { collection := .userFollowers uid }) fun followers =>
    Code.call (.getDocuments { collection := .userFollowing uid }) fun following =>
      Code.call (.getDocuments
          { collection := .posts, whereField := some ("ownerUid", .string uid) }) fun posts =>
        completion ⟨count followers, count following, count posts⟩

def updateProfileImage (user : User) (image : UIImage)
    (completion : Option String → Option BackendError → Code σ) : Code σ :=
  Code.withCurrentUser fun uid =>
    -- `Storage.storage().reference(forURL:)` is a fatal error on any other URL
    .seq (if isStorageURL user.profileImage then .post (.deleteObject user.profileImage) else .trap) <|
    ImageUploaderService.uploadImage image fun profileImageUrl =>
      Code.call (.updateData (.user uid) (.ofList [("profileImage", .string profileImageUrl)])) fun
        | some error => completion none (some error)
        | none =>
          .seq
            (Code.call (.getDocuments
                { collection := .posts, whereField := some ("ownerUid", .string user.uid) }) fun
              | .ok documents => .forEach documents fun document =>
                  .post (.updateData (.post document.documentID)
                    (.ofList [("ownerProfileImage", .string profileImageUrl)]))
              | .error _ => .done)
            (completion (some profileImageUrl) none)

/-- The data of a user's document. -/
def data (email fullname profileImage : String) (uid : Uid) (username : String) : Dictionary :=
  .ofList
    [("email", .string email), ("fullname", .string fullname),
     ("profileImage", .string profileImage), ("uid", .string uid), ("username", .string username)]

def saveUserData (user : User) (completion : Option BackendError → Code σ) : Code σ :=
  Code.withCurrentUser fun uid =>
    Code.call (.setData (.user uid)
      (data user.email user.fullname user.profileImage uid user.username)) completion

end InstagramClone.UserService
