import InstagramClone.API.AuthService
import InstagramClone.API.CommentService
import InstagramClone.API.NotificationService
import InstagramClone.API.PostService
import InstagramClone.Discipline.Preservation

/-! # Records survive storage

Each of the six services that create records writes one dictionary, and the decoders read it by the
same keys, one apart: a comment's post owner is written as `postOwnerId` and read as `postOwnerUid`.
A user is stored under the signed-in account, whatever uid the user has.
-/

namespace InstagramClone

open Async

/-- A decoded document. -/
inductive Record where
  | user (user : User)
  | post (post : Post)
  | comment (comment : Comment)
  | notification (notification : Notification)
deriving DecidableEq, Repr

/-- A call of a service that creates a record, with all that it is given. -/
inductive Writer where
  | registerUser (credential : AuthCredentials)
  | registerGoogleUser (credential : AuthCredential)
  | saveUserData (user : User)
  | postAnImage (caption : String) (image : UIImage) (user : User)
  | uploadComment (comment : String) (post : Post) (user : User)
  | addNotification (uid : Uid) (fromUser : User) (type : NotificationType) (post : Option Post)

/-- What the device and the backend give a writer: the account signed in, the URL of the uploaded
image, the clock, the new document's id, and the profile of the Google sign-in. -/
structure Supply where
  uid : Uid
  imageUrl : String
  timestamp : Timestamp
  documentID : String
  profile : GoogleProfile

namespace Writer

/-- The call, with what the app does when it completes. -/
def code (completion : Option BackendError → Code App) : Writer → Code App
  | registerUser credential => AuthService.registerUser credential completion
  | registerGoogleUser credential => AuthService.registerGoogleUser credential completion
  | saveUserData user => UserService.saveUserData user completion
  | postAnImage caption image user => PostService.postAnImage caption image user completion
  | uploadComment comment post user => CommentService.uploadComment comment post user completion
  | addNotification uid fromUser type post =>
    NotificationService.addNotification uid fromUser type post

/-- The dictionary it writes. -/
def data (supply : Supply) : Writer → Dictionary
  | registerUser credential =>
    UserService.data credential.email credential.fullname supply.imageUrl supply.uid
      credential.username
  | registerGoogleUser _ =>
    UserService.data supply.profile.email supply.profile.name (supply.profile.imageURL.getD "")
      supply.uid ((extractUsername supply.profile.email).getD supply.profile.email)
  | saveUserData user =>
    UserService.data user.email user.fullname user.profileImage supply.uid user.username
  | postAnImage caption _ user =>
    PostService.data caption supply.timestamp supply.imageUrl supply.uid user
  | uploadComment comment post user => CommentService.data comment post user supply.timestamp
  | addNotification _ fromUser type post =>
    NotificationService.data fromUser type post supply.timestamp supply.documentID

/-- The record that the app decodes from such a document. -/
def decode (now : Timestamp) (documentID : String) (dictionary : Dictionary) : Writer → Record
  | registerUser _ | registerGoogleUser _ | saveUserData _ => .user (.ofDictionary dictionary)
  | postAnImage .. => .post (.ofDictionary now documentID dictionary)
  | uploadComment .. => .comment (.ofDictionary now dictionary)
  | addNotification .. => .notification (.ofDictionary now dictionary)

/-- The record it was given; what it was not given has the decoder's default. -/
def record (supply : Supply) : Writer → Record
  | registerUser credential => .user
    { email := credential.email
      fullname := credential.fullname
      profileImage := supply.imageUrl
      username := credential.username
      uid := supply.uid }
  | registerGoogleUser _ => .user
    { email := supply.profile.email
      fullname := supply.profile.name
      profileImage := supply.profile.imageURL.getD ""
      username := (extractUsername supply.profile.email).getD supply.profile.email
      uid := supply.uid }
  -- counts and `isFollowed` are not stored with a user
  | saveUserData user => .user { user with stats := ⟨0, 0, 0⟩, isFollowed := false }
  | postAnImage caption _ user => .post
    { postId := supply.documentID
      caption
      imageUrl := supply.imageUrl
      likes := 0
      ownerUid := supply.uid
      ownerUsername := user.username
      ownerProfileImage := user.profileImage
      timestamp := supply.timestamp }
  | uploadComment comment post user => .comment
    { uid := user.uid
      username := user.username
      profileImage := user.profileImage
      comment
      postOwnerUid := post.ownerUid
      timestamp := supply.timestamp }
  | addNotification _ fromUser type post => .notification
    { id := supply.documentID
      uid := fromUser.uid
      profileImage := some fromUser.profileImage
      username := fromUser.username
      postId := some ((post.map Post.postId).getD "")
      postImage := some ((post.map Post.imageUrl).getD "")
      type
      timestamp := supply.timestamp
      userIsFollowed := false }

/-- Decoding gives back all that the writer was given, and a decoded user that is saved again under
the same account leaves the document as it is. -/
def Survives (supply : Supply) (writer : Writer) : Prop :=
  (∀ now, writer.decode now supply.documentID (writer.data supply) = writer.record supply) ∧
    ∀ now user, writer.decode now supply.documentID (writer.data supply) = .user user →
      (saveUserData user).data supply = writer.data supply

/-- No comment is on a post that names its owner, and users save themselves. -/
def Kept (supply : Supply) : Writer → Prop
  | saveUserData user => user.uid = supply.uid
  | uploadComment _ post _ => post.ownerUid = ""
  | _ => True

/-- The request creates or replaces no document, or writes this writer's dictionary. -/
def Writes (writer : Writer) : Request → Prop
  | .setData _ written => ∃ supply, written = writer.data supply
  | .addDocument _ written => ∃ supply : Supply,
      ∀ documentID, written documentID = writer.data { supply with documentID }
  | request => request.writes = false

/-- Whatever is answered, the call writes the writer's dictionary and nothing else. -/
theorem code_writes (writer : Writer) :
    (writer.code fun _ => .done).Preserves writer.Writes fun _ => True := by
  have supply : Supply := ⟨"", "", ⟨0, 0⟩, "", ⟨"", "", none⟩⟩
  cases writer with
  | registerUser credential =>
    unfold code
    dsimp only
    unfold AuthService.registerUser
    split
    · refine ImageUploaderService.preserves_uploadImage (fun _ => rfl) (fun _ => rfl) fun imageUrl =>
        Code.preserves_call rfl fun answer => ?_
      cases answer with
      | error => trivial
      | ok uid =>
        refine ⟨fun _ => id, Code.preserves_call ?_ fun _ => trivial⟩
        exact ⟨{ supply with uid, imageUrl }, rfl⟩
    · trivial
  | registerGoogleUser credential =>
    refine ⟨fun _ => id, Code.preserves_call rfl fun answer => ?_⟩
    cases answer with
    | error => trivial
    | ok uid =>
      refine ⟨fun _ => id, fun app => ?_⟩
      dsimp only
      split
      · trivial
      · next profile _ =>
        refine Code.preserves_call ?_ fun _ => trivial
        exact ⟨{ supply with uid, profile }, rfl⟩
  | saveUserData user =>
    refine Code.preserves_withCurrentUser fun uid => Code.preserves_call ?_ fun _ => trivial
    exact ⟨{ supply with uid }, rfl⟩
  | postAnImage caption image user =>
    refine Code.preserves_withCurrentUser fun uid => ImageUploaderService.preserves_uploadImage
      (fun _ => rfl) (fun _ => rfl) fun imageUrl => Code.preserves_withTimestamp fun timestamp => ?_
    refine Code.preserves_call ?_ fun _ => trivial
    exact ⟨{ supply with uid, imageUrl, timestamp }, fun _ => rfl⟩
  | uploadComment comment post user =>
    unfold code
    refine Code.preserves_withTimestamp fun timestamp => ?_
    refine Code.preserves_call ?_ fun _ => trivial
    exact ⟨{ supply with timestamp }, fun _ => rfl⟩
  | addNotification uid fromUser type post =>
    refine Code.preserves_withCurrentUser fun current => ?_
    split_ifs
    · trivial
    · refine Code.preserves_withTimestamp fun timestamp => Code.preserves_post ?_
      exact ⟨{ supply with timestamp }, fun _ => rfl⟩

end Writer

/-- A stored user decodes to the fields it was stored with. -/
theorem UserService.ofDictionary_data (email fullname profileImage : String) (uid : Uid)
    (username : String) :
    User.ofDictionary (data email fullname profileImage uid username) =
      { email, fullname, profileImage, username, uid } := by
  simp [User.ofDictionary, data, Dictionary.ofList, Dictionary.string, List.lookup_cons]

private theorem PostService.ofDictionary_data (now timestamp : Timestamp) (postId : PostId)
    (caption imageUrl : String) (uid : Uid) (user : User) :
    Post.ofDictionary now postId (data caption timestamp imageUrl uid user) =
      { postId, caption, imageUrl, likes := 0, ownerUid := uid, ownerUsername := user.username,
        ownerProfileImage := user.profileImage, timestamp } := by
  simp [Post.ofDictionary, data, Dictionary.ofList, Dictionary.string, Dictionary.int,
    Dictionary.timestamp, List.lookup_cons]

/-- A stored comment has lost the owner of its post. -/
private theorem CommentService.ofDictionary_data (now timestamp : Timestamp) (comment : String)
    (post : Post) (user : User) :
    Comment.ofDictionary now (data comment post user timestamp) =
      { uid := user.uid, username := user.username, profileImage := user.profileImage, comment,
        postOwnerUid := "", timestamp } := by
  simp [Comment.ofDictionary, data, Dictionary.ofList, Dictionary.string,
    Dictionary.timestamp, List.lookup_cons]

private theorem NotificationService.ofDictionary_data (now timestamp : Timestamp) (fromUser : User)
    (type : NotificationType) (post : Option Post) (documentID : String) :
    Notification.ofDictionary now (data fromUser type post timestamp documentID) =
      { id := documentID, uid := fromUser.uid, profileImage := some fromUser.profileImage,
        username := fromUser.username, postId := some ((post.map Post.postId).getD ""),
        postImage := some ((post.map Post.imageUrl).getD ""), type, timestamp,
        userIsFollowed := false } := by
  cases post <;> simp [Notification.ofDictionary, data, postFields, Dictionary.ofList,
    Dictionary.string, Dictionary.int, Dictionary.timestamp, List.lookup_cons]

namespace Writer

/-- Every record survives storage but a comment on a post that names its owner, and a user who is
saved under another's account. -/
theorem survives_iff (supply : Supply) (writer : Writer) :
    writer.Survives supply ↔ writer.Kept supply := by
  cases writer with
  | registerUser credential =>
    refine ⟨fun _ => trivial, fun _ => ⟨fun _ => ?_, fun _ user decoded => ?_⟩⟩
    · exact congrArg Record.user (UserService.ofDictionary_data ..)
    · obtain rfl := Record.user.inj decoded
      simp only [data, UserService.ofDictionary_data]
  | registerGoogleUser credential =>
    refine ⟨fun _ => trivial, fun _ => ⟨fun _ => ?_, fun _ user decoded => ?_⟩⟩
    · exact congrArg Record.user (UserService.ofDictionary_data ..)
    · obtain rfl := Record.user.inj decoded
      simp only [data, UserService.ofDictionary_data]
  | saveUserData given =>
    constructor
    · intro survives
      have decoded := Record.user.inj (survives.1 ⟨0, 0⟩)
      rw [data, UserService.ofDictionary_data] at decoded
      exact (congrArg User.uid decoded).symm
    · intro own
      refine ⟨fun _ => congrArg Record.user ?_, fun _ user decoded => ?_⟩
      · rw [data, UserService.ofDictionary_data, ← own]
      · obtain rfl := Record.user.inj decoded
        simp only [data, UserService.ofDictionary_data]
  | postAnImage caption image user =>
    refine ⟨fun _ => trivial, fun _ => ⟨fun _ => ?_, nofun⟩⟩
    exact congrArg Record.post (PostService.ofDictionary_data ..)
  | uploadComment comment post user =>
    constructor
    · intro survives
      have decoded := Record.comment.inj (survives.1 ⟨0, 0⟩)
      rw [data, CommentService.ofDictionary_data] at decoded
      exact (congrArg Comment.postOwnerUid decoded).symm
    · intro unnamed
      refine ⟨fun _ => congrArg Record.comment ?_, nofun⟩
      rw [data, CommentService.ofDictionary_data]
      exact congrArg (Comment.mk _ _ _ _ · _) unnamed.symm
  | addNotification uid fromUser type post =>
    refine ⟨fun _ => trivial, fun _ => ⟨fun _ => ?_, nofun⟩⟩
    exact congrArg Record.notification (NotificationService.ofDictionary_data ..)

/-- A comment on a post of `v` decodes to one on a post of nobody. -/
theorem not_survives : ¬ ∀ (supply : Supply) (writer : Writer), writer.Survives supply := by
  intro claim
  let user : User := { email := "", fullname := "", profileImage := "", username := "u", uid := "u" }
  let post : Post := ⟨"p", "", "", 0, "v", "v", "", ⟨0, 0⟩, false⟩
  have survives := claim ⟨"u", "", ⟨0, 0⟩, "c", ⟨"", "", none⟩⟩ (uploadComment "hi" post user)
  exact absurd (survives.1 ⟨0, 0⟩) (by decide)

end Writer

end InstagramClone
