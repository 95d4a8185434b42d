import InstagramClone.API.AuthService
import InstagramClone.API.PostService
import InstagramClone.Async.Settlement

/-! # How often an operation reports back

Most failures on the way are only printed, and a like ignores two of its three answers. An operation
calls its completion exactly once, with an error just when a required step failed, exactly if it has
what it starts with and no step fails unless the last one does.
-/

namespace InstagramClone

open Async

/-- A client that notes what the completion of an operation receives. -/
structure Reporter where
  currentUser : Option Uid
  now : Timestamp := ⟨0, 0⟩
  googleProfile : Option GoogleProfile := none
  reports : List (Option BackendError) := []

instance : Device Reporter where
  currentUser := Reporter.currentUser
  setCurrentUser uid reporter := { reporter with currentUser := uid }
  now := Reporter.now
  googleProfile := Reporter.googleProfile

/-- The operations that take a completion for an error. -/
inductive Operation where
  | registerUser (credential : AuthCredentials)
  | registerGoogleUser (credential : AuthCredential)
  | postAnImage (caption : String) (image : UIImage) (user : User)
  | updateProfileImage (user : User) (image : UIImage)
  | likePost (post : Post)
  | unlikePost (post : Post)

namespace Operation

def report (error : Option BackendError) : Code Reporter :=
  .update (fun reporter => { reporter with reports := reporter.reports ++ [error] }) .done

def perform : Operation → Code Reporter
  | registerUser credential => AuthService.registerUser credential report
  | registerGoogleUser credential => AuthService.registerGoogleUser credential report
  | postAnImage caption image user => PostService.postAnImage caption image user report
  | updateProfileImage user image =>
    UserService.updateProfileImage user image fun _ error => report error
  | likePost post => PostService.likePost post report
  | unlikePost post => PostService.unlikePost post report

/-- The image that the operation encodes. -/
def image? : Operation → Option UIImage
  | registerUser credential => credential.profileImage
  | postAnImage _ image _ | updateProfileImage _ image => some image
  | registerGoogleUser _ | likePost _ | unlikePost _ => none

/-- The request is a required step of the operation. -/
def asks : Operation → Request → Bool
  | registerUser _, .putData _ | registerUser _, .downloadURL _ | registerUser _, .createUser ..
  | registerUser _, .setData (.user _) _
  | registerGoogleUser _, .signInWith _ | registerGoogleUser _, .setData (.user _) _
  | postAnImage .., .putData _ | postAnImage .., .downloadURL _
  | postAnImage .., .addDocument .posts _
  | updateProfileImage .., .putData _ | updateProfileImage .., .downloadURL _
  | updateProfileImage .., .updateData (.user _) _
  | likePost _, .updateData (.post _) _ | likePost _, .setData (.postLike ..) _
  | likePost _, .setData (.userLike ..) _
  | unlikePost _, .updateData (.post _) _ | unlikePost _, .delete (.postLike ..)
  | unlikePost _, .delete (.userLike ..) => true
  | _, _ => false

/-- The request is the last step, whose answer the completion receives. -/
def last : Operation → Request → Bool
  | registerUser _, .setData (.user _) _ | registerGoogleUser _, .setData (.user _) _
  | postAnImage .., .addDocument .posts _ | updateProfileImage .., .updateData (.user _) _
  | likePost _, .setData (.userLike ..) _ | unlikePost _, .delete (.userLike ..) => true
  | _, _ => false

/-- Such a request was answered with an error. -/
def Fails (asks : Request → Bool) (served : List (Served firebase)) : Prop :=
  ∃ entry ∈ served, asks entry.request = true ∧ entry.succeeded = false

/-- A required step failed. -/
def Failed (operation : Operation) (served : List (Served firebase)) : Prop :=
  (∃ image ∈ operation.image?, image.jpegData = none) ∨ Fails operation.asks served

/-- A user is signed in, or the operation signs one in. -/
def Callable (operation : Operation) (state : Reporter) : Prop :=
  match operation with
  | registerUser _ | registerGoogleUser _ => True
  | _ => state.currentUser.isSome

/-- The operation has what it starts with. -/
def Ready (operation : Operation) (state : Reporter) : Prop :=
  (∀ image ∈ operation.image?, image.jpegData.isSome) ∧
    match operation with
    | registerUser credential => credential.password.isSome ∧ credential.profileImage.isSome
    | registerGoogleUser _ => state.googleProfile.isSome
    | updateProfileImage user _ => isStorageURL user.profileImage
    | unlikePost post => post.likes > 0
    | postAnImage .. | likePost _ => True

/-- What has become of the client when all answers are in, or it trapped. -/
def Ends (operation : Operation) (state : Reporter) (served : List (Served firebase))
    (final : Option Reporter) : Prop :=
  Settles Request.succeeded (operation.perform.run state).calls (operation.perform.run state).state
    served final

/-- The completion was called once, with an error just when a required step failed. -/
def ReportsOnce (operation : Operation) (state : Reporter) (served : List (Served firebase))
    (final : Option Reporter) : Prop :=
  ∃ settled error, final = some settled ∧ settled.reports = state.reports ++ [error] ∧
    (error.isSome = true ↔ operation.Failed served)

/-- The operation starts, and no required step fails unless the last one does. -/
def FailsLast (operation : Operation) (state : Reporter) (served : List (Served firebase)) : Prop :=
  operation.Ready state ∧ (Fails operation.asks served → Fails operation.last served)

end Operation

namespace SingleReports

open Operation

variable {operation : Operation} {state started : Reporter} {final : Option Reporter}
  {served : List (Served firebase)} {asks : Request → Bool} {entry : Served firebase}

section Outcomes

/-- The last step was answered, and its answer reported. -/
structure Reported (operation : Operation) (state : Reporter) (served : List (Served firebase))
    (final : Option Reporter) : Prop where
  ready : operation.Ready state
  report : ∃ settled, ∃ error : Option BackendError, final = some settled ∧
    settled.reports = state.reports ++ [error] ∧ (error.isSome = true ↔ Fails operation.last served)

/-- The operation went no further after a failure, or did not start. -/
structure Silent (operation : Operation) (state : Reporter) (served : List (Served firebase))
    (final : Option Reporter) : Prop where
  reports : ∀ settled ∈ final, settled.reports = state.reports
  stops : operation.Ready state → Fails operation.asks served ∧ ¬ Fails operation.last served

private theorem asks_of_last {request : Request} (ends : operation.last request = true) :
    operation.asks request = true := by
  unfold Operation.last at ends
  split at ends
  all_goals first | rfl | cases ends

private theorem fails_asks (fails : Fails operation.last served) : Fails operation.asks served := by
  obtain ⟨entry, member, last, failed⟩ := fails
  exact ⟨entry, member, asks_of_last last, failed⟩

/-- An operation that is ready fails by its requests alone. -/
private theorem failed_iff (ready : operation.Ready state) :
    operation.Failed served ↔ Fails operation.asks served := by
  refine or_iff_right ?_
  rintro ⟨image, member, encoded⟩
  have present := ready.1 image member
  simp [encoded] at present

private theorem Reported.once_iff (reported : Reported operation state served final) :
    operation.ReportsOnce state served final ↔ operation.FailsLast state served := by
  obtain ⟨settled, error, rfl, reports, outcome⟩ := reported.report
  constructor
  · rintro ⟨_, other, ⟨⟩, also, right⟩
    rw [reports, List.append_right_inj, List.cons.injEq] at also
    obtain rfl := also.1
    rw [failed_iff reported.ready, outcome] at right
    exact ⟨reported.ready, right.mpr⟩
  · rintro ⟨ready, lasts⟩
    refine ⟨settled, error, rfl, reports, ?_⟩
    rw [failed_iff ready, outcome]
    exact ⟨fails_asks, lasts⟩

private theorem Silent.once_iff (silent : Silent operation state served final) :
    operation.ReportsOnce state served final ↔ operation.FailsLast state served := by
  refine iff_of_false ?_ ?_
  · rintro ⟨settled, error, rfl, reports, -⟩
    simp [silent.reports settled rfl] at reports
  · rintro ⟨ready, lasts⟩
    obtain ⟨fails, not⟩ := silent.stops ready
    exact not (lasts fails)

private theorem not_fails_nil : ¬ Fails asks [] := by
  rintro ⟨entry, member, -⟩
  cases member

private theorem fails_cons : Fails asks (entry :: served) ↔
    asks entry.request = true ∧ entry.succeeded = false ∨ Fails asks served := by
  simp [Fails]

end Outcomes

section Steps

variable {image : UIImage} {upload : String → Code Reporter}

/-- The last step, whose answer the completion receives. -/
private theorem Reported.of_single {request : Request} {callback : request.Response → Code Reporter}
    (settles : Settles Request.succeeded [⟨request, callback⟩] (some started) served final)
    (ready : operation.Ready state) (same : started.reports = state.reports)
    (last : operation.last request = true)
    (reports : ∀ answer, ∃ error, callback answer = Operation.report error ∧
      error.isSome = !request.succeeded answer) :
    Reported operation state served final := by
  obtain ⟨answer, later, rest, rfl⟩ := settles.of_single
  obtain ⟨error, called, outcome⟩ := reports answer
  simp only [called, Operation.report, Program.run_update, Program.run_done] at rest
  obtain ⟨rfl, rfl⟩ := rest.of_nil
  refine ⟨ready, _, error, rfl, ?_, ?_⟩
  · simp only [same]
  · rw [fails_cons, outcome]
    simp [last, not_fails_nil]

/-- The completion is the handler of a write. -/
private theorem report_write (error : Option BackendError) : ∃ other,
    Operation.report error = Operation.report other ∧ other.isSome = !error.isNone := by
  refine ⟨error, rfl, ?_⟩
  cases error <;> rfl

/-- A step before the last, which went well. -/
private theorem Reported.cons {request : Request} (reported : Reported operation state served final)
    (asks : operation.last request = false) (succeeded : Bool) :
    Reported operation state (⟨request, succeeded⟩ :: served) final := by
  refine ⟨reported.ready, ?_⟩
  obtain ⟨settled, error, same, reports, outcome⟩ := reported.report
  refine ⟨settled, error, same, reports, outcome.trans ?_⟩
  simp [fails_cons, asks]

private theorem Silent.cons {request : Request} (silent : Silent operation state served final)
    (asks : operation.last request = false) (succeeded : Bool) :
    Silent operation state (⟨request, succeeded⟩ :: served) final := by
  refine ⟨silent.reports, fun ready => ?_⟩
  obtain ⟨fails, not⟩ := silent.stops ready
  refine ⟨fails_cons.mpr (.inr fails), ?_⟩
  simp [fails_cons, asks, not]

/-- An upload hands over its URL, or the operation stops at a failed step. -/
private theorem upload_settles (encodes : operation.image? = some image)
    (puts : ∀ data, operation.asks (.putData data) = true)
    (locates : ∀ object, operation.asks (.downloadURL object) = true)
    (early : (∀ data, operation.last (.putData data) = false) ∧
      ∀ object, operation.last (.downloadURL object) = false)
    (uploaded : ∀ url later, Settles Request.succeeded ((upload url).run state).calls
        ((upload url).run state).state later final → image.jpegData.isSome →
      Reported operation state later final ∨ Silent operation state later final)
    (settles : Settles Request.succeeded
      ((ImageUploaderService.uploadImage image upload).run state).calls
      ((ImageUploaderService.uploadImage image upload).run state).state served final) :
    Reported operation state served final ∨ Silent operation state served final := by
  obtain ⟨stopped, stays⟩ | ⟨data, ref, url, later, encoded, rfl, rest⟩ :=
    ImageUploaderService.settles_uploadImage settles
  · refine .inr ⟨fun settled same => by rw [stays settled same], fun ready => ?_⟩
    cases stopped with
    | unencoded unencoded =>
      have present := ready.1 image encodes
      simp [unencoded] at present
    | unstored data => simp [fails_cons, puts, early.1, not_fails_nil]
    | unlocated data ref => simp [fails_cons, locates, early.1, early.2, not_fails_nil]
  · have encodes : image.jpegData.isSome = true := by simp [encoded]
    obtain reported | silent := uploaded url later rest encodes
    · exact .inl ((reported.cons (early.2 ref) _).cons (early.1 data) _)
    · exact .inr ((silent.cons (early.2 ref) _).cons (early.1 data) _)

/-- A request beside the operation, which is no step of it. -/
private theorem Reported.beside {request : Request} {others : List (Served firebase)}
    (reported : Reported operation state others final) (asks : operation.last request = false)
    (inside : others ⊆ served) (split : ∀ entry ∈ served, entry.request = request ∨ entry ∈ others) :
    Reported operation state served final := by
  refine ⟨reported.ready, ?_⟩
  obtain ⟨settled, error, same, reports, outcome⟩ := reported.report
  refine ⟨settled, error, same, reports, outcome.trans ⟨?_, ?_⟩⟩
  · exact fun ⟨entry, member, fails⟩ => ⟨entry, inside member, fails⟩
  · rintro ⟨entry, member, last, failed⟩
    rcases split entry member with rfl | member
    · simp [asks] at last
    · exact ⟨entry, member, last, failed⟩

private theorem Silent.beside {request : Request} {others : List (Served firebase)}
    (silent : Silent operation state others final) (asks : operation.last request = false)
    (inside : others ⊆ served) (split : ∀ entry ∈ served, entry.request = request ∨ entry ∈ others) :
    Silent operation state served final := by
  refine ⟨silent.reports, fun ready => ?_⟩
  obtain ⟨⟨entry, member, fails⟩, not⟩ := silent.stops ready
  refine ⟨⟨entry, inside member, fails⟩, ?_⟩
  rintro ⟨entry, member, last, failed⟩
  rcases split entry member with rfl | member
  · simp [asks] at last
  · exact not ⟨entry, member, last, failed⟩

end Steps

section Operations

/-- An operation that asks for nothing reports nothing. -/
private theorem Silent.of_nil (settles : Settles Request.succeeded [] (some state) served final)
    (unready : ¬ operation.Ready state) : Silent operation state served final := by
  obtain ⟨rfl, rfl⟩ := settles.of_nil
  refine ⟨?_, fun ready => absurd ready unready⟩
  rintro _ ⟨⟩
  rfl

private theorem postAnImage_settles {caption : String} {image : UIImage} {user : User} {uid : Uid}
    (signedIn : state.currentUser = some uid)
    (ends : (postAnImage caption image user).Ends state served final) :
    Reported (.postAnImage caption image user) state served final ∨
      Silent (.postAnImage caption image user) state served final := by
  simp only [Ends, perform, PostService.postAnImage,
    Code.run_withCurrentUser (show Device.currentUser state = some uid from signedIn)] at ends
  refine upload_settles rfl (fun _ => rfl) (fun _ => rfl) ⟨fun _ => rfl, fun _ => rfl⟩ ?_ ends
  intro url later rest encodes
  simp only [Code.run_withTimestamp, Code.run_call] at rest
  refine .inl (.of_single rest ⟨?_, trivial⟩ rfl rfl report_write)
  rintro _ ⟨⟩
  exact encodes

private theorem registerUser_settles {credential : AuthCredentials}
    (ends : (registerUser credential).Ends state served final) :
    Reported (.registerUser credential) state served final ∨
      Silent (.registerUser credential) state served final := by
  obtain ⟨email, password, fullname, username, profileImage, profileImageUrl⟩ := credential
  cases password with
  | none => exact .inr (Silent.of_nil ends fun ready => by simpa using ready.2.1)
  | some password =>
    cases profileImage with
    | none => exact .inr (Silent.of_nil ends fun ready => by simpa using ready.2.2)
    | some image =>
      simp only [Ends, perform, AuthService.registerUser] at ends
      refine upload_settles rfl (fun _ => rfl) (fun _ => rfl) ⟨fun _ => rfl, fun _ => rfl⟩ ?_ ends
      intro url later rest encodes
      have ready : Operation.Ready (.registerUser ⟨email, some password, fullname, username,
          some image, profileImageUrl⟩) state := by
        refine ⟨?_, rfl, rfl⟩
        rintro _ ⟨⟩
        exact encodes
      rw [Code.run_call] at rest
      obtain ⟨answer, later, signed, rfl⟩ := rest.of_single
      cases answer with
      | error error =>
        obtain ⟨rfl, rfl⟩ := signed.of_nil
        refine .inr ⟨by simp, fun _ => ⟨⟨_, List.mem_cons_self .., rfl, rfl⟩, ?_⟩⟩
        simp [fails_cons, Operation.last, not_fails_nil]
      | ok uid =>
        change Settles Request.succeeded
          [(⟨.setData (.user uid) _, Operation.report⟩ : Call firebase Reporter)] (some _) _ _
          at signed
        exact .inl (Reported.cons (.of_single signed ready rfl rfl report_write) rfl _)

private theorem registerGoogleUser_settles {credential : AuthCredential}
    (ends : (registerGoogleUser credential).Ends state served final) :
    Reported (.registerGoogleUser credential) state served final ∨
      Silent (.registerGoogleUser credential) state served final := by
  obtain ⟨answer, later, rest, rfl⟩ := Settles.of_single ends
  cases answer with
  | error error =>
    obtain ⟨rfl, rfl⟩ := rest.of_nil
    refine .inr ⟨?_, fun _ => ⟨⟨_, List.mem_cons_self .., rfl, rfl⟩, ?_⟩⟩
    · rintro _ ⟨⟩
      rfl
    · simp [fails_cons, Operation.last, not_fails_nil]
  | ok uid =>
    obtain ⟨currentUser, now, googleProfile, reports⟩ := state
    cases googleProfile with
    | none =>
      obtain ⟨rfl, rfl⟩ := rest.of_nil
      refine .inr ⟨?_, fun ready => by simpa using ready.2⟩
      rintro _ ⟨⟩
      rfl
    | some profile =>
      have ready : Operation.Ready (.registerGoogleUser credential)
          ⟨currentUser, now, some profile, reports⟩ := ⟨nofun, rfl⟩
      change Settles Request.succeeded
        [(⟨.setData (.user uid) _, Operation.report⟩ : Call firebase Reporter)] (some _) _ _ at rest
      exact .inl (Reported.cons (.of_single rest ready rfl rfl report_write) rfl _)

/-- The update of the account's document, and of the posts after it. -/
private theorem update_settles {user : User} {image : UIImage} {uid : Uid} {url : String}
    {callback : Option BackendError → Code Reporter} {query : Query}
    {fanOut : Except BackendError (List Document) → Code Reporter} {write : Document → Request}
    (settles : Settles Request.succeeded [⟨Request.updateData (.user uid)
      (.ofList [("profileImage", .string url)]), callback⟩] (some state) served final)
    (ready : Operation.Ready (.updateProfileImage user image) state)
    (fails : ∀ error, callback (some error) = Operation.report (some error))
    (succeeds : callback none =
      .seq (Code.call (.getDocuments query) fanOut) (Operation.report none))
    (unlisted : ∀ error, fanOut (.error error) = .done)
    (listed : ∀ documents, fanOut (.ok documents) =
      .forEach documents fun document => .post (write document))
    (spares : ∀ document, Operation.last (.updateProfileImage user image) (write document) = false) :
    Reported (.updateProfileImage user image) state served final := by
  obtain ⟨answer, later, rest, rfl⟩ := settles.of_single
  cases answer with
  | some error =>
    simp only [fails] at rest
    obtain ⟨rfl, rfl⟩ := rest.of_nil
    refine ⟨ready, _, some error, rfl, rfl, ?_⟩
    simp [fails_cons, Operation.last, Request.succeeded]
  | none =>
    simp only [succeeds] at rest
    obtain ⟨answer, last, fanned, rfl⟩ := rest.of_single
    suffices final = some { state with reports := state.reports ++ [none] } ∧
        ¬ Fails (Operation.last (.updateProfileImage user image)) last by
      obtain ⟨rfl, spared⟩ := this
      refine ⟨ready, _, none, rfl, rfl, ?_⟩
      simp [fails_cons, Request.succeeded, spared, Operation.last]
    cases answer with
    | error error =>
      simp only [unlisted] at fanned
      obtain ⟨rfl, rfl⟩ := fanned.of_nil
      exact ⟨rfl, not_fails_nil⟩
    | ok documents =>
      simp only [listed, Program.run_forEach_post] at fanned
      obtain ⟨rfl, written⟩ := fanned.of_posts
      refine ⟨rfl, ?_⟩
      rintro ⟨entry, member, asked, -⟩
      obtain ⟨document, -, same⟩ := written entry member
      exact Bool.false_ne_true ((spares document).symm.trans (same ▸ asked))

private theorem updateProfileImage_settles {user : User} {image : UIImage} {uid : Uid}
    (signedIn : state.currentUser = some uid)
    (ends : (updateProfileImage user image).Ends state served final) :
    Reported (.updateProfileImage user image) state served final ∨
      Silent (.updateProfileImage user image) state served final := by
  have signedIn : Device.currentUser state = some uid := signedIn
  simp only [Ends, perform, UserService.updateProfileImage, Code.run_withCurrentUser signedIn] at ends
  split_ifs at ends with stored
  · simp only [Program.post_seq, Program.run_send] at ends
    obtain ⟨others, settles, inside, split⟩ := ends.drop_post (.refl _)
    suffices Reported (.updateProfileImage user image) state others final ∨
        Silent (.updateProfileImage user image) state others final from
      this.imp (fun reported => reported.beside rfl inside split)
        fun silent => silent.beside rfl inside split
    refine upload_settles rfl (fun _ => rfl) (fun _ => rfl) ⟨fun _ => rfl, fun _ => rfl⟩ ?_ settles
    intro url later rest encodes
    rw [Code.run_call] at rest
    refine .inl (update_settles rest ⟨?_, stored⟩ (fun _ => rfl) rfl (fun _ => rfl) (fun _ => rfl)
      fun _ => rfl)
    rintro _ ⟨⟩
    exact encodes
  · obtain ⟨rfl, rfl⟩ := ends.of_none
    exact .inr ⟨by simp, fun ready => absurd ready.2 stored⟩

/-- The two answers that a like or unlike waits for. -/
private theorem like_settles {first second : Request} {callback : second.Response → Code Reporter}
    (ready : operation.Ready state) (early : operation.last first = false)
    (last : operation.last second = true)
    (reports : ∀ answer, ∃ error, callback answer = Operation.report error ∧
      error.isSome = !second.succeeded answer)
    (settles : Settles Request.succeeded [⟨first, fun _ => Code.call second callback⟩] (some state)
      served final) : Reported operation state served final := by
  obtain ⟨answer, later, rest, rfl⟩ := settles.of_single
  exact (Reported.of_single rest ready rfl last reports).cons early _

private theorem likePost_settles {post : Post} {uid : Uid} (signedIn : state.currentUser = some uid)
    (ends : (likePost post).Ends state served final) : Reported (.likePost post) state served final := by
  have signedIn : Device.currentUser state = some uid := signedIn
  rw [Ends, perform, PostService.run_likePost signedIn] at ends
  obtain ⟨rest, settles, inside, split⟩ := ends.drop_post (.refl _)
  have ready : Operation.Ready (.likePost post) state := ⟨nofun, trivial⟩
  exact (like_settles ready rfl rfl report_write settles).beside rfl inside split

private theorem unlikePost_settles {post : Post} {uid : Uid} (signedIn : state.currentUser = some uid)
    (ends : (unlikePost post).Ends state served final) :
    Reported (.unlikePost post) state served final ∨
      Silent (.unlikePost post) state served final := by
  have signedIn : Device.currentUser state = some uid := signedIn
  by_cases liked : post.likes > 0
  · rw [Ends, perform, PostService.run_unlikePost signedIn liked] at ends
    obtain ⟨rest, settles, inside, split⟩ := ends.drop_post (.refl _)
    have ready : Operation.Ready (.unlikePost post) state := ⟨nofun, liked⟩
    exact .inl ((like_settles ready rfl rfl report_write settles).beside rfl inside split)
  · simp only [Ends, perform, PostService.unlikePost, Code.run_withCurrentUser signedIn, if_neg liked,
      Program.run_done] at ends
    exact .inr (Silent.of_nil ends fun ready => liked ready.2)

/-- Every operation reports or stops. -/
private theorem settles (callable : operation.Callable state)
    (ends : operation.Ends state served final) :
    Reported operation state served final ∨ Silent operation state served final := by
  cases operation with
  | registerUser credential => exact registerUser_settles ends
  | registerGoogleUser credential => exact registerGoogleUser_settles ends
  | postAnImage caption image user =>
    obtain ⟨uid, signedIn⟩ := Option.isSome_iff_exists.mp callable
    exact postAnImage_settles signedIn ends
  | updateProfileImage user image =>
    obtain ⟨uid, signedIn⟩ := Option.isSome_iff_exists.mp callable
    exact updateProfileImage_settles signedIn ends
  | likePost post =>
    obtain ⟨uid, signedIn⟩ := Option.isSome_iff_exists.mp callable
    exact .inl (likePost_settles signedIn ends)
  | unlikePost post =>
    obtain ⟨uid, signedIn⟩ := Option.isSome_iff_exists.mp callable
    exact unlikePost_settles signedIn ends

end Operations

/-- An operation reports exactly once, and rightly, just when it starts with what it needs and no
step but the last fails alone. -/
theorem reportsOnce_iff (callable : operation.Callable state)
    (ends : operation.Ends state served final) :
    operation.ReportsOnce state served final ↔ operation.FailsLast state served := by
  obtain reported | silent := settles callable ends
  · exact reported.once_iff
  · exact silent.once_iff

section Examples

/-- A post by a client that is signed in. -/
def share : Operation := .postAnImage "c" ⟨some [1]⟩ ⟨"", "", "", "", "u", ⟨0, 0, 0⟩, false⟩

def sharing : Reporter where
  currentUser := some "u"

/-- Uploads that make some progress, of which one stores the image. -/
def uploaded : Upload := ⟨[⟨1, 1⟩], .ok "object"⟩

def unstored : Upload := ⟨[⟨1, 1⟩], .error .permissionDenied⟩

end Examples

/-- A post whose document is not written: the completion receives the error, once. -/
theorem reportsOnce_unwritten : ∃ served final, share.Ends sharing served (some final) ∧
    share.ReportsOnce sharing served (some final) ∧ final.reports = [some .permissionDenied] := by
  obtain ⟨served, ends, fails⟩ : ∃ served, share.Ends sharing served
      (some { sharing with reports := [some .permissionDenied] }) ∧ Fails share.last served :=
    ⟨_, .one uploaded (.one (Except.ok "url") (.one (some BackendError.permissionDenied) (.idle _))),
      _, .tail _ (.tail _ (.head _)), rfl, rfl⟩
  have callable : share.Callable sharing := rfl
  refine ⟨served, _, ends, (reportsOnce_iff callable ends).mpr ⟨⟨?_, trivial⟩, fun _ => fails⟩, rfl⟩
  rintro _ ⟨⟩
  rfl

/-- A post whose image is not uploaded: the completion is never called. -/
theorem not_reportsOnce : ¬ ∀ (operation : Operation) state served final,
    operation.Callable state → operation.Ends state served final →
      operation.ReportsOnce state served final := by
  intro once
  obtain ⟨settled, error, same, reports, -⟩ := once share sharing _ _ rfl
    (.one unstored (.idle _))
  obtain rfl := Option.some.inj same
  simp [sharing] at reports

end SingleReports

end InstagramClone
