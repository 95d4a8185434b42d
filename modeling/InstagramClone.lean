import InstagramClone.Soundness.Atomicity
import InstagramClone.Soundness.FeedAgreement
import InstagramClone.Soundness.FollowEdges
import InstagramClone.Soundness.LikeMirror
import InstagramClone.Soundness.ReferentialIntegrity
import InstagramClone.Soundness.WriteOwnership
import InstagramClone.Soundness.LikesBound
import InstagramClone.Soundness.Attribution
import InstagramClone.Async.Log
import InstagramClone.Soundness.NotifiedEvents
import InstagramClone.Async.Settlement
import InstagramClone.Soundness.FailedActions
import InstagramClone.Async.Completion
import InstagramClone.Soundness.Registration
import InstagramClone.Soundness.ProfileEdits
import InstagramClone.Async.Hazard
import InstagramClone.Soundness.StoredImages
import InstagramClone.Async.Custody
import InstagramClone.Soundness.ImagePresence
import InstagramClone.Soundness.FollowPaths
import InstagramClone.Async.Pursuit
import InstagramClone.Discipline.Preservation
import InstagramClone.Soundness.PostImages
import InstagramClone.Discipline.Indifference
import InstagramClone.Soundness.LikedOnce
import InstagramClone.Soundness.StoredRecords
import InstagramClone.Soundness.CommentLists
import InstagramClone.Async.Errand
import InstagramClone.Soundness.CommittedEdits
import InstagramClone.Async.Passage
import InstagramClone.Soundness.LikesUndone
import InstagramClone.Async.Work
import InstagramClone.Soundness.FollowRows
import InstagramClone.Async.Flags
import InstagramClone.Soundness.NotificationLists
import InstagramClone.Soundness.FeedWork
import InstagramClone.Soundness.FeedConvergence
import InstagramClone.Soundness.FeedOrder
import InstagramClone.Soundness.LikeWork
import InstagramClone.Soundness.LikeTaps
import InstagramClone.Controller.UploadPostController
import InstagramClone.Soundness.CaptionLimit
import InstagramClone.Controller.AuthenticationForms
import InstagramClone.Soundness.ValidForms
import InstagramClone.Soundness.SearchResults
import InstagramClone.Soundness.PostListings
import InstagramClone.Soundness.SingleReports
import InstagramClone.Async.Quota
import InstagramClone.Soundness.SingleDocuments
import InstagramClone.Soundness.FollowWork
import InstagramClone.Soundness.FollowButton
import InstagramClone.Soundness.CellWork
import InstagramClone.Soundness.FeedCells
import InstagramClone.Soundness.TypedStore
import InstagramClone.Soundness.PageSubjects
import InstagramClone.Soundness.LastingDocuments
import InstagramClone.Soundness.Frames
import InstagramClone.Soundness.ProfileConvergence
import InstagramClone.Soundness.MadeDocuments
import InstagramClone.Soundness.FeedCost
import InstagramClone.Soundness.CrashFree
import InstagramClone.Soundness.CommentAgreement
