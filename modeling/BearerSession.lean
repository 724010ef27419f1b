import BearerSession.Http.Message
import BearerSession.Main
import BearerSession.Proofs.LoneCalls
import BearerSession.Proofs.RequestEnding
import BearerSession.Proofs.GateHistory
import BearerSession.Proofs.Interleaving
import BearerSession.Proofs.GateOrder
import BearerSession.Proofs.GateStage
import BearerSession.Proofs.GateInvariant
import BearerSession.Proofs.GateSchedule
import BearerSession.Proofs.SingleFlight
import BearerSession.Proofs.Calendar
import BearerSession.Proofs.TimestampText
import BearerSession.Proofs.JsonNumber
import BearerSession.Proofs.JsonText
import BearerSession.Proofs.EntryText
import BearerSession.Proofs.ExpiringMap
import BearerSession.Proofs.DiskReplace
import BearerSession.Proofs.StoreAgreement
import BearerSession.Proofs.Discipline
import BearerSession.Proofs.HeaderOverlay
import BearerSession.Proofs.RequestHistory
import BearerSession.Proofs.RequestInvariant
import BearerSession.Proofs.RequestSchedule
import BearerSession.Proofs.ConcurrentRequests
import BearerSession.Proofs.AuthCourse
import BearerSession.Proofs.JsonLayout
import BearerSession.Proofs.RecordReading
import BearerSession.Proofs.JarText
import BearerSession.Proofs.DiskPath
import BearerSession.Proofs.JarFile
import BearerSession.Proofs.JarLogout
import BearerSession.Proofs.Conduct
import BearerSession.Proofs.SessionSteps
import BearerSession.Proofs.SessionRules
import BearerSession.Proofs.RefreshOverlap
import BearerSession.Proofs.StoreRecord
import BearerSession.Proofs.CredentialSpan
import BearerSession.Proofs.JarReopening
import BearerSession.Proofs.JarSharing
import BearerSession.Proofs.CookieCalls
import BearerSession.Proofs.CookieLine
import BearerSession.Proofs.CookieHeader
import BearerSession.Proofs.TokenOrder
import BearerSession.Proofs.BrowserCookies
import BearerSession.Proofs.RecordLookup
import BearerSession.Proofs.ProblemReading
import BearerSession.Proofs.MutationReply
import BearerSession.Proofs.CookieRefresh
import BearerSession.Proofs.LoneRuns
import BearerSession.Proofs.SlidingHorizon
import BearerSession.Proofs.Concealment
import BearerSession.Proofs.HeaderPrecedence
import BearerSession.Proofs.StagedFile
import BearerSession.Proofs.FailedSave
import BearerSession.Proofs.HeldEntries
import BearerSession.Proofs.ConfiguredLogin
import BearerSession.Proofs.ValueReading
import BearerSession.Proofs.RecordWriting
import BearerSession.Proofs.WireTypes
import BearerSession.Proofs.CookieSeeding
import BearerSession.Proofs.PayloadReading
import BearerSession.Proofs.ExchangeCourse
import BearerSession.Proofs.Teardown
import BearerSession.Proofs.PollingRounds
import BearerSession.Proofs.GateProgress
import BearerSession.Proofs.ClampedExpiry
import BearerSession.Proofs.ConfigLoading
import BearerSession.Proofs.RequestBody
