import RcOnline.Domain.LedgerKeys
import RcOnline.Domain.LedgerBalance
import RcOnline.Domain.RideAtomicity
import RcOnline.Domain.QueuePlaces
import RcOnline.Web.QueueMoments
import RcOnline.Web.ControlHandshake
import RcOnline.Gateway.ReadyOffers
import RcOnline.Api.WebhookDelivery
import RcOnline.Api.SimulationFlow
import RcOnline.Worker.PurchaseCredit
import RcOnline.Gateway.Ownership
import RcOnline.Gateway.UpdateOffers
import RcOnline.Gateway.SessionDevices
import RcOnline.Gateway.Presence
import RcOnline.Gateway.BrowserPings
import RcOnline.Gateway.ViewerPresence
import RcOnline.Gateway.ConnectionDeadline
import RcOnline.Gateway.Provenance
import RcOnline.Gateway.BrowserTickets
import RcOnline.Gateway.UpdateJobs
import RcOnline.Edge.Routes
import RcOnline.Web.VideoQuality
import RcOnline.Web.AudioSaves
import RcOnline.Web.AudioClose
import RcOnline.Web.AudioEdits
import RcOnline.Web.RateLimits
import RcOnline.Web.ReturnPaths
import RcOnline.Database.NicknameBackfill
import RcOnline.Web.Identities
import RcOnline.Web.AccountTokensOnce
import RcOnline.Web.PasswordReset
import RcOnline.Web.RideLifecycle
import RcOnline.Web.UseLiveQueue
import RcOnline.Web.VideoImpairments
import RcOnline.Web.VideoStats
import RcOnline.Web.KeyboardChanges
import RcOnline.Web.VideoSafety
import RcOnline.Bench.LiveRuntime
import RcOnline.Bench.Runner
import RcOnline.Domain.LedgerHistory
import RcOnline.Domain.LedgerOrder
import RcOnline.Domain.QueueFairness
import RcOnline.Domain.RideSettlement
import RcOnline.Domain.RideAccounting
import RcOnline.Edge.ControlBodies
import RcOnline.Web.RideReports
import RcOnline.Gateway.Config
import RcOnline.Gateway.EnrolledDevices
import RcOnline.Web.AccountAnswers
import RcOnline.Web.AccountAddresses
import RcOnline.Web.SessionProfiles
