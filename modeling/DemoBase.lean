import DemoBase.Backend.LayerGrouping
import DemoBase.Foundations.SingleFlight
import DemoBase.EndToEnd.UserPages
import DemoBase.Backend.Isolation
import DemoBase.Backend.RuleSelection
import DemoBase.Backend.InitialMigration
import DemoBase.Backend.PlaceholderGrammar
import DemoBase.Backend.ResolvingOrder
import DemoBase.Backend.TokenLifetime
import DemoBase.Backend.UserListing
import DemoBase.Backend.SigningKey
import DemoBase.Backend.LoginRoundTrip
import DemoBase.Backend.ErrorRedaction
import DemoBase.Backend.TokenRejection
import DemoBase.Backend.RegistrationConflicts
import DemoBase.Backend.ScopedRegistration
import DemoBase.Backend.CrossOrigin
import DemoBase.EndToEnd.AdminAccess
import DemoBase.Frontend.TokenlessSession
import DemoBase.Frontend.HeaderRefetch
import DemoBase.Frontend.UserManagement
import DemoBase.Foundations.Cells
import DemoBase.Frontend.InterceptorBypass
import DemoBase.Frontend.LocalStorage
import DemoBase.Frontend.StorageRemoval
import DemoBase.Frontend.StorageReload
import DemoBase.Frontend.CurrentUserMemo
import DemoBase.EndToEnd.BrowserSession
import DemoBase.Frontend.CredentialForms
import DemoBase.EndToEnd.Onboarding
import DemoBase.Backend.ConfigFootprint
import DemoBase.EndToEnd.FailureMessages
import DemoBase.EndToEnd.ForeignOrigin
import DemoBase.Frontend.GuardedPages
