import IdentityVault.Engine.Contention
import IdentityVault.Main
import IdentityVault.Program.World
import IdentityVault.Proofs.Store.CrashSafety
import IdentityVault.Proofs.Store.Overlap
import IdentityVault.Proofs.Engine.LockAccounts
import IdentityVault.Proofs.Engine.Slots
import IdentityVault.Proofs.Engine.HandleMap
import IdentityVault.Proofs.Engine.HmacCalls
import IdentityVault.Proofs.Engine.CallbackFront
import IdentityVault.Proofs.Engine.HmacHistory
import IdentityVault.Proofs.Store.RecordLife
import IdentityVault.Proofs.Program.Emissions
import IdentityVault.Proofs.Unlock.Driver
import IdentityVault.Proofs.Unlock.Meeting
import IdentityVault.Proofs.Unlock.Progress
import IdentityVault.Proofs.Unlock.Course
import IdentityVault.Proofs.Unlock.Sequential
import IdentityVault.Proofs.Unlock.Trace
import IdentityVault.Proofs.Unlock.Schedules
import IdentityVault.Proofs.Engine.WholeHmac
import IdentityVault.Proofs.Engine.Installation
import IdentityVault.Proofs.Command.SealAndUnlock
import IdentityVault.Proofs.Settings.DefaultFile
import IdentityVault.Proofs.Store.OtherPassword
import IdentityVault.Proofs.Store.SealingOutcome
import IdentityVault.Proofs.Command.Secrets
import IdentityVault.Proofs.Command.InitConfig
import IdentityVault.Proofs.Store.Tampering
import IdentityVault.Proofs.Store.Replies
import IdentityVault.Proofs.Command.Status
import IdentityVault.Proofs.Command.SaltReport
import IdentityVault.Proofs.Command.UnlockOrders
import IdentityVault.Proofs.Engine.CallbackCourse
import IdentityVault.Proofs.Settings.SavedFile
import IdentityVault.Proofs.Engine.LiveWords
import IdentityVault.Proofs.Unlock.Numbering
import IdentityVault.Proofs.Settings.Precedence
import IdentityVault.Proofs.Seal.SealedLengths
import IdentityVault.Proofs.Engine.GuardedSlots
