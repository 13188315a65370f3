import MyApiSpec.Base.Table
import MyApiSpec.Base.Outcome
import MyApiSpec.Base.Run
import MyApiSpec.Base.GoText
import MyApiSpec.Base.Script
import MyApiSpec.Base.Keyset
import MyApiSpec.Base.Process
import MyApiSpec.Base.Distinct
import MyApiSpec.Base.Decimal
import MyApiSpec.Base.Store
import MyApiSpec.Ledger.Balance
import MyApiSpec.Ledger.Types
import MyApiSpec.Ledger.Fingerprint
import MyApiSpec.Ledger.Subscription
import MyApiSpec.Ledger.Account
import MyApiSpec.Ledger.Word
import MyApiSpec.Ledger.Mutation
import MyApiSpec.Ledger.Recovery
import MyApiSpec.Ledger.Step
import MyApiSpec.Ledger.Invariant
import MyApiSpec.Ledger.Concurrent
import MyApiSpec.Ledger.Conservation
import MyApiSpec.Ledger.Admission
import MyApiSpec.Ledger.Rows
import MyApiSpec.Ledger.Terminal
import MyApiSpec.Ledger.Answers
import MyApiSpec.Ledger.Lifecycle
import MyApiSpec.Ledger.Release
import MyApiSpec.Ledger.Raise
import MyApiSpec.Ledger.Chain
import MyApiSpec.Ledger.Backfill
import MyApiSpec.Ledger.BackfillRuns
import MyApiSpec.Settlement.Types
import MyApiSpec.Settlement.Permit
import MyApiSpec.Settlement.Balance
import MyApiSpec.Settlement.Journal
import MyApiSpec.Settlement.Ensure
import MyApiSpec.Settlement.Recover
import MyApiSpec.Settlement.System
import MyApiSpec.Settlement.Steps
import MyApiSpec.Settlement.ExactlyOnce
import MyApiSpec.Settlement.Permits
import MyApiSpec.Access.Registry
import MyApiSpec.Access.Fallback
import MyApiSpec.Access.Policy
import MyApiSpec.Access.Decision
import MyApiSpec.Routing.Policy
import MyApiSpec.Routing.Retry
import MyApiSpec.Routing.Shares
import MyApiSpec.Budget.Fee
import MyApiSpec.Budget.Transactions
import MyApiSpec.Budget.Steps
import MyApiSpec.Budget.Accounting
import MyApiSpec.Share.Types
import MyApiSpec.Share.Projection
import MyApiSpec.Share.Calls
import MyApiSpec.Share.Invariant
import MyApiSpec.Share.Transactions
import MyApiSpec.Share.Conservation
import MyApiSpec.Base.Machine
import MyApiSpec.TwoFactor.Verification
import MyApiSpec.TwoFactor.Lockout
import MyApiSpec.Session.Types
import MyApiSpec.Session.Calls
import MyApiSpec.Session.Revocation
import MyApiSpec.Session.Refresh
import MyApiSpec.Base.IPNet
import MyApiSpec.Fetch.Protection
import MyApiSpec.Fetch.Client
import MyApiSpec.Fetch.Containment
import MyApiSpec.Fetch.Names
import MyApiSpec.Identity.Keyring
import MyApiSpec.Identity.Registry
import MyApiSpec.Identity.Stability
import MyApiSpec.Pricing.Publication
import MyApiSpec.Pricing.Locks
import MyApiSpec.Base.Retry
import MyApiSpec.Credential.Types
import MyApiSpec.Credential.Dispatch
import MyApiSpec.Credential.Rotation
import MyApiSpec.Credential.Calls
import MyApiSpec.Credential.Exclusion
import MyApiSpec.Base.Expiring
import MyApiSpec.UserCache.Scripts
import MyApiSpec.UserCache.Calls
import MyApiSpec.UserCache.Freshness
import MyApiSpec.Base.Calendar
import MyApiSpec.Subscription.Plan
import MyApiSpec.Subscription.Reset
import MyApiSpec.Subscription.Wipe
import MyApiSpec.Base.Chain
import MyApiSpec.Routing.ModelRoute
import MyApiSpec.Base.DecimalText
import MyApiSpec.Reserve.Scripts
import MyApiSpec.Reserve.Refinement
import MyApiSpec.Ledger.RecoveryCycle
import MyApiSpec.Ledger.RecoveryFairness
import MyApiSpec.RateLimit.Bucket
import MyApiSpec.Convert.Usage
import MyApiSpec.Convert.GeminiStream
import MyApiSpec.Routing.KeySelection
import MyApiSpec.SystemTask.Recovery
