import KrakenUi.Interaction.Program
import KrakenUi.Interaction.Semantics
import KrakenUi.Interaction.Progress
import KrakenUi.Interaction.Contract
import KrakenUi.Interaction.Journal
import KrakenUi.Security.Sanitize
import KrakenUi.Storage.AutoTable
import KrakenUi.Models.Database
import KrakenUi.Models.OperatorMfaRepository
import KrakenUi.Models.Evolution
import KrakenUi.Console
import KrakenUi.Controllers.Auth
import KrakenUi.Controllers.Acl
import KrakenUi.Controllers.Routes
import KrakenUi.Protocol.Contract
import KrakenUi.Protocol.Steps
import KrakenUi.Protocol.SecondFactor
import KrakenUi.Protocol.Guarded
import KrakenUi.Protocol.Handlers
import KrakenUi.Protocol.SignIn
import KrakenUi.Protocol.Effects
import KrakenUi.Protocol.Histories
import KrakenUi.Protocol.Provenance
import KrakenUi.Guarantees.Authentication
import KrakenUi.Guarantees.SessionIds
import KrakenUi.Guarantees.TimeSteps
import KrakenUi.Guarantees.SecondFactor
import KrakenUi.Guarantees.Administrators
import KrakenUi.Models.RecoverySets
import KrakenUi.Guarantees.RecoveryCodes
import KrakenUi.Guarantees.Confirmation
import KrakenUi.Metering.ArrivalTime
import KrakenUi.Services.RateLimit
import KrakenUi.Guarantees.RateLimits
import KrakenUi.Net.IpAddr
import KrakenUi.Net.IpParse
import KrakenUi.Security.ClientIp
import KrakenUi.Guarantees.ClientAddresses
import KrakenUi.Interaction.Unwinding
import KrakenUi.Security.LoginThrottle
import KrakenUi.RateLimiting
import KrakenUi.Guarantees.Isolation
import KrakenUi.Interaction.Serial
import KrakenUi.Interaction.Translation
import KrakenUi.Protocol.Checks
import KrakenUi.Guarantees.Guessing
import KrakenUi.Automata.Transducer
import KrakenUi.Security.Redact
import KrakenUi.Security.RedactModes
import KrakenUi.Guarantees.Redaction
import KrakenUi.FileSystem.Disk
import KrakenUi.Guarantees.Installation
import KrakenUi.Guarantees.Extraction
import KrakenUi.Protocol.Accounts
import KrakenUi.Protocol.Finalisation
import KrakenUi.Protocol.Epochs
import KrakenUi.Services.PasswordCrypto
import KrakenUi.Guarantees.Rehashing
import KrakenUi.Guarantees.Masking
import KrakenUi.Json.Flat
import KrakenUi.Guarantees.RedactedJson
import KrakenUi.Guarantees.SealedRecords
import KrakenUi.Encoding.Base64
import KrakenUi.Services.RuleManagement
import KrakenUi.Guarantees.RequestTokens
import KrakenUi.Sql.Like
import KrakenUi.Sql.Ordering
import KrakenUi.Models.VulnerabilityRepository
import KrakenUi.Controllers.Waf
import KrakenUi.Guarantees.AttackPaging
import KrakenUi.Html.References
import KrakenUi.Guarantees.AttackSearch
import KrakenUi.Protocol.Credentials
import KrakenUi.Guarantees.Credentials
import KrakenUi.Guarantees.AttackMasking
import KrakenUi.Middleware.RateLimit
import KrakenUi.Guarantees.RetryAfter
import KrakenUi.Services.RateLimitConfig
import KrakenUi.Guarantees.RequestRates
import KrakenUi.Metering.Rates
import KrakenUi.Metering.Windows
import KrakenUi.Security.AccountFailureMonitor
import KrakenUi.Guarantees.DistributedGuessing
import KrakenUi.Guarantees.Lockouts
import KrakenUi.Models.OperatorPages
import KrakenUi.Guarantees.OperatorSearch
import KrakenUi.Guarantees.ExtractionCap
import KrakenUi.FileSystem.Links
import KrakenUi.Interaction.Records
import KrakenUi.Guarantees.LinkedUpdates
import KrakenUi.Json.Tree
import KrakenUi.Services.RegexRules
import KrakenUi.Guarantees.RuleCodecs
import KrakenUi.Middleware.IpConcurrency
import KrakenUi.Guarantees.Concurrency
import KrakenUi.Guarantees.Browsing
import KrakenUi.Guarantees.ResponseHeaders
import KrakenUi.Guarantees.LiveSessions
import KrakenUi.Guarantees.Memory
import KrakenUi.Guarantees.Restarts
import KrakenUi.Guarantees.SecretFiles
import KrakenUi.Controllers.Dashboard
import KrakenUi.Guarantees.SessionDeletion
import KrakenUi.Guarantees.Revocation
import KrakenUi.Guarantees.HalfLogins
import KrakenUi.Guarantees.Secrets
import KrakenUi.FileSystem.Lookup
import KrakenUi.Config
import KrakenUi.Guarantees.Durations
import KrakenUi.Guarantees.DatabaseFiles
import KrakenUi.Guarantees.PersistentDirectories
import KrakenUi.JavaScript.Strings
import KrakenUi.Encoding.Csv
import KrakenUi.View.Tables
import KrakenUi.View.CmcRules
import KrakenUi.Guarantees.SubmittedModules
import KrakenUi.View.PasswordScore
import KrakenUi.JavaScript.LowerCase
import KrakenUi.JavaScript.RegExp
import KrakenUi.Guarantees.PasswordPolicies
import KrakenUi.View.Payload
import KrakenUi.Guarantees.PayloadDisplay
import KrakenUi.Encoding.Exposition
import KrakenUi.Services.WafMetrics
import KrakenUi.Guarantees.Metrics
import KrakenUi.Interaction.Exclusive
import KrakenUi.Services.Updater
import KrakenUi.Services.UpdateMachine
import KrakenUi.Guarantees.FailedUpdates
import KrakenUi.Encoding.Utf8
import KrakenUi.Services.UpdateLog
import KrakenUi.Guarantees.UpdateLogs
import KrakenUi.Interaction.Audit
import KrakenUi.Protocol.Privilege
import KrakenUi.Protocol.Authority
import KrakenUi.Guarantees.Authority
import KrakenUi.Guarantees.Bootstrap
import KrakenUi.Guarantees.RecoveryFiles
import KrakenUi.Guarantees.UpdateDiagram
import KrakenUi.Interaction.Beside
import KrakenUi.Interaction.Mirror
import KrakenUi.Services.RuleClient
import KrakenUi.Controllers.RuleManagement
import KrakenUi.Guarantees.FirewallRules
import KrakenUi.Guarantees.RuleAnswers
import KrakenUi.Guarantees.RulePages
