import Tollgate.Account.ContextRun
import Tollgate.Http.GateStack
import Tollgate.Main
import Tollgate.Run
import Tollgate.Proofs.Token.Claims
import Tollgate.Proofs.Text.Cut
import Tollgate.Proofs.Token.Key
import Tollgate.Proofs.Token.Compact
import Tollgate.Proofs.Token.Acceptance
import Tollgate.Proofs.Text.Utf8
import Tollgate.Proofs.Webhook.Routing
import Tollgate.Proofs.Webhook.Signature
import Tollgate.Proofs.Webhook.Authenticity
import Tollgate.Proofs.Http.Precedence
import Tollgate.Proofs.Http.GateStack
import Tollgate.Proofs.Http.Deliveries
import Tollgate.Proofs.Run.Identity
import Tollgate.Proofs.Run.Revocation
import Tollgate.Proofs.Webhook.Binding
import Tollgate.Proofs.Http.DeclaredLimit
import Tollgate.Proofs.Http.CrossOrigin
import Tollgate.Proofs.Http.Verdict
import Tollgate.Proofs.Token.Crash
import Tollgate.Proofs.Token.OwnToken
import Tollgate.Proofs.Http.Rejection
import Tollgate.Proofs.Webhook.SignatureFirst
import Tollgate.Proofs.Webhook.Replay
import Tollgate.Proofs.Token.Lifetime
import Tollgate.Proofs.Token.Reuse
import Tollgate.Proofs.Run.RevocationChecks
import Tollgate.Proofs.Http.LengthCheck
import Tollgate.Proofs.Http.AccountShown
import Tollgate.Proofs.Webhook.Respelling
import Tollgate.Proofs.Json.Detect
import Tollgate.Proofs.Number.Truncation
import Tollgate.Proofs.Webhook.LocalSender
import Tollgate.Proofs.Run.RejectionLog
import Tollgate.Proofs.Webhook.Classification
import Tollgate.Proofs.Token.Issuing
import Tollgate.Proofs.Json.Completeness
import Tollgate.Proofs.Command.PayloadCheck
import Tollgate.Proofs.Settings.Origins
import Tollgate.Proofs.Token.Credentials
import Tollgate.Proofs.Number.Nearest
import Tollgate.Proofs.Number.Shortest
import Tollgate.Proofs.Json.Decimal
import Tollgate.Proofs.Json.Readable
import Tollgate.Proofs.Http.Findings

