import GatewayAccess.Authorizer
import GatewayAccess.Failure.Message
import GatewayAccess.Json.Tree.Lemmas
import GatewayAccess.SortedMap.Lemmas
import GatewayAccess.Proofs.MethodArn
import GatewayAccess.Proofs.Access
import GatewayAccess.Proofs.Recovery
import GatewayAccess.Proofs.Run
import GatewayAccess.Proofs.Sequence
import GatewayAccess.Proofs.Credentials
import GatewayAccess.Proofs.Outcome
import GatewayAccess.Proofs.Confinement
import GatewayAccess.Proofs.ArnForm
import GatewayAccess.Proofs.ArnReadBack
import GatewayAccess.Proofs.Json.Numeral
import GatewayAccess.Proofs.Json.StringLiteral
import GatewayAccess.Proofs.Json.Text
import GatewayAccess.Proofs.Json.Value
import GatewayAccess.Proofs.WireForm
import GatewayAccess.Proofs.Independence
import GatewayAccess.Proofs.Trail
import GatewayAccess.Proofs.Json.Record
import GatewayAccess.Proofs.EventText
import GatewayAccess.Proofs.History
import GatewayAccess.Proofs.Identity
import GatewayAccess.Proofs.Json.Compact
import GatewayAccess.Proofs.ResponseText
import GatewayAccess.Proofs.DefaultPolicy
import GatewayAccess.Proofs.GrantArn
import GatewayAccess.Proofs.ArnCanonical
import GatewayAccess.Proofs.Context
import GatewayAccess.Proofs.VerbReading
import GatewayAccess.Proofs.PathGrammar
import GatewayAccess.Proofs.ScalarReading
