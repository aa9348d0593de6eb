import DynamicDns.Controller
import DynamicDns.Main
import DynamicDns.Metrics.Page
import DynamicDns.Operator
import DynamicDns.Proofs.Cloudflare.Pass
import DynamicDns.Proofs.Pass.FailStop
import DynamicDns.Proofs.Pass.Impasse
import DynamicDns.Proofs.Pass.InStep
import DynamicDns.Proofs.Run.Once
import DynamicDns.Proofs.Run.Readiness
import DynamicDns.Proofs.Run.Rest
import DynamicDns.Proofs.Url.Below
import DynamicDns.Proofs.Cloudflare.Conversation
import DynamicDns.Proofs.Cloudflare.Visit
import DynamicDns.Proofs.Cloudflare.Untrusted
import DynamicDns.Proofs.Cloudflare.Assignment
import DynamicDns.Proofs.Cloudflare.ReadBack
import DynamicDns.Proofs.World.Contributions
import DynamicDns.Proofs.Run.Together
import DynamicDns.Proofs.World.Observed
import DynamicDns.Proofs.Pass.Duty
import DynamicDns.Proofs.Pass.Reconciled
import DynamicDns.Proofs.Run.Observance
import DynamicDns.Proofs.Metrics.Count
import DynamicDns.Proofs.Pass.Accounting
import DynamicDns.Proofs.Run.Traffic
import DynamicDns.Proofs.Run.Relay
import DynamicDns.Proofs.Run.Chronicle
import DynamicDns.Proofs.Run.Recovery
import DynamicDns.Proofs.Json.Difference
import DynamicDns.Proofs.Marker.Map
import DynamicDns.Proofs.Pass.Prospect
import DynamicDns.Proofs.Ip
import DynamicDns.Proofs.PublicIp
import DynamicDns.Proofs.Run.Order
import DynamicDns.Proofs.Run.Wake
import DynamicDns.Proofs.Condition.Exact
import DynamicDns.Proofs.Run.Refusal
import DynamicDns.Proofs.Resource.Wire
import DynamicDns.Proofs.Cloudflare.Pages
