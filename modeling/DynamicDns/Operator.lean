import DynamicDns.ApiServer.Client
import DynamicDns.Channel
import DynamicDns.DnsClient
import DynamicDns.Pass.Notifier
import DynamicDns.Pass.Provider
import DynamicDns.PublicIp

/-!
# The operator

What the calls of a pass come down to: exchanges over HTTP with the API server, with the services
that know the public address, with DNS services and with channels. What is left besides are two
clocks and the counters. `Operator.passOver` is the counted pass over a resource as it goes on
outside.
-/

namespace DynamicDns

/-- What a pass needs from outside in the end. -/
inductive Need where
  | response (request : Http.Request)
  | now
  | elapsed
  | record (event : Metrics.Event)

abbrev Need.Answer : Need → Type
  | .response _ => Option Http.Response
  | .now => String
  | .elapsed => Nat
  | .record _ => Unit

abbrev Needing := Program Need Need.Answer

/-- An operator: where the API server is, which services are asked for the public address, and how
they are shuffled. -/
structure Operator where
  server : ApiServer
  pool : List String
  shuffle : List String → List String

namespace Operator

/-- The operator at an API server that asks the usual services. -/
def usual (server : ApiServer) (shuffle : List String → List String) : Operator :=
  ⟨server, PublicIp.builtIn, shuffle⟩

def exchanging {α : Type} (exchange : Http.Exchange α) : Needing α :=
  exchange.expand fun request => Program.ask (Need.response request)

def carryOut (operator : Operator) : (call : Call DnsClient Channel) → Needing call.Reply
  | .getProvider key => exchanging (operator.server.getProvider key)
  | .listProviders => exchanging operator.server.listProviders
  | .getNotifier key => exchanging (operator.server.getNotifier key)
  | .patchStatus kind key change => exchanging (operator.server.patchStatus kind key change)
  | .patchProvider key change => exchanging (operator.server.patchProvider key change)
  | .getSecret key => exchanging (operator.server.getSecret key)
  | .getConfigMap key => exchanging (operator.server.getConfigMap key)
  | .publicIp preferred =>
    exchanging (PublicIp.discover operator.shuffle operator.pool preferred).run
  | .createClient service secret configMap => return DnsClient.create service secret configMap
  | .createChannel kind secret configMap => return Channel.create kind secret configMap
  | .getIp client => exchanging client.getIp.run
  | .setIp client ip => exchanging (client.setIp ip).run
  | .greet channel => exchanging channel.greet.run
  | .notify channel message => exchanging (channel.notify message).run
  | .now => Program.ask Need.now
  | .elapsed => Program.ask Need.elapsed
  | .record event => Program.ask (Need.record event)

def passOver (operator : Operator) (kind : Kind) (key : ObjectKey) : Needing Pass.Outcome :=
  let pass : Calling DnsClient Channel Pass.Outcome := match kind with
    | .provider => Pass.provider key
    | .notifier => Pass.notifier key
  (Pass.counted kind pass).expand operator.carryOut

end Operator

end DynamicDns
