import DynamicDns.Webhook

/-!
# Notification channels

A notifier names the kind of channel that it stands for. A channel is built from the secret and the
config map of the notifier, and then carries a greeting or a message.
-/

namespace DynamicDns

/-- A channel that messages are sent through. -/
inductive Channel where
  | webhook (hook : Webhook)

namespace Channel

def create (kind : String) (secret : Secret) (configMap : ConfigMap) :
    Except ChannelError Channel :=
  if kind = "Webhook" then (Webhook.ofObjects secret configMap).map .webhook
  else throw (.unsupportedKind kind)

def greet : Channel → ExceptT ChannelError Http.Exchange Unit
  | .webhook hook => hook.greet

def notify (message : String) : Channel → ExceptT ChannelError Http.Exchange Unit
  | .webhook hook => hook.notify message

end Channel

end DynamicDns
