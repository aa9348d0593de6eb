import DynamicDns.Condition.Wording
import DynamicDns.Http
import DynamicDns.Resource.DataObject

/-!
# Webhooks

A message is posted as JSON to a URL kept in a secret. Any answer that is not a success means that
the message was not delivered.
-/

namespace DynamicDns

/-- A channel that posts to a URL. -/
structure Webhook where
  url : Url

namespace Webhook

def urlKey : String := "url"

/-- The channel behind a URL; blanks around the URL do not count. -/
def create (url : String) : Except ChannelError Webhook :=
  match Url.parse (trimBlanks url) with
  | .ok url => return ⟨url⟩
  | .error fault => throw (.invalidUrl fault.text)

def ofObjects (secret : Secret) (_ : ConfigMap) : Except ChannelError Webhook :=
  match secret.text? urlKey with
  | none => throw (.missingSecretKey urlKey)
  | some url => create url

def post (webhook : Webhook) (content : String) : ExceptT ChannelError Http.Exchange Unit := do
  let request : Http.Request :=
    ⟨.post, webhook.url, [("content-type", "application/json")],
      some (Json.object [("content", .str content)])⟩
  match ← (Http.send request).run with
  | .error phase => throw (.http phase)
  | .ok response =>
    if response.isSuccess then return ()
    else throw (.rejected response.status (response.text?.getD ""))

def greet (webhook : Webhook) : ExceptT ChannelError Http.Exchange Unit :=
  webhook.post Wording.greeting

def notify (webhook : Webhook) (message : String) : ExceptT ChannelError Http.Exchange Unit :=
  webhook.post message

end Webhook

end DynamicDns
