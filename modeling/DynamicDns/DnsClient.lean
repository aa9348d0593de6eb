import DynamicDns.Cloudflare.Client

/-!
# DNS clients

A provider names the DNS service that its account is at. A client of a service is built from the
secret and the config map of the provider, and then reads and sets the address that the account
serves.
-/

namespace DynamicDns

/-- A client of a DNS service. -/
inductive DnsClient where
  | cloudflare (client : Cloudflare.Client)

namespace DnsClient

def create (service : String) (secret : Secret) (configMap : ConfigMap) :
    Except ClientError DnsClient :=
  if service = "Cloudflare" then
    (Cloudflare.Client.ofObjects secret configMap).map .cloudflare
  else throw (.unsupportedKind service)

def getIp : DnsClient → ExceptT ClientError Http.Exchange String
  | .cloudflare client => client.getIp

def setIp (ip : String) : DnsClient → ExceptT ClientError Http.Exchange Unit
  | .cloudflare client => client.setIp ip

end DnsClient

end DynamicDns
