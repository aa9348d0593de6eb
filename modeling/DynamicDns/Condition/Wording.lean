/-!
# What conditions say

The reasons are codes that other programs compare, and the messages are read by people; both are
part of what the operator promises and do not change.
-/

namespace DynamicDns.Wording

def configMapFound : String := "ConfigMapFound"

def secretFound : String := "SecretFound"

def clientCreated : String := "ClientCreated"

def clientCommunication : String := "ClientCommunication"

def clientCreatedMessage : String := "Client created"

def communicationsEstablished : String := "Communications established"

def notificationSent : String := "Notification sent"

def found (kind name : String) : String := kind ++ " " ++ name ++ " found"

def creationFailed (error : String) : String := "could not create client: " ++ error

def greetingsFailed (error : String) : String := "unable to send greetings: " ++ error

def notificationFailed (error : String) : String := "unable to send notification: " ++ error

/-- The text that announces an address of a provider. -/
def announcement (providerIp publicIp provider : String) : String :=
  if providerIp = publicIp then
    "Provider IP (" ++ providerIp ++ ") in sync with Public IP. From provider: (" ++ provider ++
      ")."
  else
    "Provider IP (" ++ providerIp ++ ") out of sync with Public IP (" ++ publicIp ++
      "). From provider: (" ++ provider ++ ")."

def greeting : String := "`ddns-operator` is starting its watch."

end DynamicDns.Wording
