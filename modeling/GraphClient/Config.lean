import GraphClient.Address
import GraphClient.GraphSON.Decoder
import GraphClient.Message.Request
import GraphClient.Time.Duration

/-!
# Configuration

What a client is told before it connects.
-/

namespace GraphClient

/-- The settings of a client. -/
structure ClientConfig where
  address : ServerAddress := .default
  poolSize : Nat := 10
  pingInterval : Duration := .ofSeconds 30
  credentials : Option Credentials := none
  connectionTimeout : Duration := .ofSeconds 10
  queryTimeout : Duration := .ofMillis 5000
  drainTimeout : Duration := .ofSeconds 30
  processor : String := "traversal"
  language : String := "gremlin-groovy"
  messageFormat : MessageFormat := .text
  decoder : GraphSON.Decoder := .standard

namespace ClientConfig

/-- The default settings for the server that a URI names. -/
def ofUri (uri : String) : Except ClientError ClientConfig :=
  (ServerAddress.ofUri uri).map fun address => { address }

/-- A pool has a session and a query has time. -/
def validate (c : ClientConfig) : Except ClientError Unit :=
  if c.poolSize = 0 then .error (.configuration "Pool size must be at least 1")
  else if c.queryTimeout.isZero then .error (.configuration "Query timeout must be positive")
  else .ok ()

/-- The credentials without the password, for diagnostics. -/
def credentialsText : Option Credentials → String
  | none => "None"
  | some c =>
    "Some(Credentials \x7b username: " ++ Quoted.quote c.username ++
      ", password: \"<redacted>\" \x7d)"

/-- The settings without secrets, for diagnostics. -/
def debugText (c : ClientConfig) : String :=
  "DriverConfig \x7b address: " ++ c.address.debugText ++ ", pool_size: " ++
    toString c.poolSize ++ ", ping_interval: " ++ c.pingInterval.text ++ ", credentials: " ++
    credentialsText c.credentials ++ ", query_timeout: " ++ c.queryTimeout.text ++
    ", processor: " ++ Quoted.quote c.processor ++ ", message_format: " ++
    c.messageFormat.name ++ " \x7d"

end ClientConfig

end GraphClient
