import GraphClient.Error
import GraphClient.Number.Decimal
import GraphClient.Text.Quoted

/-!
# Server addresses

An address has a host, a port, a path and a flag for encryption. A host with colons in it, as of
IPv6, stands in brackets.
-/

namespace GraphClient

/-- Where a server is. -/
structure ServerAddress where
  host : String
  port : UInt16
  path : String
  secure : Bool
  deriving DecidableEq, Repr

namespace ServerAddress

def defaultPort : UInt16 := 8182

def defaultPath : String := "/gremlin"

def new (host : String) (port : UInt16) : ServerAddress := ⟨host, port, defaultPath, false⟩

def default : ServerAddress := new "localhost" defaultPort

instance : Inhabited ServerAddress := ⟨default⟩

/-- The text after a beginning that it may have. -/
def dropStart? (start text : List Char) : Option (List Char) :=
  if start <+: text then some (text.drop start.length) else none

/-- The mark after the name of a scheme occurs. -/
def hasScheme : List Char → Bool
  | [] => false
  | ':' :: '/' :: '/' :: _ => true
  | _ :: rest => hasScheme rest

/-- Whether the connection is encrypted, and the text after the scheme. -/
def scheme (uri : List Char) : Except ClientError (Bool × List Char) :=
  match dropStart? "wss://".toList uri with
  | some rest => .ok (true, rest)
  | none =>
    match dropStart? "ws://".toList uri with
    | some rest => .ok (false, rest)
    | none =>
      if hasScheme uri then
        .error (.configuration ("Unsupported scheme in '" ++ String.ofList uri ++ "'"))
      else .ok (false, uri)

def portOfText (text : List Char) : Except ClientError UInt16 :=
  match Decimal.uint16? text with
  | some port => .ok port
  | none => .error (.configuration ("Invalid port '" ++ String.ofList text ++ "'"))

/-- The text before the last colon and the text after it. -/
def splitLastColon? (text : List Char) : Option (List Char × List Char) :=
  let reversed := text.reverse
  match reversed.dropWhile (· != ':') with
  | _ :: before => some (before.reverse, (reversed.takeWhile (· != ':')).reverse)
  | [] => none

/-- Host and port of a host in brackets, after the opening one. -/
def bracketed (text : List Char) : Except ClientError (List Char × UInt16) :=
  match text.dropWhile (· != ']') with
  | [] => .error (.configuration "Unterminated IPv6 address")
  | _ :: after =>
    let host := text.takeWhile (· != ']')
    match after with
    | [] => .ok (host, defaultPort)
    | ':' :: port => (portOfText port).map fun port => (host, port)
    | _ => .error (.configuration "Invalid server address")

/-- Host and port of an authority. -/
def authority (text : List Char) : Except ClientError (List Char × UInt16) :=
  match text with
  | '[' :: rest => bracketed rest
  | _ =>
    match splitLastColon? text with
    | none => .ok (text, defaultPort)
    | some (host, port) =>
      if host.contains ':' then .error (.configuration "Invalid server address")
      else (portOfText port).map fun port => (host, port)

/-- The address that a URI names. -/
def ofUri (uri : String) : Except ClientError ServerAddress := do
  let (secure, rest) ← scheme uri.toList
  let path := rest.dropWhile (· != '/')
  let (host, port) ← authority (rest.takeWhile (· != '/'))
  if host.isEmpty then .error (.configuration "Missing host")
  else
    let path := if path.isEmpty then defaultPath else String.ofList path
    .ok ⟨String.ofList host, port, path, secure⟩

/-- The URI of an address. -/
def url (a : ServerAddress) : String :=
  let host := if a.host.toList.contains ':' then "[" ++ a.host ++ "]" else a.host
  (if a.secure then "wss" else "ws") ++ "://" ++ host ++ ":" ++ toString a.port.toNat ++ a.path

/-- The fields of an address, for diagnostics. -/
def debugText (a : ServerAddress) : String :=
  "ServerAddress \x7b host: " ++ Quoted.quote a.host ++ ", port: " ++ toString a.port.toNat ++
    ", path: " ++ Quoted.quote a.path ++ ", secure: " ++ toString a.secure ++ " \x7d"

end ServerAddress

end GraphClient
