import SwapFeed.Config.Settings
import SwapFeed.Crypto.Base64
import SwapFeed.Crypto.Hmac
import SwapFeed.Rest.Body
import SwapFeed.Rest.Query
import SwapFeed.Text.Cut
import SwapFeed.Text.Split
import SwapFeed.Time.Stamp

/-!
# REST transfers

A request becomes a transfer: the url with its query, the headers, and the body of a `POST`.  A
request that needs authentication is signed over timestamp, method, path with query, and body.
Without a body a `POST` becomes none.
-/

namespace SwapFeed

open SwapFeed.Text

/-- What is handed over for one round trip.  Url and headers end at their first U+0000. -/
structure Transfer where
  url : String
  headers : List String
  timeout : Int
  /-- The body of a `POST`. -/
  post : Option Octets
  deriving DecidableEq, Inhabited, Repr

/-- How a transfer ends. -/
inductive TransferReply where
  /-- No transfer could be set up. -/
  | unavailable
  /-- The round trip failed. -/
  | failed (reason : String)
  /-- An answer arrived, its body in chunks. -/
  | answered (status : Int) (chunks : List String)
  deriving DecidableEq, Inhabited, Repr

/-- Why a round trip gives no body. -/
inductive TransferError where
  | unavailable
  /-- The parameters of a `POST` have no body.  This is the body writer's error, worded there. -/
  | unwritable
  | failed (reason : String)
  | status (code : Int) (limitId : String)
  deriving DecidableEq, Repr

namespace TransferError

def message : TransferError → String
  | unavailable => "curl_easy_init failed"
  | unwritable => ""
  | failed reason => "curl: " ++ beforeNul reason
  | status code limitId => "HTTP " ++ toString code ++ " from " ++ limitId

end TransferError

structure RestClient where
  credentials : Credentials := {}
  timeout : Int := 10000
  /-- Whether the missing credentials have been reported. -/
  warned : Bool := false
  deriving DecidableEq, Inhabited, Repr

namespace RestClient

/-- The signature of a text under a secret. -/
def sign (secret message : Octets) : String :=
  Base64.encode (Hmac.digest secret message)

/-- The url of a request with its query. -/
def fullUrl (request : Request) : String :=
  match request.method with
  | .get => request.url ++ Query.render request.params
  | .post => request.url

/-- The body of a request, if it has one; empty for a `GET`. -/
def body? (request : Request) : Option String :=
  match request.method with
  | .get => some ""
  | .post => Body.render? request.params

/-- The part of a list of characters from its first slash on; a lone slash if there is none. -/
def fromSlash (chars : List Char) : List Char :=
  match splitFirst? '/' chars with
  | some (_, rest) => '/' :: rest
  | none => ['/']

/-- The path and query of a url: what follows the authority. -/
def target (url : String) : String :=
  match splitInfix? [':', '/', '/'] url.toList with
  | some (_, rest) => String.ofList (fromSlash rest)
  | none => String.ofList (fromSlash url.toList)

def plainHeaders : List String :=
  ["Content-Type: application/json", "User-Agent: okx-perp-md/0.1"]

/-- The headers that authenticate a request with a body at a timestamp. -/
def signedHeaders (credentials : Credentials) (timestamp : String) (request : Request)
    (body : String) : List String :=
  let message :=
    Octets.ofText (timestamp ++ request.method.name ++ target (fullUrl request) ++ body)
  ["OK-ACCESS-KEY: " ++ credentials.key,
    "OK-ACCESS-SIGN: " ++ sign (Octets.ofText credentials.secret) message,
    "OK-ACCESS-TIMESTAMP: " ++ timestamp,
    "OK-ACCESS-PASSPHRASE: " ++ credentials.passphrase]

/-- Whether a request is signed. -/
def signs (client : RestClient) (request : Request) : Bool :=
  request.authenticated && !client.credentials.incomplete

/-- The transfer of a request with a body at a clock reading in microseconds. -/
def transfer (client : RestClient) (now : Int) (request : Request) (body : String) : Transfer where
  url := beforeNul (fullUrl request)
  headers :=
    (plainHeaders ++
      if client.signs request then
        signedHeaders client.credentials (stampOfMicros now) request body
      else []).map beforeNul
  timeout := client.timeout
  post :=
    match request.method with
    | .get => none
    | .post => some (Octets.ofText (beforeNul body))

/-- Whether a request has to go out unsigned for want of credentials. -/
def lacksCredentials (client : RestClient) (request : Request) : Bool :=
  request.authenticated && client.credentials.incomplete

/-- The log line about missing credentials. -/
def unsignedWarning (request : Request) : String :=
  "[okx-rest] " ++ request.limitId
    ++ " asks for authentication but no API credentials are set; sending unsigned"

/-- The outcome of a round trip. -/
structure Exchange where
  result : Except TransferError String
  sent : Option Transfer
  log : List String

/-- The body of a reply, or the error and the log line that it makes. -/
def settle (request : Request) : TransferReply → Except (TransferError × List String) String
  | .unavailable => .error (.unavailable, [])
  | .failed reason =>
      .error (.failed reason,
        ["[okx-rest] CURL error on " ++ request.limitId ++ ": " ++ beforeNul reason])
  | .answered status chunks =>
      let text := String.join chunks
      if 200 ≤ status ∧ status < 300 then .ok text
      else
        .error (.status status request.limitId,
          ["[okx-rest] HTTP " ++ toString status ++ " on " ++ request.limitId ++ ": " ++ text])

/-- Send a request with a body and take the reply.  Missing credentials are reported once per
client. -/
def send (client : RestClient) (now : Int) (request : Request) (body : String)
    (reply : TransferReply) : Exchange × RestClient :=
  let lacking := client.lacksCredentials request
  let warning := if lacking && !client.warned then [unsignedWarning request] else []
  let sent := some (client.transfer now request body)
  let client := { client with warned := client.warned || lacking }
  match settle request reply with
  | .ok text => ({ result := .ok text, sent := sent, log := warning }, client)
  | .error (error, log) =>
      ({ result := .error error, sent := sent, log := warning ++ log }, client)

/-- Send a request and take the reply.  Nothing is sent if no transfer can be set up, or if the
request has no body. -/
def execute (client : RestClient) (now : Int) (request : Request) (reply : TransferReply) :
    Exchange × RestClient :=
  match reply with
  | .unavailable => ({ result := .error .unavailable, sent := none, log := [] }, client)
  | _ =>
      match body? request with
      | none => ({ result := .error .unwritable, sent := none, log := [] }, client)
      | some body => client.send now request body reply

end RestClient

end SwapFeed
