import SwapFeed.Text.Split

/-!
# Websocket endpoints

The parts of a websocket url: scheme, host, port and target.  A missing port and a missing target
have defaults, so every endpoint has one full form.
-/

namespace SwapFeed

structure Endpoint where
  scheme : String
  host : String
  port : String
  target : String
  deriving DecidableEq, Inhabited, Repr

/-- Why a text is no websocket url. -/
inductive EndpointError where
  | noScheme (url : String)
  | unsupported (scheme : String)
  | noAuthority (url : String)
  deriving DecidableEq, Repr

namespace EndpointError

def message : EndpointError → String
  | noScheme url => "websocket url without scheme: " ++ url
  | unsupported scheme => "unsupported websocket scheme: " ++ scheme
  | noAuthority url => "websocket url without host/port: " ++ url

end EndpointError

namespace Endpoint

open SwapFeed.Text

/-- What separates the scheme from the rest of a url. -/
def schemeMark : List Char := [':', '/', '/']

/-- The port that a scheme implies. -/
def defaultPort (scheme : List Char) : List Char :=
  if scheme = ['w', 's', 's'] then ['4', '4', '3'] else ['8', '0']

/-- Host and port in an authority: the port stands behind its last colon. -/
def hostAndPort (scheme authority : List Char) : List Char × List Char :=
  (splitLast? (· = ':') authority).getD (authority, defaultPort scheme)

/-- The authority and the target of the text behind the scheme: the target starts at the first
slash. -/
def authorityAndTarget (rest : List Char) : List Char × List Char :=
  match splitFirst? '/' rest with
  | some (authority, target) => (authority, '/' :: target)
  | none => (rest, ['/'])

/-- Read a url. -/
def parse (url : String) : Except EndpointError Endpoint :=
  match splitInfix? schemeMark url.toList with
  | none => .error (.noScheme url)
  | some (scheme, rest) =>
      if scheme = ['w', 's', 's'] ∨ scheme = ['w', 's'] then
        let (authority, target) := authorityAndTarget rest
        let (host, port) := hostAndPort scheme authority
        if host.isEmpty || port.isEmpty then .error (.noAuthority url)
        else
          .ok ⟨String.ofList scheme, String.ofList host, String.ofList port, String.ofList target⟩
      else .error (.unsupported (String.ofList scheme))

/-- The full form of a url. -/
def render (endpoint : Endpoint) : String :=
  endpoint.scheme ++ "://" ++ endpoint.host ++ ":" ++ endpoint.port ++ endpoint.target

end Endpoint

end SwapFeed
