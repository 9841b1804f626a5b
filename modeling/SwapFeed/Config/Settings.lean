import SwapFeed.Config.Environment
import SwapFeed.Config.PairList
import SwapFeed.Text.Integer

/-!
# Settings of the feed

Settings have defaults that environment variables override.  Times are milliseconds unless their
name says otherwise.
-/

namespace SwapFeed

/-- What signs authenticated requests. -/
structure Credentials where
  key : String := ""
  secret : String := ""
  passphrase : String := ""
  deriving DecidableEq, Inhabited, Repr

namespace Credentials

/-- Credentials sign only if no part is missing. -/
def incomplete (credentials : Credentials) : Bool :=
  credentials.key.isEmpty || credentials.secret.isEmpty || credentials.passphrase.isEmpty

end Credentials

structure Settings where
  pairs : List String := ["BTC-USDT", "ETH-USDT", "SOL-USDT"]
  restUrl : String := "https://www.okx.com/api/v5"
  streamUrl : String := "wss://ws.okx.com:8443/ws/v5/public"
  connectTimeout : Int := 10000
  messageTimeout : Int := 20000
  retryDelay : Int := 5000
  restTimeout : Int := 10000
  /-- The pause between subscribe requests; none if zero. -/
  subscribePacing : Int := 0
  /-- How many levels of each side a snapshot asks for. -/
  snapshotDepth : Int := 100
  /-- After how many seconds the feed stops by itself; never if zero. -/
  runSeconds : Int := 0
  credentials : Credentials := {}
  deriving DecidableEq, Inhabited, Repr

/-- Why an environment gives no settings. -/
inductive SettingError where
  /-- The list of pairs is set but names none. -/
  | noPairs
  /-- A numeric variable does not write a non-negative integer. -/
  | badNumber (name value : String)
  deriving DecidableEq, Repr

namespace SettingError

def message : SettingError → String
  | noPairs => "OKX_PAIRS has no trading pairs"
  | badNumber name value => name ++ " must be a non-negative integer, got '" ++ value ++ "'"

end SettingError

namespace Settings

open SwapFeed.Text

/-- The largest integer that a numeric setting reaches; larger ones are cut to it. -/
def largest : Int := 9223372036854775807

/-- The number that a variable writes, or a default if it is unset or empty. -/
def number (environment : Environment) (name : String) (fallback : Int) :
    Except SettingError Int :=
  match environment.nonempty? name with
  | none => .ok fallback
  | some value =>
      match integer? value.toList with
      | some number =>
          if number < 0 then .error (.badNumber name value) else .ok (min number largest)
      | none => .error (.badNumber name value)

/-- Seconds as milliseconds in a signed 64-bit word. -/
def millisOfSeconds (seconds : Int) : Int :=
  (seconds * 1000).bmod UInt64.size

/-- The pairs that the environment names. -/
def pairsOf (environment : Environment) (fallback : List String) :
    Except SettingError (List String) :=
  match environment.nonempty? "OKX_PAIRS" with
  | none => .ok fallback
  | some line => if (PairList.read line).isEmpty then .error .noPairs else .ok (PairList.read line)

/-- The settings that an environment describes. -/
def ofEnvironment (environment : Environment) : Except SettingError Settings := do
  let defaults : Settings := {}
  let text := fun name fallback => (environment.nonempty? name).getD fallback
  let pairs ← pairsOf environment defaults.pairs
  let messageSeconds ← number environment "OKX_MESSAGE_TIMEOUT_S" (defaults.messageTimeout / 1000)
  let retrySeconds ← number environment "OKX_RETRY_DELAY_S" (defaults.retryDelay / 1000)
  let pacing ← number environment "OKX_SUBSCRIBE_PACING_MS" defaults.subscribePacing
  let runSeconds ← number environment "OKX_RUN_SECONDS" defaults.runSeconds
  return { defaults with
    pairs := pairs
    restUrl := text "OKX_REST_URL" defaults.restUrl
    streamUrl := text "OKX_WS_URL" defaults.streamUrl
    messageTimeout := millisOfSeconds messageSeconds
    retryDelay := millisOfSeconds retrySeconds
    subscribePacing := pacing
    runSeconds := runSeconds
    credentials :=
      { key := text "OKX_API_KEY" ""
        secret := text "OKX_API_SECRET" ""
        passphrase := text "OKX_API_PASSPHRASE" "" } }

end Settings

end SwapFeed
