import SwapFeed.Text.Cut

/-!
# Environment variables

An environment holds one value per name.  Names and values end at their first U+0000, and a name is
neither empty nor does it contain an equals sign.
-/

namespace SwapFeed

/-- The variables of an environment, in the order in which they were first set. -/
structure Environment where
  bindings : List (String × String) := []
  deriving DecidableEq, Inhabited, Repr

namespace Environment

open SwapFeed.Text

def get? (environment : Environment) (name : String) : Option String :=
  environment.bindings.lookup name

/-- The value of a variable, unless it is unset or empty. -/
def nonempty? (environment : Environment) (name : String) : Option String :=
  (environment.get? name).filter fun value => !value.isEmpty

/-- Whether a text can name a variable. -/
def isName (name : String) : Bool :=
  !name.isEmpty && !name.toList.contains '='

/-- Define a variable that is not set yet; one that is set keeps its value. -/
def define (environment : Environment) (name value : String) : Environment :=
  let name := beforeNul name
  if isName name && (environment.get? name).isNone then
    ⟨environment.bindings ++ [(name, beforeNul value)]⟩
  else environment

/-- Define variables one after the other. -/
def defineAll (environment : Environment) (entries : List (String × String)) : Environment :=
  entries.foldl (fun environment entry => environment.define entry.1 entry.2) environment

end Environment

end SwapFeed
