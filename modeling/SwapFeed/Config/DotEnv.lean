import SwapFeed.Config.Environment
import SwapFeed.Config.FileTree
import SwapFeed.Text.Blank
import SwapFeed.Text.Split

/-!
# Dotenv files

A dotenv file defines one variable per line, `NAME=VALUE`.  Padding around name and value is
dropped, then one pair of quotes around the value.  Empty lines, lines that start with `#` and
lines without an equals sign define nothing.
-/

namespace SwapFeed.DotEnv

open SwapFeed.Text

/-- A value without the pair of like quotes around it. -/
def unquote (chars : List Char) : List Char :=
  match chars with
  | [] => []
  | [_] => chars
  | first :: rest =>
      if (first = '"' || first = '\'') && rest.getLast? = some first then rest.dropLast
      else chars

/-- The definition on a line. -/
def definition? (line : List Char) : Option (String × String) :=
  let line := trim line
  if line.head? = some '#' then none
  else
    match splitFirst? '=' line with
    | none => none
    | some (name, value) =>
        let name := trim name
        if name.isEmpty then none
        else some (String.ofList name, String.ofList (unquote (trim value)))

/-- The definitions of a file, in the order of its lines. -/
def entries (content : String) : List (String × String) :=
  (splitAll '\n' content.toList).filterMap definition?

/-- The content of the file at a path, or else at the same path in `backend`. -/
def find? (files : FileTree) (path : String) : Option String :=
  match files.read? path with
  | some content => some content
  | none => files.read? ("backend/" ++ path)

/-- Define the variables of a file that the environment does not set.  A missing file defines
nothing. -/
def load (files : FileTree) (path : String) (environment : Environment) : Environment :=
  match find? files path with
  | some content => environment.defineAll (entries content)
  | none => environment

/-- The path that is used when none is given. -/
def defaultPath : String := ".env"

end SwapFeed.DotEnv
