import SwapFeed.Text.Blank
import SwapFeed.Text.Split

/-!
# Lists of trading pairs

Pairs are separated by commas; padding around a pair and empty pairs are dropped.  A list is read
comma by comma, and what stands behind its last comma is a piece of it like the others.
-/

namespace SwapFeed.PairList

open SwapFeed.Text

/-- The pairs found so far and the one in a further piece, if the piece is not blank. -/
def add (found : Array String) (piece : List Char) : Array String :=
  let pair := trim piece
  if pair.isEmpty then found else found.push (String.ofList pair)

/-- The pairs found so far and those in the text ahead. -/
def collect (found : Array String) (ahead : List Char) : Array String :=
  match _ : splitFirst? ',' ahead with
  | none => add found ahead
  | some (piece, behind) => collect (add found piece) behind
termination_by ahead.length
decreasing_by exact length_lt_of_splitFirst? ‹_›

/-- The pairs of a list, in order and with repetitions. -/
def read (line : String) : List String :=
  (collect #[] line.toList).toList

end SwapFeed.PairList
