/-!
# Cutting text short

Texts that leave through a terminated buffer end at their first U+0000, and log lines quote only a
bounded beginning of a message.
-/

namespace SwapFeed.Text

/-- The text up to its first U+0000. -/
def beforeNul (text : String) : String :=
  String.ofList (text.toList.takeWhile (· ≠ '\x00'))

theorem beforeNul_append {first : String} (absent : '\x00' ∉ first.toList) (second : String) :
    beforeNul (first ++ second) = first ++ beforeNul second := by
  have others : ∀ char ∈ first.toList, (char ≠ '\x00' : Bool) = true := by
    intro char member
    have other : char ≠ '\x00' := fun same => absent (same ▸ member)
    simpa using other
  rw [beforeNul, String.toList_append, List.takeWhile_append_of_pos others, String.ofList_append,
    String.ofList_toList, beforeNul]

theorem beforeNul_of_not_mem {text : String} (absent : '\x00' ∉ text.toList) :
    beforeNul text = text := by
  have whole := beforeNul_append absent ""
  rwa [String.append_empty, show beforeNul "" = "" from rfl, String.append_empty] at whole

/-- The leading characters whose encodings fit into a number of bytes together. -/
def leadingChars : (bytes : Nat) → List Char → List Char
  | _, [] => []
  | bytes, char :: rest =>
      if char.utf8Size ≤ bytes then char :: leadingChars (bytes - char.utf8Size) rest else []

/-- The beginning of a text, at most so many bytes long. -/
def atMost (bytes : Nat) (text : String) : String :=
  String.ofList (leadingChars bytes text.toList)

/-- The decimal digits of a natural number, filled up with zeros in front to a width. -/
def zeroPadded (width value : Nat) : String :=
  let digits := toString value
  String.ofList (List.replicate (width - digits.length) '0') ++ digits

end SwapFeed.Text
