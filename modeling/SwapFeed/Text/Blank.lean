/-!
# Blanks

Two sets of characters count as blank.  Number readers skip *white space* in front of a numeral;
settings and pair lists drop *padding* around a name or value.
-/

namespace SwapFeed.Text

/-- White space in front of a numeral: space, tab, line feed, vertical tab, form feed and carriage
return. -/
def isWhite (char : Char) : Bool :=
  char = ' ' || ('\t' ≤ char && char ≤ '\r')

/-- Padding around names and values: space, tab and carriage return. -/
def isPadding (char : Char) : Bool :=
  char = ' ' || char = '\t' || char = '\r'

/-- A list of characters without the padding at its end. -/
def trimEnd (chars : List Char) : List Char :=
  (chars.reverse.dropWhile isPadding).reverse

/-- A list of characters without the padding at both ends. -/
def trim (chars : List Char) : List Char :=
  trimEnd (chars.dropWhile isPadding)

@[simp] theorem trim_nil : trim [] = [] := rfl

end SwapFeed.Text
