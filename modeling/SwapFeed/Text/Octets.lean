/-!
# Octets

Byte strings, as they are signed, encoded and sent.
-/

namespace SwapFeed

abbrev Octets := List UInt8

namespace Octets

/-- The octets of a text's encoding. -/
def ofText (text : String) : Octets := text.toUTF8.data.toList

/-- The text that octets encode, if they encode one. -/
def text? (octets : Octets) : Option String := String.fromUTF8? ⟨octets.toArray⟩

theorem text?_eq_some_iff {octets : Octets} {text : String} :
    octets.text? = some text ↔ octets = ofText text := by
  rw [text?, String.fromUTF8?]
  split
  · rw [Option.some_inj, ofText]
    constructor
    · rintro rfl
      rfl
    · rintro rfl
      rfl
  · next invalid =>
      constructor
      · nofun
      · rintro rfl
        exact (invalid text.isValidUTF8).elim

theorem ofText_append (front back : String) :
    ofText (front ++ back) = ofText front ++ ofText back := by
  simp [ofText]

end Octets

end SwapFeed
