import FunctionBindings.Text.Range

/-!
# Blank characters

The characters with the Unicode property White_Space. A text is blank if it has no others.
-/

namespace FunctionBindings.Text

/-- The characters with the property White_Space. -/
def blankRanges : Ranges :=
  [(0x9, 0xd), (0x20, 0x20), (0x85, 0x85), (0xa0, 0xa0), (0x1680, 0x1680), (0x2000, 0x200a),
   (0x2028, 0x2029), (0x202f, 0x202f), (0x205f, 0x205f), (0x3000, 0x3000)]

/-- True of a white-space character. -/
def isBlankChar (c : Char) : Bool :=
  blankRanges.contains c.toNat

/-- True of a text without any character that is not white space. -/
def isBlank (text : String) : Bool :=
  text.toList.all isBlankChar

/-- The empty text is blank. -/
example : isBlank "" = true := by decide

end FunctionBindings.Text
