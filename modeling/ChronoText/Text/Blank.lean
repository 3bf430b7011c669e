/-! Blank characters: the characters with the `White_Space` property. Parsing skips them where a
style allows it, and a literal made of them alone counts as a space. -/

set_option autoImplicit false

namespace ChronoText.Text

/-- The code points with the `White_Space` property, as ranges with both ends included. -/
def blankRanges : List (Nat × Nat) :=
  [(0x09, 0x0d), (0x20, 0x20), (0x85, 0x85), (0xa0, 0xa0), (0x1680, 0x1680), (0x2000, 0x200a),
    (0x2028, 0x2029), (0x202f, 0x202f), (0x205f, 0x205f), (0x3000, 0x3000)]

def isBlank (c : Char) : Bool :=
  blankRanges.any fun range => range.1 ≤ c.toNat && c.toNat ≤ range.2

/-- The text without the blank characters it starts with. -/
def dropBlank (text : List Char) : List Char :=
  text.dropWhile isBlank

end ChronoText.Text
