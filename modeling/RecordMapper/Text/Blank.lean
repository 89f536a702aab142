/-!
# Blank characters

* `Text.blankRanges`: the characters of the Unicode property `White_Space`.
* `Text.isBlank`: whether a text holds no other characters.
-/

namespace RecordMapper.Text

/-- The code points of the property `White_Space`, as ranges with both ends, in ascending order. -/
def blankRanges : List (Nat × Nat) :=
  [(0x09, 0x0d), (0x20, 0x20), (0x85, 0x85), (0xa0, 0xa0), (0x1680, 0x1680), (0x2000, 0x200a),
    (0x2028, 0x2029), (0x202f, 0x202f), (0x205f, 0x205f), (0x3000, 0x3000)]

/-- Whether a character has the property `White_Space`. -/
def isBlankChar (c : Char) : Bool :=
  blankRanges.any fun range => range.1 ≤ c.toNat && c.toNat ≤ range.2

def isBlank (text : String) : Bool :=
  text.toList.all isBlankChar

end RecordMapper.Text
