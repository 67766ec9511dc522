/-!
# Blank characters and trimming

A *blank* is a character with the Unicode property `White_Space`. Flag values, bind addresses
and verbosity entries may be surrounded by blanks; `trim` removes them at both ends.
-/

namespace GatedManager.Text

/-- Whether the code point of `c` lies in one of the closed ranges. -/
def inRanges (ranges : List (Nat × Nat)) (c : Char) : Bool :=
  ranges.any fun r => r.1 ≤ c.toNat && c.toNat ≤ r.2

/-- The ranges of the property `White_Space`, ascending and apart. -/
def blankRanges : List (Nat × Nat) :=
  [(0x09, 0x0D), (0x20, 0x20), (0x85, 0x85), (0xA0, 0xA0), (0x1680, 0x1680), (0x2000, 0x200A),
   (0x2028, 0x2029), (0x202F, 0x202F), (0x205F, 0x205F), (0x3000, 0x3000)]

def isBlank (c : Char) : Bool := inRanges blankRanges c

/-- The text without its leading blanks. -/
def trimLeft (s : List Char) : List Char := s.dropWhile isBlank

/-- The text without the blanks at its two ends. -/
def trimChars (s : List Char) : List Char := (trimLeft (trimLeft s).reverse).reverse

def trim (s : String) : String := String.ofList (trimChars s.toList)

end GatedManager.Text
