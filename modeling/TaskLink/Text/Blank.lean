/-!
# Blank characters

The characters with the Unicode property `White_Space`, and the text left
when they are removed from both ends.
-/

namespace TaskLink

/-- Code point ranges of the blank characters, both ends included. -/
def blankRanges : List (Nat × Nat) :=
  [(0x09, 0x0D), (0x20, 0x20), (0x85, 0x85), (0xA0, 0xA0), (0x1680, 0x1680),
   (0x2000, 0x200A), (0x2028, 0x2029), (0x202F, 0x202F), (0x205F, 0x205F),
   (0x3000, 0x3000)]

def isBlank (c : Char) : Bool :=
  blankRanges.any fun (first, last) => first ≤ c.toNat && c.toNat ≤ last

def trimChars (text : List Char) : List Char :=
  ((text.dropWhile isBlank).reverse.dropWhile isBlank).reverse

def trimBlank (text : String) : String :=
  String.ofList (trimChars text.toList)

def allBlank (text : String) : Bool :=
  text.toList.all isBlank

end TaskLink
