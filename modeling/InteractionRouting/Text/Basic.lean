/-!
# Characters and parts of a text

Properties of characters are given by tables of ranges of code points.  A text is trimmed of the
blanks at both its ends, or cut after so many bytes of its encoding in UTF-8.
-/

namespace InteractionRouting.Text

/-- Whether a code point lies in one of the ranges, each of which is given by its first and its last
code point. -/
def inRanges (n : Nat) (ranges : List (Nat × Nat)) : Bool :=
  ranges.any fun r => decide (r.1 ≤ n) && decide (n ≤ r.2)

/-! ### Blanks -/

/-- Whether a character is white space: the ASCII blanks from tab to carriage return, the
space, the next-line control, the no-break space and the space separators. -/
def isBlank (c : Char) : Bool :=
  (decide (0x9 ≤ c.toNat) && decide (c.toNat ≤ 0xd)) ||
  [0x20, 0x85, 0xa0, 0x1680, 0x2028, 0x2029, 0x202f, 0x205f, 0x3000].contains c.toNat ||
  (decide (0x2000 ≤ c.toNat) && decide (c.toNat ≤ 0x200a))

/-- A text without the blanks at its two ends. -/
def trimChars (cs : List Char) : List Char :=
  ((cs.dropWhile isBlank).reverse.dropWhile isBlank).reverse

/-- A text without the blanks at its two ends. -/
def trim (s : String) : String := String.ofList (trimChars s.toList)

/-- Whether a text holds nothing but blanks. -/
def allBlank (s : String) : Bool := s.toList.all isBlank

/-! ### Cutting by bytes

A character that the cut falls into is in neither part. -/

/-- The characters in the first `n` bytes of a text. -/
def takeBytes : Nat → List Char → List Char
  | _, [] => []
  | n, c :: cs => if c.utf8Size ≤ n then c :: takeBytes (n - c.utf8Size) cs else []

/-- The characters after the first `n` bytes of a text. -/
def dropBytes : Nat → List Char → List Char
  | 0, cs => cs
  | _ + 1, [] => []
  | n + 1, c :: cs => dropBytes (n + 1 - c.utf8Size) cs

end InteractionRouting.Text
