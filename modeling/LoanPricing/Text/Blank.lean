/-!
# White space — what is stripped around a credit score

The characters with the Unicode property `White_Space`, and stripping them from both ends.
-/

namespace LoanPricing.Text

/-- The characters with the property `White_Space`: six controls, the space, the no-break space,
and the typographic spaces and separators. -/
def isBlank (c : Char) : Bool :=
  let n := c.toNat
  (0x09 ≤ n && n ≤ 0x0D) || n == 0x20 || n == 0x85 || n == 0xA0 || n == 0x1680 ||
    (0x2000 ≤ n && n ≤ 0x200A) || n == 0x2028 || n == 0x2029 || n == 0x202F || n == 0x205F ||
    n == 0x3000

/-- The text without the white space at its end. -/
def dropBlanksRight (cs : List Char) : List Char :=
  (cs.reverse.dropWhile isBlank).reverse

/-- The text without the white space at either end. -/
def trim (cs : List Char) : List Char :=
  dropBlanksRight (cs.dropWhile isBlank)

@[simp] theorem trim_nil : trim [] = [] := rfl

end LoanPricing.Text
