/-!
# White space

The characters of the Unicode property `White_Space`, and a text without those at its two ends.
-/

namespace Tenancy.Text

/-- The code points of `White_Space`, as ranges of first and last. -/
def blankRanges : List (Nat × Nat) :=
  [(0x09, 0x0d), (0x20, 0x20), (0x85, 0x85), (0xa0, 0xa0), (0x1680, 0x1680), (0x2000, 0x200a),
    (0x2028, 0x2029), (0x202f, 0x202f), (0x205f, 0x205f), (0x3000, 0x3000)]

/-- Whether a character is white space. -/
def isBlank (c : Char) : Bool :=
  blankRanges.any fun r => r.1 ≤ c.toNat && c.toNat ≤ r.2

/-- The characters between the white space at the two ends. -/
def trim (cs : List Char) : List Char :=
  ((cs.dropWhile isBlank).reverse.dropWhile isBlank).reverse

@[simp]
theorem trim_nil : trim [] = [] := rfl

/-- The form in which a name of a closed list is looked up: without white space around it, and
with its ASCII letters in lower case. -/
def keyword (s : String) : String :=
  String.ofList ((trim s.toList).map Char.toLower)

end Tenancy.Text
