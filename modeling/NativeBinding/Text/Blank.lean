/-! White space as Unicode defines it, and what trimming and cutting at it leave. -/
namespace NativeBinding.Text

/-- The characters with the Unicode property White_Space. -/
def isBlank (c : Char) : Bool :=
  let n := c.toNat
  (9 ≤ n && n ≤ 13) || n == 0x20 || n == 0x85 || n == 0xA0 || n == 0x1680 ||
    (0x2000 ≤ n && n ≤ 0x200A) || n == 0x2028 || n == 0x2029 || n == 0x202F ||
    n == 0x205F || n == 0x3000

/-- A text without leading white space. -/
def trimStart (cs : List Char) : List Char := cs.dropWhile isBlank

/-- A text without trailing white space. -/
def trimEnd (cs : List Char) : List Char := (cs.reverse.dropWhile isBlank).reverse

/-- A text without white space at either end. -/
def trim (cs : List Char) : List Char := trimEnd (trimStart cs)

/-- True if nothing would be left of the text after trimming. -/
def isAllBlank (s : String) : Bool := s.toList.all isBlank

/-- The maximal runs free of white space, in order. -/
def words (cs : List Char) : List (List Char) :=
  (cs.splitOnP isBlank).filter (fun w => !w.isEmpty)

/-- True if the text holds the character that ends a native string. -/
def holdsNul (s : String) : Bool := s.toList.contains '\x00'

end NativeBinding.Text
