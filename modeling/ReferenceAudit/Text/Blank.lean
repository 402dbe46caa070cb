/-! # White space, and texts without it at their ends -/
namespace ReferenceAudit.Text

/-- White space, the four information separators and the no-break space included. -/
def isBlank (c : Char) : Bool :=
  let n := c.toNat
  (0x9 ≤ n && n ≤ 0xD) || (0x1C ≤ n && n ≤ 0x20) || n == 0x85 || n == 0xA0 || n == 0x1680 ||
    (0x2000 ≤ n && n ≤ 0x200A) || n == 0x2028 || n == 0x2029 || n == 0x202F || n == 0x205F || n == 0x3000

/-- The white space of the character database's property of that name: no information separators. -/
def isWhite (c : Char) : Bool := isBlank c && !(0x1C ≤ c.toNat && c.toNat ≤ 0x1F)

def trimEnd (blank : Char → Bool) (cs : List Char) : List Char := (cs.reverse.dropWhile blank).reverse

def trimBoth (blank : Char → Bool) (cs : List Char) : List Char := trimEnd blank (cs.dropWhile blank)

def trim (s : String) : String := String.ofList (trimBoth isBlank s.toList)

end ReferenceAudit.Text
