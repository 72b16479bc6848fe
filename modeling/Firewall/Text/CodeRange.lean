/-!
# Ranges of code points

A set of characters given as a list of ranges of code points, both ends included.
-/

namespace Firewall.Text

/-- The code points from `first` to `last`. -/
structure CodeRange where
  first : Nat
  last : Nat

namespace CodeRange

/-- Whether the range holds `c`. -/
def contains (r : CodeRange) (c : Char) : Bool := r.first ≤ c.toNat && c.toNat ≤ r.last

def covers (rs : List CodeRange) (c : Char) : Bool := rs.any fun r => r.contains c

end CodeRange

end Firewall.Text
