/-!
# Character classes as ranges

A class of characters is a list of closed ranges of code points in ascending order.
-/

namespace TemplateLint.Text

/-- Whether a code point lies in one of the ranges of an ascending list. The search stops at the
first range that starts beyond the code point. -/
def inRanges : List (Nat × Nat) → Nat → Bool
  | [], _ => false
  | (first, last) :: ranges, n =>
    if n < first then false else if n ≤ last then true else inRanges ranges n

end TemplateLint.Text
