/-!
# ScriptScan.Text.Ranges

Sets of characters as ranges of code points.
-/

namespace ScriptScan.Text

/-- A set of characters: ranges of code points, each with its first and its last
one. -/
abbrev Ranges := List (Nat × Nat)

namespace Ranges

/-- Whether a character is in the set. -/
def contains (ranges : Ranges) (c : Char) : Bool :=
  ranges.any fun (first, last) => first ≤ c.toNat && c.toNat ≤ last

end Ranges

end ScriptScan.Text
