/-!
# Blocks of characters

A class of characters is given by blocks of code points, each by its first and its last.
-/

namespace DigitRace.Text

/-- Blocks of code points. -/
abbrev Blocks := List (Nat × Nat)

/-- Whether a character lies in one of the blocks. -/
def Blocks.cover (blocks : Blocks) (c : Char) : Bool :=
  blocks.any fun (first, last) => first ≤ c.toNat && c.toNat ≤ last

end DigitRace.Text
