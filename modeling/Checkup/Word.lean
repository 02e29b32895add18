/-!
# Words

Numbers of lines, rows and columns, and anchors, are words of 64 bits.
-/

namespace Checkup

/-- The first number that is no word: two to the power of 64. -/
def wordLimit : Nat := 18446744073709551616

/-- Zero follows the last word. -/
def nextWord (word : Nat) : Nat := (word + 1) % wordLimit

end Checkup
