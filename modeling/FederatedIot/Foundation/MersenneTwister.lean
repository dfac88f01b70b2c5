import FederatedIot.Foundation.Recurrence
import Mathlib.Data.BitVec

namespace Foundation
namespace MersenneTwister

/-!
# The twister MT19937

Words of 32 bits.  A term of the sequence is the exclusive or of an earlier one with the
twist of two others, the upper bit of the one and the lower bits of the other.  The words
that are handed out are the terms after the initial ones, and they are tempered.
-/

abbrev Word := BitVec 32

/-- The upper bit of a word before the lower bits of another one, times a matrix. -/
def twist (upper lower : Word) : Word :=
  let joined := (upper &&& 0x80000000#32) ||| (lower &&& 0x7FFFFFFF#32)
  (joined >>> 1) ^^^ (if joined.getLsbD 0 then 0x9908B0DF#32 else 0#32)

/-- `x[k + 624] = x[k + 397] xor twist(x[k], x[k + 1])` -/
def recurrence : Recurrence Word where
  width := 624
  lag := 397
  wide := by decide
  inside := by decide
  next oldest following lagged := lagged ^^^ twist oldest following

/-- The terms before the recurrence applies. -/
def initial (seed : Word) : Nat -> Word
  | 0 => seed
  | index + 1 =>
      let previous := initial seed index
      1812433253#32 * (previous ^^^ (previous >>> 30)) + BitVec.ofNat 32 (index + 1)

def temper (word : Word) : Word :=
  let first := word ^^^ (word >>> 11)
  let second := first ^^^ ((first <<< 7) &&& 0x9D2C5680#32)
  let third := second ^^^ ((second <<< 15) &&& 0xEFC60000#32)
  third ^^^ (third >>> 18)

/-- The words that are handed out. -/
def output (seed : Word) (index : Nat) : Word :=
  temper (recurrence.term (initial seed) (624 + index))

end MersenneTwister
end Foundation
