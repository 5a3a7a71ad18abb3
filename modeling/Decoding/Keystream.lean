/-!
The stream of 32-bit words that a 64-bit seed stands for. A congruential generator
with a permuted output stretches the seed to a 256-bit key, and a ChaCha cipher of
twelve rounds turns key and block number into sixteen words at a time. The nonce is
zero and block numbers start at zero.
-/

namespace Decoding.Keystream

def rotateLeft (w n : UInt32) : UInt32 := (w <<< n) ||| (w >>> (32 - n))
def rotateRight (w n : UInt32) : UInt32 := (w >>> n) ||| (w <<< (32 - n))

/-- One turn of the congruential generator. -/
def advance (state : UInt64) : UInt64 :=
  state * 6364136223846793005 + 11634580027462260723

/-- The word that a state of the congruential generator gives out. -/
def permute (state : UInt64) : UInt32 :=
  rotateRight (((state >>> 18) ^^^ state) >>> 27).toUInt32 (state >>> 59).toUInt32

/-- The next `n` words of the congruential generator. -/
def stretch : Nat → UInt64 → List UInt32
  | 0, _ => []
  | n + 1, state => permute (advance state) :: stretch n (advance state)

abbrev Block := Vector UInt32 16

/-- Mix four of the sixteen words. -/
def quarterRound (a b c d : Fin 16) (x : Block) : Block :=
  let x := x.set a (x[a] + x[b])
  let x := x.set d (rotateLeft (x[d] ^^^ x[a]) 16)
  let x := x.set c (x[c] + x[d])
  let x := x.set b (rotateLeft (x[b] ^^^ x[c]) 12)
  let x := x.set a (x[a] + x[b])
  let x := x.set d (rotateLeft (x[d] ^^^ x[a]) 8)
  let x := x.set c (x[c] + x[d])
  x.set b (rotateLeft (x[b] ^^^ x[c]) 7)

/-- A round on the columns and a round on the diagonals. -/
def doubleRound (x : Block) : Block :=
  let x := quarterRound 0 4 8 12 x
  let x := quarterRound 1 5 9 13 x
  let x := quarterRound 2 6 10 14 x
  let x := quarterRound 3 7 11 15 x
  let x := quarterRound 0 5 10 15 x
  let x := quarterRound 1 6 11 12 x
  let x := quarterRound 2 7 8 13 x
  quarterRound 3 4 9 14 x

/-- The input of the cipher: four constants, the key, the block number and a zero nonce. -/
def initial (key : List UInt32) (number : UInt64) : Block :=
  let words := ([0x61707865, 0x3320646e, 0x79622d32, 0x6b206574] : List UInt32) ++ key ++
    [number.toUInt32, (number >>> 32).toUInt32, 0, 0]
  .ofFn fun i => words.getD i 0

def block (key : List UInt32) (number : UInt64) : Block :=
  let start := initial key number
  let mixed := Nat.repeat doubleRound 6 start
  .zipWith (· + ·) mixed start

/-- The first `n` words of the stream of a seed. -/
def words (seed : UInt64) (n : Nat) : List UInt32 :=
  let key := stretch 8 seed
  ((List.range ((n + 15) / 16)).flatMap fun i => (block key i.toUInt64).toList).take n

@[simp] theorem length_words (seed : UInt64) (n : Nat) : (words seed n).length = n := by
  simp only [words, List.length_take, List.length_flatMap, Vector.length_toList, List.map_const',
    List.length_range, List.sum_replicate_nat]
  omega

/-- A number in [0, 1) from the upper 23 bits of a word. -/
def unit (w : UInt32) : Float32 := .ofBits ((w >>> 9) ||| 0x3f800000) - 1.0

end Decoding.Keystream
