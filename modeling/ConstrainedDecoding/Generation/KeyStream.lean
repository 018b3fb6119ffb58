/-!
Pseudo-random words. They are the key stream of the ChaCha cipher with twelve rounds, and a
congruential generator makes its key from a seed.
-/

namespace ConstrainedDecoding.KeyStream

/-- The words that the rounds of the cipher work on. -/
abbrev Block := Vector UInt32 16

def rotateLeft (x : UInt32) (n : UInt32) : UInt32 := x <<< n ||| x >>> (32 - n)

/-- Add a word to a second one and mix the sum into a third. -/
def mix (target source mixed : Fin 16) (n : UInt32) (x : Block) : Block :=
  let x := x.set target (x[target] + x[source])
  x.set mixed (rotateLeft (x[mixed] ^^^ x[target]) n)

def quarterRound (x : Block) (a b c d : Fin 16) : Block :=
  mix c d b 7 (mix a b d 8 (mix c d b 12 (mix a b d 16 x)))

/-- The quarters of one round over the columns and one over the diagonals. -/
def quarters : List (Fin 16 × Fin 16 × Fin 16 × Fin 16) :=
  [(0, 4, 8, 12), (1, 5, 9, 13), (2, 6, 10, 14), (3, 7, 11, 15),
    (0, 5, 10, 15), (1, 6, 11, 12), (2, 7, 8, 13), (3, 4, 9, 14)]

def doubleRound (x : Block) : Block :=
  quarters.foldl (fun x (a, b, c, d) => quarterRound x a b c d) x

abbrev Key := Vector UInt32 8

/-- The state of the congruential generator after one more step. -/
def step (state : UInt64) : UInt64 := state * 6364136223846793005 + 11634580027462260723

/-- The word that is drawn from a state: its upper bits, turned by the uppermost ones. -/
def output (state : UInt64) : UInt32 :=
  let word := (((state >>> 18) ^^^ state) >>> 27).toUInt32
  let turn := (state >>> 59).toUInt32
  word >>> turn ||| word <<< ((32 - turn) % 32)

/-- Words drawn one after the other. -/
def draws : (count : Nat) → UInt64 → List UInt32
  | 0, _ => []
  | count + 1, state => output (step state) :: draws count (step state)

def Key.ofSeed (seed : UInt64) : Key := Vector.ofFn fun i => (draws 8 seed).getD i 0

/-- What the cipher starts from: four fixed words, the key, the number of the block and two zeros.
-/
def input (key : Key) (number : UInt64) : Block :=
  #v[0x61707865, 0x3320646e, 0x79622d32, 0x6b206574, key[0], key[1], key[2], key[3], key[4],
    key[5], key[6], key[7], number.toUInt32, (number >>> 32).toUInt32, 0, 0]

def block (key : Key) (number : UInt64) : Block :=
  let x := input key number
  x.zipWith (· + ·) (Nat.repeat doubleRound 6 x)

/-- So many words of the stream of a seed, after the first `start` ones. -/
def words (seed : UInt64) (start count : Nat) : List UInt32 :=
  let key := Key.ofSeed seed
  let first := start / 16
  let blocks := List.range' first ((start + count) / 16 + 1 - first)
  ((blocks.flatMap fun number => (block key number.toUInt64).toList).drop (start % 16)).take count

end ConstrainedDecoding.KeyStream
