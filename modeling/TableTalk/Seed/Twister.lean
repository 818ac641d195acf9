/-!
# TableTalk.Seed.Twister

The Mersenne Twister on words of 32 bits, started from an integer, as a source of numbers that are
as good as random and yet the same on every run.
-/

namespace TableTalk

/-- The 624 words of a generator, and how many of them have been given out. -/
structure Twister where
  words : Array UInt32
  given : Nat

namespace Twister

def size : Nat := 624

/-- A word mixed with its own upper bits. -/
def stir (w : UInt32) : UInt32 :=
  w ^^^ (w >>> 30)

def wordAt (words : Array UInt32) (i : Nat) : UInt32 :=
  words.getD i 0

/-- The words that grow out of a single one. -/
def spread (first : UInt32) : Array UInt32 :=
  let step (words : Array UInt32) : Array UInt32 :=
    words.push (1812433253 * stir (wordAt words (words.size - 1)) + UInt32.ofNat words.size)
  Nat.repeat step (size - 1) #[first]

/-- The words with a new value at a position of which the value before it is known; the last value
is also the one before the first. -/
def place (words : Array UInt32) (i : Nat) (w : UInt32) : Array UInt32 × Nat :=
  let words := words.setIfInBounds i w
  if i + 1 < size then (words, i + 1) else (words.setIfInBounds 0 w, 1)

def mixKey (key : Array UInt32) (state : (Array UInt32 × Nat) × Nat) :
    (Array UInt32 × Nat) × Nat :=
  let ((words, i), j) := state
  let mixed := wordAt words i ^^^ (stir (wordAt words (i - 1)) * 1664525)
  let w := mixed + wordAt key j + UInt32.ofNat j
  (place words i w, if j + 1 < key.size then j + 1 else 0)

def mixPosition (state : Array UInt32 × Nat) : Array UInt32 × Nat :=
  let (words, i) := state
  place words i ((wordAt words i ^^^ (stir (wordAt words (i - 1)) * 1566083941)) - UInt32.ofNat i)

/-- The generator started from a key of at least one word. -/
def ofKey (key : Array UInt32) : Twister :=
  let keyed := Nat.repeat (mixKey key) (max size key.size) ((spread 19650218, 1), 0)
  let (words, _) := Nat.repeat mixPosition (size - 1) keyed.1
  ⟨words.setIfInBounds 0 0x80000000, size⟩

/-- The words of a natural number, the lowest first; zero has one word. -/
def keyOf (n : Nat) : List UInt32 :=
  if n < 0x100000000 then [UInt32.ofNat n]
  else UInt32.ofNat (n % 0x100000000) :: keyOf (n / 0x100000000)
termination_by n
decreasing_by omega

/-- The generator started from an integer, whose sign does not matter. -/
def ofSeed (seed : Int) : Twister :=
  ofKey (keyOf seed.natAbs).toArray

def twistAt (words : Array UInt32) (i : Nat) : Array UInt32 :=
  let joined := (wordAt words i &&& 0x80000000) ||| (wordAt words ((i + 1) % size) &&& 0x7fffffff)
  let mask : UInt32 := if joined &&& 1 = 0 then 0 else 0x9908b0df
  words.setIfInBounds i (wordAt words ((i + 397) % size) ^^^ (joined >>> 1) ^^^ mask)

def twist (words : Array UInt32) : Array UInt32 :=
  (List.range size).foldl twistAt words

/-- A word as it is given out. -/
def temper (w : UInt32) : UInt32 :=
  let w := w ^^^ (w >>> 11)
  let w := w ^^^ ((w <<< 7) &&& 0x9d2c5680)
  let w := w ^^^ ((w <<< 15) &&& 0xefc60000)
  w ^^^ (w >>> 18)

/-- The next word, and the generator behind it. -/
def next (t : Twister) : UInt32 × Twister :=
  if t.given < size then (temper (wordAt t.words t.given), { t with given := t.given + 1 })
  else
    let words := twist t.words
    (temper (wordAt words 0), ⟨words, 1⟩)

-- A number below a thousand: the ten upper bits of the first word for which they are one.
def drawFrom : Nat → Twister → Nat × Twister
  | 0, t => (0, t)
  | fuel + 1, t =>
    let (w, t') := t.next
    let k := (w >>> 22).toNat
    if k < 1000 then (k, t') else drawFrom fuel t'

/-- The most words that a draw takes. The uppermost bits of the words form a linear sequence that is
settled by all bits of a generator, and at most as many ones follow each other in it. -/
def mostWords : Nat := 32 * size + 1

/-- The next number below a thousand, and the generator behind it. -/
def draw (t : Twister) : Nat × Twister :=
  drawFrom mostWords t

end Twister

end TableTalk
