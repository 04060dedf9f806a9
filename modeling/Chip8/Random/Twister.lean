/-!
# Mersenne twister

The generator MT19937: a state of 624 words that is renewed as a whole when it is used up.  It is
seeded from the thirty-two bit words of a number, least significant first.
-/
namespace Chip8

/-- The state of the generator, and how many of its words have been used. -/
structure Twister where
  words : Vector UInt32 624
  used : Nat

namespace Twister

/-- The word at a place, counted around the state. -/
def word (w : Vector UInt32 624) (i : Nat) : UInt32 :=
  have : i % 624 < 624 := Nat.mod_lt _ (by decide)
  w[i % 624]

/-- Replaces the word at a place, counted around the state. -/
def put (w : Vector UInt32 624) (i : Nat) (x : UInt32) : Vector UInt32 624 :=
  w.setIfInBounds (i % 624) x

/-- The word mixed with itself shifted by thirty bits. -/
def fold30 (x : UInt32) : UInt32 := x ^^^ (x >>> 30)

/-- The state that grows from a single word. -/
def expand (seed : UInt32) : Vector UInt32 624 :=
  (List.range 623).foldl
    (fun w i => put w (i + 1) (1812433253 * fold30 (word w i) + UInt32.ofNat (i + 1)))
    (put (Vector.replicate 624 0) 0 seed)

/-- One round of mixing the seed words in, from place `i` of the state and `j` of the seed. -/
def mixIn (key : Array UInt32) : Nat → Vector UInt32 624 → Nat → Nat → Vector UInt32 624 × Nat
  | 0, w, i, _ => (w, i)
  | rounds + 1, w, i, j =>
    let x := (word w i ^^^ (fold30 (word w (i - 1)) * 1664525)) + key.getD j 0 + UInt32.ofNat j
    let w := put w i x
    let (w, i) := if i + 1 ≥ 624 then (put w 0 (word w 623), 1) else (w, i + 1)
    mixIn key rounds w i (if j + 1 ≥ key.size then 0 else j + 1)

/-- The closing rounds, which use the places alone. -/
def mixOut : Nat → Vector UInt32 624 → Nat → Vector UInt32 624
  | 0, w, _ => w
  | rounds + 1, w, i =>
    let x := (word w i ^^^ (fold30 (word w (i - 1)) * 1566083941)) - UInt32.ofNat i
    let w := put w i x
    let (w, i) := if i + 1 ≥ 624 then (put w 0 (word w 623), 1) else (w, i + 1)
    mixOut rounds w i

/-- The thirty-two bit words of a number, least significant first; zero has one word. -/
def seedWords (n : Nat) : List UInt32 :=
  if n < 0x100000000 then [UInt32.ofNat n]
  else UInt32.ofNat (n % 0x100000000) :: seedWords (n / 0x100000000)
termination_by n
decreasing_by omega

/-- The generator started from the size of a number. -/
def seeded (seed : Int) : Twister :=
  let key := (seedWords seed.natAbs).toArray
  let (w, i) := mixIn key (max 624 key.size) (expand 19650218) 1 0
  ⟨put (mixOut 623 w i) 0 0x80000000, 624⟩

/-- The state with every word renewed. -/
def renew (w : Vector UInt32 624) : Vector UInt32 624 :=
  (List.range 624).foldl
    (fun w i =>
      let y := (word w i &&& 0x80000000) ||| (word w (i + 1) &&& 0x7FFFFFFF)
      let mask : UInt32 := if y &&& 1 = 1 then 0x9908B0DF else 0
      put w i (word w (i + 397) ^^^ (y >>> 1) ^^^ mask))
    w

/-- A word of the state with its bits spread. -/
def temper (y : UInt32) : UInt32 :=
  let y := y ^^^ (y >>> 11)
  let y := y ^^^ ((y <<< 7) &&& 0x9D2C5680)
  let y := y ^^^ ((y <<< 15) &&& 0xEFC60000)
  y ^^^ (y >>> 18)

/-- The next thirty-two random bits. -/
def next (t : Twister) : UInt32 × Twister :=
  let t := if t.used < 624 then t else ⟨renew t.words, 0⟩
  (temper (word t.words t.used), ⟨t.words, t.used + 1⟩)

/-- Draws nine bits until they are below 256, at most `tries` times. -/
def byteWithin : Nat → Twister → UInt8 × Twister
  | 0, t => (0, t)
  | tries + 1, t =>
    let (x, t) := t.next
    let bits := x >>> 23
    if bits < 256 then (bits.toUInt8, t) else byteWithin tries t

/-- A random byte.  Half of the draws are refused, so the bound on their number is never met. -/
def byte (t : Twister) : UInt8 × Twister := byteWithin 100000 t

end Twister
end Chip8
