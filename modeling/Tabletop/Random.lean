/-!
# The generator behind random terrain

A linear congruential generator on 64 bits. The same seed gives the same terrain on every machine
and in every replay.

* `next32` steps once and yields the high half of the state; `next64` joins two of them, the first
  one high.
* `Sampler` is what can draw from an interval. `nextFloat` does so by the 52 leading bits of a word.
-/

namespace Tabletop

structure Random where
  state : UInt64
deriving DecidableEq, Repr

namespace Random

def multiplier : UInt64 := 6364136223846793005
def increment : UInt64 := 1442695040888963407

def step (r : Random) : Random := ⟨r.state * multiplier + increment⟩

def next32 (r : Random) : UInt32 × Random :=
  let r := r.step
  ((r.state >>> 32).toUInt32, r)

def next64 (r : Random) : UInt64 × Random :=
  let (high, r) := r.next32
  let (low, r) := r.next32
  (high.toUInt64 <<< 32 ||| low.toUInt64, r)

/-- The four bytes of a word, lowest first. -/
def bytesOf (w : UInt32) : List UInt8 :=
  [w.toUInt8, (w >>> 8).toUInt8, (w >>> 16).toUInt8, (w >>> 24).toUInt8]

/-- As many bytes as asked for; what is left of the last word is dropped. -/
def nextBytes : (n : Nat) → Random → List UInt8 × Random
  | 0, r => ([], r)
  | 1, r => let (w, r) := r.next32; ((bytesOf w).take 1, r)
  | 2, r => let (w, r) := r.next32; ((bytesOf w).take 2, r)
  | 3, r => let (w, r) := r.next32; ((bytesOf w).take 3, r)
  | n + 4, r =>
    let (w, r) := r.next32
    let (rest, r) := nextBytes n r
    (bytesOf w ++ rest, r)

/-- The number from 1 up to 2 whose mantissa is the top of the word. -/
def fromOneToTwo (w : UInt64) : Float := Float.ofBits ((0x3FF0000000000000 : UInt64) ||| w >>> 12)

/-- A way to draw a number from an interval, given by its ends, with the words of a generator. -/
abbrev Sampler := (low high : Float) → Random → Float × Random

/-- One word is drawn, and its place between the ends is worked out with floating point numbers. -/
def nextFloat (low high : Float) (r : Random) : Float × Random :=
  let (w, r) := r.next64
  ((fromOneToTwo w - 1.0) * (high - low) + low, r)

end Random

end Tabletop
