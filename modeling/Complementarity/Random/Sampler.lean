import Complementarity.Random.Keystream

/-!
Random numbers from closed ranges.

A sampler answers by the number of the sample, so problems made from it do not depend on the order in
which their entries are drawn.
-/

namespace Complementarity

/-- The sample with a number, from the range between two bounds. -/
abbrev Sampler (R : Type) := Nat → R → R → R

namespace Sampler

/-- The largest number that is drawn before scaling. -/
def largest : Float := 1.0 - 2.220446049250313e-16

/-- The binary64 number below a positive one. -/
def below (x : Float) : Float :=
  Float.ofBits (x.toBits - 1)

/-- The scale, lowered until no sample exceeds the upper bound, as far as the fuel lasts. -/
def fitScale (lo hi : Float) : Nat → Float → Float
  | 0, scale => scale
  | fuel + 1, scale =>
    if hi < scale * largest + lo then fitScale lo hi fuel (below scale) else scale

/-- The factor between a number below one and its place in the range. -/
def scale (lo hi : Float) : Float :=
  fitScale lo hi 64 ((hi - lo) / largest)

/-- The random number below one that 52 bits of a word stand for. -/
def fraction (word : UInt64) : Float :=
  (word >>> 12).toFloat / 4503599627370496

/-- The samples that belong to a seed. -/
def ofSeed (seed : UInt64) : Sampler Float :=
  let key := Keystream.keyOf seed
  fun k lo hi => fraction (Keystream.doubleWord key k) * scale lo hi + lo

end Sampler

end Complementarity
