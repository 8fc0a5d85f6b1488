import DiceNotation.Source

/-!
# The Mersenne Twister as a source of points

The generator MT19937 of 32-bit words, seeded with a whole number by its 32-bit digits. A point of a die is drawn by
rejection: as many bits as the number of sides has, again and again until they make a number below it.
-/

namespace DiceNotation

/-- The 624 words of the generator and how many of them have been given out. -/
structure Twister where
  words : Vector UInt32 624
  used : Nat

namespace Twister

/-! ## Seeding -/

/-- The words that one number leads to. -/
def ofWord (seed : UInt32) : Vector UInt32 624 :=
  Nat.fold 623 (fun i h (words : Vector UInt32 624) =>
      let last := words.get ⟨i, by omega⟩
      let word := (1812433253 : UInt32) * (last ^^^ (last >>> 30)) + UInt32.ofNat (i + 1)
      words.set (i + 1) word (by omega))
    (Vector.replicate 624 seed)

/-- Mix a place with the place before it; the places after the first are gone through in a circle. -/
def mix (factor : UInt32) (change : UInt32 → UInt32) : Vector UInt32 624 × Fin 624 → Vector UInt32 624 × Fin 624
  | (words, i) =>
    let last := words.get ⟨i.val - 1, by omega⟩
    let words := words.set i (change (words[i] ^^^ ((last ^^^ (last >>> 30)) * factor)))
    if h : i.val + 1 < 624 then (words, ⟨i.val + 1, h⟩)
    else (words.set 0 (words[623]), 1)

/-- The words that a key leads to. -/
def ofKey (key : Array UInt32) : Vector UInt32 624 :=
  let first := Nat.fold (max 624 key.size) (fun k _ state =>
      let j := k % key.size
      mix 1664525 (fun w => w + key.getD j 0 + UInt32.ofNat j) state)
    (ofWord 19650218, 1)
  let second := Nat.fold 623 (fun _ _ state =>
      mix 1566083941 (fun w => w - UInt32.ofNat state.2.val) state)
    first
  second.1.set 0 0x80000000

/-- The digits of a number to the base `0x100000000`, the least significant first, at least one. -/
def digits (n : Nat) : List UInt32 :=
  if n < 0x100000000 then [UInt32.ofNat n] else UInt32.ofNat (n % 0x100000000) :: digits (n / 0x100000000)
termination_by n
decreasing_by exact Nat.div_lt_self (by omega) (by omega)

/-- The generator with a seed; its sign does not count. -/
def ofSeed (seed : Int) : Twister :=
  ⟨ofKey (digits seed.natAbs).toArray, 624⟩

/-! ## Bits -/

/-- The next 624 words. -/
def twist (words : Vector UInt32 624) : Vector UInt32 624 :=
  Nat.fold 624 (fun i h (words : Vector UInt32 624) =>
      let y := (words[i] &&& 0x80000000) ||| (words[(i + 1) % 624] &&& 0x7fffffff)
      let mask : UInt32 := if y &&& 1 = 0 then 0 else 0x9908b0df
      words.set i (words[(i + 397) % 624] ^^^ (y >>> 1) ^^^ mask))
    words

/-- A word as it is given out. -/
def temper (y : UInt32) : UInt32 :=
  let y := y ^^^ (y >>> 11)
  let y := y ^^^ ((y <<< 7) &&& 0x9d2c5680)
  let y := y ^^^ ((y <<< 15) &&& 0xefc60000)
  y ^^^ (y >>> 18)

/-- The next word. -/
def next (t : Twister) : UInt32 × Twister :=
  if h : t.used < 624 then (temper t.words[t.used], ⟨t.words, t.used + 1⟩)
  else
    let words := twist t.words
    (temper words[0], ⟨words, 1⟩)

/-- A number of so many bits. The words come least significant first, and of the last one the upper bits count. -/
def bits (t : Twister) (k : Nat) : Nat × Twister :=
  let (word, t) := t.next
  if k ≤ 32 then (word.toNat >>> (32 - k), t)
  else
    let (upper, t) := bits t (k - 32)
    (word.toNat + upper <<< 32, t)
termination_by k

/-- A number below `n`, by rejection. After as many rejections as there is fuel the bits are reduced modulo `n`. -/
def below (n : Nat) : Nat → Twister → Nat × Twister
  | 0, t =>
    let (r, t) := t.bits (n.log2 + 1)
    (r % n, t)
  | fuel + 1, t =>
    let (r, t) := t.bits (n.log2 + 1)
    if r < n then (r, t) else below n fuel t

/-- A point of a die is 1 more than a number below the number of sides. -/
instance : Source Twister where
  draw sides t :=
    let (r, t) := below sides.toNat 1000 t
    some (1 + r, t)

end Twister

end DiceNotation
