/-!
# Doubles as exact fractions

A finite double is `mantissa * 2 ^ exponent`.  `Binary.ofFloat?` takes a double apart,
`nearest` finds the double next to a fraction of natural numbers, a tie going to the even
mantissa.  Everything between is exact arithmetic on natural numbers.
-/

namespace CallChain.Decimal

/-- The quotient rounded to the nearest natural number, a half going to the even neighbour. -/
def roundDiv (num den : Nat) : Nat :=
  let quotient := num / den
  let twice := 2 * (num % den)
  if twice < den then quotient
  else if den < twice then quotient + 1
  else if quotient % 2 = 0 then quotient
  else quotient + 1

/-- A finite double: its sign, and its size as a mantissa times a power of two. -/
structure Binary where
  negative : Bool
  mantissa : Nat
  exponent : Int

namespace Binary

/-- Takes a double apart; infinities and undefined values have no such form. -/
def ofFloat? (x : Float) : Option Binary :=
  let bits : Nat := x.toBits.toNat
  let negative := bits / Nat.pow 2 63 == 1
  let biased : Nat := bits / Nat.pow 2 52 % Nat.pow 2 11
  let fraction : Nat := bits % Nat.pow 2 52
  if biased = 2047 then none
  else if biased = 0 then some ⟨negative, fraction, -1074⟩
  else some ⟨negative, fraction + Nat.pow 2 52, (biased : Int) - 1075⟩

/-- The size as a fraction. -/
def ratio (b : Binary) : Nat × Nat :=
  if 0 ≤ b.exponent then (b.mantissa * Nat.pow 2 b.exponent.toNat, 1)
  else (b.mantissa, Nat.pow 2 (-b.exponent).toNat)

end Binary

/-- Whether a double is negative or a negative zero. -/
def isNegative (x : Float) : Bool := x.toBits.toNat / Nat.pow 2 63 == 1

/-- The double nearest to `num / den`, which may be infinite. -/
def nearest (num den : Nat) : Float :=
  if num = 0 ∨ den = 0 then 0.0
  else
    let rough : Int := (num.log2 : Int) - den.log2 - 52
    let scaled (e : Int) : Nat × Nat :=
      if 0 ≤ e then (num, den * Nat.pow 2 e.toNat) else (num * Nat.pow 2 (-e).toNat, den)
    let fits (e : Int) : Bool := let (n, d) := scaled e; d * Nat.pow 2 52 ≤ n
    let e := if fits rough then rough else rough - 1
    let e := if e < -1074 then -1074 else e
    let (n, d) := scaled e
    let q := roundDiv n d
    let (q, e) := if q = Nat.pow 2 53 then (Nat.pow 2 52, e + 1) else (q, e)
    if 971 < e then Float.ofBits 0x7FF0000000000000
    else if q < Nat.pow 2 52 then Float.ofBits q.toUInt64
    else Float.ofBits ((e + 1075).toNat * Nat.pow 2 52 + (q - Nat.pow 2 52)).toUInt64

/-- The double nearest to `digits * 10 ^ exponent`. -/
def ofDigits (digits : Nat) (exponent : Int) : Float :=
  let size := (Nat.toDigits 10 digits).length
  if digits = 0 then 0.0
  else if 400 < (size : Int) + exponent then Float.ofBits 0x7FF0000000000000
  else if (size : Int) + exponent < -400 then 0.0
  else if 0 ≤ exponent then nearest (digits * Nat.pow 10 exponent.toNat) 1
  else nearest digits (Nat.pow 10 (-exponent).toNat)

end CallChain.Decimal
