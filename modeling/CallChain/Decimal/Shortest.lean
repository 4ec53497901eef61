import CallChain.Decimal.Binary

/-!
# The shortest decimal that reads back

A double stands for every real number that is nearer to it than to its neighbours, ends
included when its mantissa is even.  Of the decimals in that interval the one with the fewest
digits is written, and of those the one nearest to the double.  On the grid of `n` digits only
the two grid points around the double need a look, so `n` runs from 1 to 17 and the first grid
with a hit wins.
-/

namespace CallChain.Decimal

/-- A positive decimal `digits * 10 ^ exponent`. -/
structure Scientific where
  digits : Nat
  exponent : Int

/-- The exponent of the first digit: the greatest `e` with `10 ^ e * den ≤ num`, found by
correcting the guess `e`. -/
def leadingExponent (num den : Nat) : Nat → Int → Int
  | 0, e => e
  | fuel + 1, e =>
    let below : Bool := if 0 ≤ e then den * Nat.pow 10 e.toNat ≤ num else den ≤ num * Nat.pow 10 (-e).toNat
    let next := e + 1
    let above : Bool :=
      if 0 ≤ next then den * Nat.pow 10 next.toNat ≤ num else den ≤ num * Nat.pow 10 (-next).toNat
    if !below then leadingExponent num den fuel (e - 1)
    else if above then leadingExponent num den fuel next
    else e

/-- Drops the zeros at the end of the digits. -/
def Scientific.trim : Nat → Scientific → Scientific
  | 0, s => s
  | fuel + 1, s =>
    if s.digits ≠ 0 ∧ s.digits % 10 = 0 then trim fuel ⟨s.digits / 10, s.exponent + 1⟩ else s

/-- Tries the grids of `n`, `n + 1`, … digits.  The double is `num / den`, the interval of what
reads back as it is `low / den` to `high / den`. -/
def firstHit (num den low high : Nat) (closed : Bool) (first : Int) : Nat → Nat → Scientific
  | 0, _ => ⟨0, 0⟩
  | fuel + 1, n =>
    let unit : Int := first - n + 1
    -- everything over the common denominator `den * grid`
    let (num', low', high', step) :=
      if 0 ≤ unit then (num, low, high, den * Nat.pow 10 unit.toNat)
      else
        let grid := Nat.pow 10 (-unit).toNat
        (num * grid, low * grid, high * grid, den)
    let under := num' / step
    let inside (k : Nat) : Bool :=
      let at' := k * step
      if closed then low' ≤ at' && at' ≤ high' else low' < at' && at' < high'
    let gapUnder := num' - under * step
    let gapOver := (under + 1) * step - num'
    match inside under, inside (under + 1) with
    | true, true =>
      if gapUnder < gapOver ∨ (gapUnder = gapOver ∧ under % 2 = 0) then ⟨under, unit⟩
      else ⟨under + 1, unit⟩
    | true, false => ⟨under, unit⟩
    | false, true => ⟨under + 1, unit⟩
    | false, false => firstHit num den low high closed first fuel (n + 1)

/-- The shortest decimal that reads back as a positive double. -/
def shortest (b : Binary) : Scientific :=
  -- four times the mantissa, so that the ends of the interval are whole
  let (scaleNum, den) := Binary.ratio ⟨false, 1, b.exponent - 2⟩
  let num := 4 * b.mantissa * scaleNum
  let below := if b.mantissa = Nat.pow 2 52 ∧ -1074 < b.exponent then 1 else 2
  let low := (4 * b.mantissa - below) * scaleNum
  let high := (4 * b.mantissa + 2) * scaleNum
  let guess : Int := ((num.log2 : Int) - den.log2) * 30103 / 100000
  let first := leadingExponent num den 8 guess
  (firstHit num den low high (b.mantissa % 2 == 0) first 18 1).trim 20

/-- How a number is laid out around its digits. -/
structure Layout where
  /-- The exponents of the first digit that are written without an exponent. -/
  positional : Int × Int
  infinite : String
  undefined : String

/-- Numbers from `0.0001` up to sixteen digits before the point are written in full. -/
def Layout.plain : Layout := ⟨(-4, 15), "inf", "nan"⟩

/-- The same, with the spellings that a data file uses. -/
def Layout.data : Layout := ⟨(-4, 15), "Infinity", "NaN"⟩

/-- Digits with a point after the first `whole` of them, at least one digit on each side. -/
def withPoint (digits : List Char) (whole : Int) : String :=
  if whole ≤ 0 then
    "0." ++ String.ofList (List.replicate (-whole).toNat '0' ++ digits)
  else
    let padded := digits ++ List.replicate (whole.toNat - digits.length) '0'
    let after := padded.drop whole.toNat
    String.ofList (padded.take whole.toNat) ++ "." ++
      (if after.isEmpty then "0" else String.ofList after)

/-- A decimal in the given layout. -/
def Scientific.render (layout : Layout) (s : Scientific) : String :=
  let digits := Nat.toDigits 10 s.digits
  let first : Int := s.exponent + digits.length - 1
  if layout.positional.1 ≤ first ∧ first ≤ layout.positional.2 then withPoint digits (first + 1)
  else
    let mantissa := match digits with
      | [] => "0"
      | [d] => String.singleton d
      | d :: rest => String.ofList (d :: '.' :: rest)
    let power := toString first.natAbs
    mantissa ++ "e" ++ (if first < 0 then "-" else "+") ++ (if power.length < 2 then "0" else "") ++ power

/-- A double as text. -/
def render (layout : Layout) (x : Float) : String :=
  match Binary.ofFloat? x with
  | none =>
    if x.isNaN then layout.undefined
    else if isNegative x then "-" ++ layout.infinite
    else layout.infinite
  | some b =>
    let sign := if b.negative then "-" else ""
    if b.mantissa = 0 then sign ++ "0.0" else sign ++ (shortest b).render layout

end CallChain.Decimal
