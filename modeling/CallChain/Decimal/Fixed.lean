import CallChain.Decimal.Shortest

/-!
# A fixed number of places

`fixed places x` writes the exact value of a double with so many digits after the point, a half
going to the even neighbour; `rounded places x` is the double nearest to that decimal.
-/

namespace CallChain.Decimal

/-- The size of a double in units of `10 ^ -places`. -/
def unitsOf (places : Nat) (b : Binary) : Nat :=
  let (num, den) := b.ratio
  roundDiv (num * Nat.pow 10 places) den

/-- A double with `places` digits after the point. -/
def fixed (places : Nat) (x : Float) : String :=
  match Binary.ofFloat? x with
  | none => render Layout.plain x
  | some b =>
    let digits := Nat.toDigits 10 (unitsOf places b)
    let padded := List.replicate (places + 1 - digits.length) '0' ++ digits
    let whole := padded.length - places
    (if b.negative then "-" else "") ++ String.ofList (padded.take whole) ++
      (if places = 0 then "" else "." ++ String.ofList (padded.drop whole))

/-- A double rounded to `places` digits after the point. -/
def rounded (places : Nat) (x : Float) : Float :=
  match Binary.ofFloat? x with
  | none => x
  | some b =>
    let size := nearest (unitsOf places b) (Nat.pow 10 places)
    if b.negative then -size else size

end CallChain.Decimal
