import CallChain.Text.Words

/-!
# Texts that look alike

Two texts are compared by the characters they share in order: the longest common stretch, and then
the same on both sides of it.  Of several longest stretches the first counts.  `suggestions` are
the texts of a list that share at least three fifths with a word.
-/

namespace CallChain.Text

/-- How many characters two texts have in common at the front. -/
def commonFront : List Char → List Char → Nat
  | a :: as, b :: bs => if a = b then commonFront as bs + 1 else 0
  | _, _ => 0

/-- A stretch that two texts have in common: where it begins in each, and its length. -/
structure Stretch where
  first : Nat
  second : Nat
  size : Nat

/-- The longest common stretch; the earliest of several. -/
def longestStretch (a b : List Char) : Stretch :=
  let starts := (List.range a.length).flatMap fun i => (List.range b.length).map fun j => (i, j)
  starts.foldl (fun best (i, j) =>
    let size := commonFront (a.drop i) (b.drop j)
    if best.size < size then ⟨i, j, size⟩ else best) ⟨0, 0, 0⟩

/-- How many characters two texts share. -/
def shared : Nat → List Char → List Char → Nat
  | 0, _, _ => 0
  | fuel + 1, a, b =>
    let s := longestStretch a b
    if s.size = 0 then 0
    else s.size + shared fuel (a.take s.first) (b.take s.second) +
      shared fuel (a.drop (s.first + s.size)) (b.drop (s.second + s.size))

/-- The texts of a list that are most like a word, at most three, in their own order. -/
def suggestions (word : String) (texts : List String) : List String :=
  let score (t : String) : Nat × Nat :=
    (2 * shared (t.length + 1) t.toList word.toList, t.length + word.length)
  let close := texts.filter fun t => 3 * (score t).2 ≤ 5 * (score t).1
  let better (a b : String) : Bool :=
    let x := (score a).1 * (score b).2
    let y := (score b).1 * (score a).2
    y < x || (x == y && b < a)
  ((close.mergeSort better).take 3).mergeSort fun a b => !(b < a)

end CallChain.Text
