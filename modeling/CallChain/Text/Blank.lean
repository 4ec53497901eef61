/-!
# Blanks

The characters that are trimmed from the ends of a text: ASCII blanks, line ends and the four
information separators, the next-line and no-break characters, and the blanks of Unicode.
A zero-width space is not one of them.
-/

namespace CallChain.Text

/-- Whether a code point is trimmed from the ends of a text. -/
def isBlank (point : Nat) : Bool :=
  (9 ≤ point ∧ point ≤ 13) ∨ (28 ≤ point ∧ point ≤ 32) ∨ point = 0x85 ∨ point = 0xA0 ∨
    point = 0x1680 ∨ (0x2000 ≤ point ∧ point ≤ 0x200A) ∨ point = 0x2028 ∨ point = 0x2029 ∨
    point = 0x202F ∨ point = 0x205F ∨ point = 0x3000

/-- Drops what satisfies `p` from both ends. -/
def trimBy {α : Type} (p : α → Bool) (items : List α) : List α :=
  ((items.dropWhile p).reverse.dropWhile p).reverse

/-- A text without the blanks at its ends. -/
def trim (text : String) : String :=
  String.ofList (trimBy (fun c => isBlank c.toNat) text.toList)

/-- Whether nothing but blanks is written. -/
def isAllBlank (text : String) : Bool :=
  text.toList.all fun c => isBlank c.toNat

end CallChain.Text
