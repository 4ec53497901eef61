import CallChain.Text.Ranges

/-!
# Letters and digits

`isAlphanumeric` is the property "letter, or a character with a numeric reading", for all
scripts.  Below 128 it is decided by comparison, above by a table.  `decimalValue?` reads a
decimal digit of any script.
-/

namespace CallChain.Text

/-- Letters of every script together with decimal digits, other digits and numerals. -/
def alphanumeric : Ranges := Ranges.ofGaps (String.join [
    "1c a 7 q 6 q 1b 1 7 2 1 1 3 2 1 3 1 n 1 v 1 cq 4 c e 5 7 1 1 1 3l 5 1 2 2 4 1 1 6 1 1 3 1 ",
    "1 1 k 1 2b 1 3v 8 4m 1 12 2 1 6 15 1z r 4 4 19 17 l a 4 2 1 2r 1 1 f 2 7 f 2 1 g 1 1 u t ",
    "2h b 1 e 17 9 2 4 1 5 m 4 1 9 1 3 1 n p 7 b 5 o 1 6 h 16 1m 1i 3 1 i 1 7 a 4 a 1 g 4 8 2 ",
    "2 2 m 1 7 1 1 3 4 3 1 g 1 d 2 1 3 4 c 2 6 2 1 8 6 4 2 2 m 1 7 1 2 1 2 1 2 v 4 1 1 7 a 2 3 ",
    "g 9 1 3 1 m 1 7 1 2 1 5 3 1 i 1 f 2 4 a 9 1 b 8 2 2 2 m 1 7 1 2 1 5 3 1 u 2 1 3 4 a 1 7 b ",
    "1 1 6 3 3 1 4 3 2 1 1 1 2 3 2 3 3 3 c m 1 l d i 8 1 3 1 n 1 g 3 1 q 3 2 1 2 2 4 a 8 7 1 1 ",
    "4 8 1 3 1 n 1 a 1 5 3 1 v 2 1 2 4 a 1 2 h 9 1 3 1 15 2 1 g 1 5 3 1 a 4 j 1 6 5 i 3 o 1 9 ",
    "1 1 2 7 v a h 1c 1 2 c 7 9 a 13 2 1 1 1 5 1 o 1 1 1 a 1 2 9 1 2 5 1 1 9 a 2 4 w 1 v k c 8 ",
    "1 10 r 5 37 17 k b 6 6 4 4 3 1 3 2 7 3 4 d c 1 1 a 6 12 1 1 5 1 2 17 1 99 1 4 2 7 1 1 1 4 ",
    "2 15 1 4 2 x 1 4 2 7 1 1 1 4 2 f 1 1l 1 4 2 1v e k 3 g g 2e 2 6 3 h8 2 h 1 q 5 23 3 b 7 i ",
    "d j e i e d 1 3 f 1g z 1 4 1 3 a 6 a m a 6 2h 7 5 2 y 1 1 5 1y a v 13 14 2 5 b 18 4 q 6 b ",
    "11 n 9 1h 17 a 6 a d 1 2l 1b h 8 3 a 15 u d 1k q 10 s a 3 1d 2 9 7 17 2 3 15 4 1 6 1 2 3 ",
    "1 5 5c 1s 7q 2 6 2 12 2 6 2 8 1 1 1 1 1 1 1 v 2 1h 1 7 1 1 3 3 1 7 3 4 2 6 4 d 5 3 1 7 37 ",
    "2 2 6 5 b 6 d 2t 1 4 1 2 a 1 1 3 5 6 1 1 1 1 1 1 4 1 b 2 4 5 5 4 1 1 1m k6 1o 26 m hi u ",
    "vg 6d 6 4 3 2 9 1 2 12 1 1 5 1 2 1k 7 1 g n 9 7 1 7 1 7 1 7 1 7 1 7 1 7 1 7 28 1 d1 3 p 9 ",
    "7 5 2 5 4 2e 6 3 1 2i 1 4 5 17 1 2m 3 4 a w 1c g w a u 8 1 f w a 13 f 8w 534 1s h3h 1v 1a ",
    "2 7h 3 s k 1b g v 2 28 13 9 2 2v 2 1s 5 2 1 1 1 5 o g 1 3 1 4 1 n d 6 a 1g e 1e s a o 6 3 ",
    "1 1 2 1 12 a n p t 7 1b s b 6 5 1 p 1 15 n 3 1 8 4 a 6 n 3 1 3 1e 1 1 3 2 2 5 2 1 1 1 o 3 ",
    "2 b 7 3 c 6 2 6 2 6 9 7 1 7 1 17 1 e 6 37 d a 6 8mc c n 4 1d 6is a6 2 2y 12 7 c 5 5 1 1 a ",
    "1 d 1 5 1 1 1 2 1 2 1 30 x a3 i 1s 2 1i 14 c 38 5 1 3r j a 7 q 6 q b 2h 3 6 2 6 2 6 2 3 z ",
    "c 1 q 1 j 1 2 1 f 2 e y 3f c 19 c 1l h 2 6s t 3 1d g r 4 10 9 u 5 12 a u 2 10 4 8 1 5 16 ",
    "4e 2 a 6 10 4 10 4 14 8 1g c b 1 f 1 7 1 2 1 b 1 f 1 7 1 2 1v 8n 9 m a 8 o 6 1 16 1 9 1x ",
    "6 2 1 1 18 1 2 3 1 2 n 2 v 2 12 8 9 1c j 1 2 5 x 4 q 1y 1k 4 k 2 1b f 4 1 3 1 t a 9 n v 1 ",
    "w w 8 1 s 6 5 g 1i a m 2 r 5 q n 7 28 21 1j 1f d 1f 7 16 c a 86 v 1 16 6 2 26 14 8 m b 4 ",
    "r i 1a s k n c 1h q u 1 2 2 1 d 19 w p 7 a 9 10 f a 4 1 2 1 8 z 3 1 c 1c e 4 b b 1 1 4 k ",
    "b i 1 p 2c 7 1 1 1 4 1 f 1 a 7 1b h a b 8 2 2 2 m 1 7 1 2 1 5 3 1 i 1 c 5 4e 1h i 4 5 a 5 ",
    "3 u 1c k 2 1 1 8 a 4m 1b 15 4 10 1c k 1 b a 12 17 d 1 7 a 1i r l c 4 7 55 18 38 2b c 8 2 ",
    "1 2 8 1 2 1 o f 1 1 1 e a 1y 8 2 13 g 1 1 1 s 1 a 14 7 1 l 1 b 1a j 1 i 21 7b 9 1 11 h 1 ",
    "f t 5 u 34 7 1 2 1 12 l 1 9 a 6 6 1 2 1 w e 1 7 a 8m j 59 1 f l 17 pm 2u 33 h 5g 218 2p f ",
    "tr 34h g7 6nt ft 7 v 1 a 6 27 1 a 6 u i 1c g 4 c a 1 7 1 l 5 j j4 2f 2x 23 5 1 1u d 1s 2 ",
    "1 1 s 4qg 8 ye 16 9 6w7 4 1 7 1 2 1 83 19 3 h 4 8 b0 1s4 2z 5 d 3 9 7 a 4ee k 30 p 3r 2d ",
    "1 1z 1 2 2 1 2 2 2 4 1 c 1 1 1 7 1 1t 1 4 2 8 1 7 1 s 1 4 1 5 1 1 3 7 1 9g 2 p 1 p 1 v 1 ",
    "p 1 v 1 p 1 v 1 p 1 v 1 p 1 8 2 1e 1ds v dd 19 a 7 2 a 4 1 8x u i 18 4 a yu 7 1 4 1 2 1 f ",
    "1 5h 2 9 1c 1w 7 1 4 a lz 1n 1 3 1 4 24 19 1 f 5e 4 1 r 1 2 1 1 2 1 1 a 1 4 1 1 1 1 6 1 4 ",
    "1 1 1 1 1 1 3 1 2 1 1 2 1 1 1 1 1 1 1 1 1 1 2 1 1 2 4 1 7 1 4 1 4 1 1 1 a 1 h 5 3 1 5 1 h ",
    "g4 d 25f a sm wyo w 37d 7 66 2 4g2 e 5rl 2e7 f2 15u 3t7"])

/-- Decimal digits of every script; each script's ten digits stand together, from zero to nine. -/
def decimalDigits : Ranges := Ranges.ofGaps (String.join [
    "1c a 17q a 3q a 5i a bg a 3a a 3a a 3a a 3a a 3a a 3a a 3a a 3a a 3a a 2o a 3a a 1y a 7q ",
    "a 1y a 1fq a 12 a 8c a 3k a 4m a 6 a 52 a 2e a 3q a 6 a r7q a iu a 12 a 5i a m a 2e a ba ",
    "a geu a 13a a 1om a mk a 3k a 1o a 40 a 7q a 9i a 3a a ae a 2u a 2u a bq a 2u a l2 a 6u a ",
    "1y a f5i a 2e a 3q a lf8 1e 1ts a bq a 192 a 3o6 a"])

/-- Whether a code point is a letter or a numeral of some script. -/
def isAlphanumeric (point : Nat) : Bool :=
  if point < 128 then
    (48 ≤ point ∧ point ≤ 57) ∨ (65 ≤ point ∧ point ≤ 90) ∨ (97 ≤ point ∧ point ≤ 122)
  else alphanumeric.contains point

/-- The value of a decimal digit of some script. -/
def decimalValue? (point : Nat) : Option Nat :=
  if point < 128 then
    if 48 ≤ point ∧ point ≤ 57 then some (point - 48) else none
  else if decimalDigits.contains point then
    some ((point - (decimalDigits.bounds[decimalDigits.rank point 0 decimalDigits.bounds.size - 1]?.getD 0)) % 10)
  else none

end CallChain.Text
