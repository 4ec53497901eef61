import CallChain.Text.Quoted

/-!
# Bytes as UTF-8

Bytes are cut into pieces: a character with the bytes that encode it, or a stretch of bytes that
begins no character.  A bad stretch is as long as possible while its bytes could still begin a
character.  `strict` refuses the first bad stretch, `lenient` puts U+FFFD in the place of each.
-/

namespace CallChain

/-- The content of a file. -/
abbrev Bytes := List UInt8

namespace Utf8

/-- Why a stretch of bytes is bad. -/
inductive Reason where
  | startByte
  | continuation
  | endOfData

def Reason.message : Reason → String
  | .startByte => "invalid start byte"
  | .continuation => "invalid continuation byte"
  | .endOfData => "unexpected end of data"

/-- A character or a bad stretch, with how many bytes it takes. -/
inductive Piece where
  | good (c : Char) (size : Nat)
  | bad (reason : Reason) (size : Nat)

def Piece.size : Piece → Nat
  | .good _ size => size
  | .bad _ size => size

/-- How many bytes follow a leading byte, and the range of the first of them; nothing if the byte
leads no character. -/
def following (lead : Nat) : Option (Nat × Nat × Nat) :=
  if 0xC2 ≤ lead ∧ lead ≤ 0xDF then some (1, 0x80, 0xBF)
  else if lead = 0xE0 then some (2, 0xA0, 0xBF)
  else if lead = 0xED then some (2, 0x80, 0x9F)
  else if 0xE1 ≤ lead ∧ lead ≤ 0xEF then some (2, 0x80, 0xBF)
  else if lead = 0xF0 then some (3, 0x90, 0xBF)
  else if 0xF1 ≤ lead ∧ lead ≤ 0xF3 then some (3, 0x80, 0xBF)
  else if lead = 0xF4 then some (3, 0x80, 0x8F)
  else none

/-- Takes up `count` more bytes, the first of them between `low` and `high`; `seen` bytes have
been taken and have the value `value`. -/
def tail : Nat → Nat → Nat → Nat → Nat → Bytes → Piece
  | 0, _, _, seen, value, _ => .good (Text.charOf value) seen
  | _ + 1, _, _, seen, _, [] => .bad .endOfData seen
  | count + 1, low, high, seen, value, b :: rest =>
    if low ≤ b.toNat ∧ b.toNat ≤ high then
      tail count 0x80 0xBF (seen + 1) (value * 64 + b.toNat % 64) rest
    else .bad .continuation seen

/-- The piece that begins with a byte. -/
def piece (lead : UInt8) (rest : Bytes) : Piece :=
  if lead.toNat < 0x80 then .good (Text.charOf lead.toNat) 1
  else match following lead.toNat with
    | none => .bad .startByte 1
    | some (count, low, high) => tail count low high 1 (lead.toNat % Nat.pow 2 (6 - count)) rest

/-- The pieces of some bytes, in order. -/
def pieces : Bytes → List Piece
  | [] => []
  | b :: rest =>
    let first := piece b rest
    first :: pieces (rest.drop (first.size - 1))
termination_by bytes => bytes.length
decreasing_by simp only [List.length_drop, List.length_cons]; omega

/-- A bad stretch: why, the byte it begins with, where it begins and how long it is. -/
structure Fault where
  reason : Reason
  byte : Nat
  position : Nat
  size : Nat

def Fault.message (f : Fault) : String :=
  let place := if f.size = 1 then
      "byte 0x" ++ String.ofList (Text.hex 2 f.byte) ++ " in position " ++ toString f.position
    else "bytes in position " ++ toString f.position ++ "-" ++ toString (f.position + f.size - 1)
  "'utf-8' codec can't decode " ++ place ++ ": " ++ f.reason.message

/-- The characters of the pieces, up to the first bad stretch. -/
def strictFrom (bytes : Bytes) : Nat → List Piece → Except Fault (List Char)
  | _, [] => .ok []
  | position, .good c size :: rest => (strictFrom bytes (position + size) rest).map (c :: ·)
  | position, .bad reason size :: _ =>
    .error ⟨reason, (bytes[position]?.map UInt8.toNat).getD 0, position, size⟩

/-- The text that bytes encode. -/
def strict (bytes : Bytes) : Except Fault (List Char) := strictFrom bytes 0 (pieces bytes)

/-- The text that bytes encode, with U+FFFD for what encodes nothing. -/
def lenient (bytes : Bytes) : List Char :=
  (pieces bytes).map fun
    | .good c _ => c
    | .bad _ _ => Char.ofNat 0xFFFD

/-- The bytes that encode a text. -/
def encode (text : String) : Bytes := text.toUTF8.toList

end Utf8

end CallChain
