import CallChain.Decimal.Reader
import CallChain.Value

/-!
# Templates

A template is a text with fields in braces.  A field names a value, may pick a part of it by
index, may ask for it in quotes (`!r`) and may pad or cut it (`:>8`).  Doubled braces stand for
single ones.  Faults are found from left to right, so an unknown name behind a good field is
reported only after that field was looked at.
-/

namespace CallChain.Text

/-- Why a template cannot be filled in. -/
inductive TemplateFault where
  /-- The template is malformed; the text says how. -/
  | malformed (message : String)
  | unknownField (name : String)
  | positionOutOfRange (index : Nat)
  | indexOutOfRange
  | noAttribute
  /-- The value does not go with the format or the index that is asked for. -/
  | unsuitable

namespace Template

/-- A field as written: the name with its parts, the conversion and the format. -/
structure Field where
  name : List Char
  conversion : Option Char
  format : List Char

/-- The name of a field, up to what ends it, and that character.  Brackets are passed over. -/
def fieldName : Bool → List Char → List Char → Except TemplateFault (List Char × Option Char × List Char)
  | _, seen, [] => .ok (seen.reverse, none, [])
  | true, seen, c :: rest => fieldName (c != ']') (c :: seen) rest
  | false, seen, c :: rest =>
    if c = '{' then .error (.malformed "unexpected '\x7b' in field name")
    else if c = '}' ∨ c = ':' ∨ c = '!' then .ok (seen.reverse, some c, rest)
    else fieldName (c == '[') (c :: seen) rest

/-- The format of a field up to its closing brace; inner fields count their braces. -/
def fieldFormat : Nat → List Char → List Char → Except TemplateFault (List Char × List Char)
  | _, _, [] => .error (.malformed "unmatched '\x7b' in format spec")
  | depth, seen, c :: rest =>
    if c = '{' then fieldFormat (depth + 1) (c :: seen) rest
    else if c = '}' then
      match depth with
      | 0 => .ok (seen.reverse, rest)
      | outer + 1 => fieldFormat outer (c :: seen) rest
    else fieldFormat depth (c :: seen) rest

/-- The field behind an opening brace, and the rest. -/
def field (cs : List Char) : Except TemplateFault (Field × List Char) := do
  let (name, stop, rest) ← fieldName false [] cs
  match stop with
  | some '}' => return (⟨name, none, []⟩, rest)
  | some ':' =>
    let (format, rest) ← fieldFormat 0 [] rest
    return (⟨name, none, format⟩, rest)
  | some '!' =>
    match rest with
    | [] => throw (.malformed "end of string while looking for conversion specifier")
    | [_] => throw (.malformed "unmatched '\x7b' in format spec")
    | c :: '}' :: rest => return (⟨name, some c, []⟩, rest)
    | c :: ':' :: rest =>
      let (format, rest) ← fieldFormat 0 [] rest
      return (⟨name, some c, format⟩, rest)
    | _ => throw (.malformed "expected ':' after conversion specifier")
  | _ => throw (.malformed "expected '\x7d' before end of string")

/-! ## Values of fields -/

/-- Whether a name is a whole number. -/
def number? (cs : List Char) : Option Nat :=
  if !cs.isEmpty && cs.all Char.isDigit then some (Decimal.natural cs) else none

/-- A part of a value by index or key. -/
def item (v : Value) (key : List Char) : Except TemplateFault Value :=
  match v, number? key with
  | .text s, some n =>
    match s.toList[n]? with
    | some c => .ok (.text (String.singleton c))
    | none => .error .indexOutOfRange
  | .list items, some n =>
    match items[n]? with
    | some i => .ok i
    | none => .error .indexOutOfRange
  | .object entries, none =>
    match Assoc.get? (String.ofList key) entries with
    | some i => .ok i
    | none => .error (.unknownField (String.ofList key))
  | _, _ => .error .unsuitable

/-- Follows the parts behind the name of a field; values have no attributes. -/
def follow : Nat → Value → List Char → Except TemplateFault Value
  | _, v, [] => .ok v
  | 0, v, _ => .ok v
  | _ + 1, _, '.' :: rest =>
    if (rest.takeWhile fun c => c != '.' && c != '[').isEmpty then
      .error (.malformed "Empty attribute in format string")
    else .error .noAttribute
  | fuel + 1, v, '[' :: rest =>
    let key := rest.takeWhile (· != ']')
    match rest.dropWhile (· != ']') with
    | [] => .error (.malformed "Missing ']' in format string")
    | _ :: after =>
      if key.isEmpty then .error (.malformed "Empty attribute in format string")
      else do
        let part ← item v key
        follow fuel part after
  | _, _, _ => .error (.malformed "Only '.' or '[' may follow ']' in format field specifier")

/-- The value that a field names. -/
def lookUp (fields : Entries) (name : List Char) : Except TemplateFault Value :=
  let first := name.takeWhile fun c => c != '.' && c != '['
  let rest := name.dropWhile fun c => c != '.' && c != '['
  if first.isEmpty then .error (.positionOutOfRange 0)
  else match number? first with
    | some n => .error (.positionOutOfRange n)
    | none =>
      match Assoc.get? (String.ofList first) fields with
      | some v => follow (rest.length + 2) v rest
      | none => .error (.unknownField (String.ofList first))

/-! ## Formats -/

/-- A value as plain text. -/
def plainText : Value → String
  | .text s => s
  | v => v.display

/-- A format taken apart. -/
structure Spec where
  fill : Char := ' '
  align : Option Char := none
  sign : Option Char := none
  alternate : Bool := false
  width : Nat := 0
  grouping : Option Char := none
  precision : Option Nat := none
  type : Option Char := none

def isAlign (c : Char) : Bool := c == '<' || c == '>' || c == '=' || c == '^'

/-- Whether the digits of a type can be grouped with a mark. -/
def groupable (mark type : Char) : Bool :=
  "defgEG%F".toList.contains type || (mark == '_' && "boxX".toList.contains type)

/-- A type in a message. -/
def shownType (type : Char) : String :=
  if 32 < type.toNat ∧ type.toNat < 128 then String.singleton type
  else "\\x" ++ String.ofList (Nat.toDigits 16 type.toNat)

/-- Takes a format apart. -/
def spec (kind : String) (cs : List Char) : Except TemplateFault Spec := do
  let whole := String.ofList cs
  let (fill, align, rest) := match cs with
    | f :: a :: r => if isAlign a then (some f, some a, r)
      else if isAlign f then (none, some f, a :: r) else (none, none, cs)
    | [a] => if isAlign a then (none, some a, []) else (none, none, cs)
    | [] => (none, none, [])
  let (sign, rest) := match rest with
    | c :: r => if c = '+' ∨ c = '-' ∨ c = ' ' then (some c, r) else (none, rest)
    | [] => (none, [])
  let (alternate, rest) := match rest with
    | '#' :: r => (true, r)
    | r => (false, r)
  let (fill, rest) := match fill, rest with
    | none, '0' :: r => (some '0', r)
    | f, r => (f, r)
  let digits := rest.takeWhile Char.isDigit
  let rest := rest.dropWhile Char.isDigit
  let (grouping, rest) := match rest with
    | c :: r => if c = ',' ∨ c = '_' then (some c, r) else (none, rest)
    | [] => (none, [])
  match grouping, rest with
  | some ',', '_' :: _ | some '_', ',' :: _ => throw (.malformed "Cannot specify both ',' and '_'.")
  | _, _ => pure ()
  let (precision, rest) ← match rest with
    | '.' :: r =>
      let p := r.takeWhile Char.isDigit
      if p.isEmpty then throw (.malformed "Format specifier missing precision")
      else pure (some (Decimal.natural p), r.dropWhile Char.isDigit)
    | r => pure (none, r)
  match rest with
  | [] | [_] =>
    match grouping, rest.head?.getD (if kind = "str" then 's' else 'd') with
    | some mark, type =>
      if !groupable mark type then
        throw (.malformed ("Cannot specify '" ++ String.singleton mark ++ "' with '" ++ shownType type ++ "'."))
    | none, _ => pure ()
    return {
      fill := fill.getD ' ', align, sign, alternate, width := Decimal.natural digits
      grouping, precision, type := rest.head? }
  | _ =>
    throw (.malformed ("Invalid format specifier '" ++ whole ++ "' for object of type '" ++ kind ++ "'"))

/-- Pads a text to a width. -/
def pad (fill align : Char) (width : Nat) (text : String) : String :=
  let gap := width - text.length
  let copies (n : Nat) : String := String.ofList (List.replicate n fill)
  if align = '>' then copies gap ++ text
  else if align = '^' then copies (gap / 2) ++ text ++ copies (gap - gap / 2)
  else text ++ copies gap

/-- A text in a format. -/
def formatText (s : String) (cs : List Char) : Except TemplateFault String := do
  let f ← spec "str" cs
  match f.type with
  | some 's' | none => pure ()
  | some c =>
    throw (.malformed ("Unknown format code '" ++ shownType c ++ "' for object of type 'str'"))
  match f.sign with
  | some ' ' => throw (.malformed "Space not allowed in string format specifier")
  | some _ => throw (.malformed "Sign not allowed in string format specifier")
  | none => pure ()
  if f.alternate then throw (.malformed "Alternate form (#) not allowed in string format specifier")
  if f.align == some '=' then
    throw (.malformed "'=' alignment not allowed in string format specifier")
  let cut := match f.precision with
    | some n => String.ofList (s.toList.take n)
    | none => s
  return pad f.fill (f.align.getD '<') f.width cut

/-- A value in a format; only texts and whole numbers have one. -/
def format (v : Value) (cs : List Char) : Except TemplateFault String :=
  if cs.isEmpty then .ok (plainText v)
  else match v with
    | .text s => formatText s cs
    | .int n => do
      let f ← spec "int" cs
      return pad f.fill (f.align.getD '>') f.width (toString n)
    | _ => .error .unsuitable

/-- Applies a conversion. -/
def convert (conversion : Option Char) (v : Value) : Except TemplateFault Value :=
  match conversion with
  | none => .ok v
  | some 's' => .ok (.text (plainText v))
  | some 'r' => .ok (.text v.display)
  | some 'a' =>
    .ok (.text (String.ofList (v.display.toList.flatMap fun c =>
      if c.toNat < 128 then [c] else numericEscape c.toNat)))
  | some c =>
    if 32 < c.toNat ∧ c.toNat < 127 then
      .error (.malformed ("Unknown conversion specifier " ++ String.singleton c))
    else .error (.malformed ("Unknown conversion specifier \\x" ++ String.ofList (Nat.toDigits 16 c.toNat)))

/-- Fills in a template; `depth` bounds how deep formats may hold fields themselves. -/
def fill (fields : Entries) : Nat → Nat → List Char → Except TemplateFault String
  | _, _, [] => .ok ""
  | 0, _, _ => .ok ""
  | fuel + 1, depth, c :: rest =>
    if c = '{' then
      match rest with
      | [] => .error (.malformed "Single '\x7b' encountered in format string")
      | '{' :: after => (fill fields fuel depth after).map ("\x7b" ++ ·)
      | _ => do
        let (f, after) ← field rest
        let v ← lookUp fields f.name
        let v ← convert f.conversion v
        let inner ← if f.format.contains '{' then
            match depth with
            | 0 => throw (.malformed "Max string recursion exceeded")
            | lower + 1 => fill fields fuel lower f.format
          else pure (String.ofList f.format)
        let shown ← format v inner.toList
        return shown ++ (← fill fields fuel depth after)
    else if c = '}' then
      match rest with
      | '}' :: after => (fill fields fuel depth after).map ("\x7d" ++ ·)
      | _ => .error (.malformed "Single '\x7d' encountered in format string")
    else (fill fields fuel depth rest).map (String.singleton c ++ ·)

/-- Fills the fields of a template in. -/
def render (template : String) (fields : Entries) : Except TemplateFault String :=
  fill fields (template.length + 1) 1 template.toList

end Template

end CallChain.Text
