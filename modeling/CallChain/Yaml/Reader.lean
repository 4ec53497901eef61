import CallChain.Yaml.Scalar
import CallChain.Yaml.Token

/-!
# Reading YAML

The reader takes one document of nested mappings, lists and scalars, in block form and in
brackets.  Tags, anchors, directives and scalars over several indented lines are not read, a date is a
text, and a merge key is a key like others.  An empty document is nothing.
-/

namespace CallChain.Yaml

/-- The text of a key: scalars have one, collections cannot be keys. -/
def keyText : Value → Except Problem String
  | .text s => .ok s
  | .null => .ok "null"
  | .bool b => .ok (if b then "true" else "false")
  | .int n => .ok (toString n)
  | .float x => .ok (Decimal.render Decimal.Layout.plain x)
  | .list _ => .error .unhashableKey
  | .object _ => .error .unhashableKey

/-- Whether the next token is one of some. -/
def startsWith (tokens : List Token) (some : List Token) : Bool := tokens.head?.any some.contains

mutual

/-- A node.  `block` allows collections in block form, `loose` a list whose dashes stand below the
key it belongs to. -/
def node (block loose : Bool) : Nat → List Token → Except Problem (Value × List Token)
  | 0, _ => .error .misplaced
  | fuel + 1, tokens =>
    match tokens with
    | .scalar text isPlain :: rest => .ok (if isPlain then plain text else .text text, rest)
    | .flowSequence :: rest => flowItems fuel rest true []
    | .flowMapping :: rest => flowEntries fuel rest true []
    | .blockSequence :: rest => if block then blockItems fuel rest [] else .error .misplaced
    | .blockMapping :: rest => if block then blockEntries fuel rest [] else .error .misplaced
    | .entry :: _ => if loose then looseItems fuel tokens [] else .error .misplaced
    | _ => .error .misplaced

/-- A node, or nothing if one of `ends` follows. -/
def nodeOr (block loose : Bool) (ends : List Token) : Nat → List Token →
    Except Problem (Value × List Token)
  | 0, _ => .error .misplaced
  | fuel + 1, tokens =>
    if startsWith tokens ends then .ok (.null, tokens) else node block loose fuel tokens

/-- The items of a list in block form; those read so far in reverse. -/
def blockItems : Nat → List Token → List Value → Except Problem (Value × List Token)
  | 0, _, _ => .error .misplaced
  | fuel + 1, tokens, items =>
    match tokens with
    | .entry :: rest => do
      let (item, rest) ← nodeOr true false [.entry, .blockEnd] fuel rest
      blockItems fuel rest (item :: items)
    | .blockEnd :: rest => .ok (.list items.reverse, rest)
    | _ => .error .misplaced

/-- The items of a list whose dashes stand below the key it belongs to. -/
def looseItems : Nat → List Token → List Value → Except Problem (Value × List Token)
  | 0, _, _ => .error .misplaced
  | fuel + 1, tokens, items =>
    match tokens with
    | .entry :: rest => do
      let (item, rest) ← nodeOr true false [.entry, .key, .value, .blockEnd] fuel rest
      looseItems fuel rest (item :: items)
    | _ => .ok (.list items.reverse, tokens)

/-- The entries of a mapping in block form. -/
def blockEntries : Nat → List Token → Entries → Except Problem (Value × List Token)
  | 0, _, _ => .error .misplaced
  | fuel + 1, tokens, entries =>
    match tokens with
    | .blockEnd :: rest => .ok (.object entries, rest)
    | .key :: rest => do
      let (key, rest) ← nodeOr true true [.key, .value, .blockEnd] fuel rest
      let (value, rest) ← match rest with
        | .value :: after => nodeOr true true [.key, .value, .blockEnd] fuel after
        | _ => pure (.null, rest)
      blockEntries fuel rest (Assoc.put (← keyText key) value entries)
    | .value :: rest => do
      let (value, rest) ← nodeOr true true [.key, .value, .blockEnd] fuel rest
      blockEntries fuel rest (Assoc.put (← keyText .null) value entries)
    | _ => .error .misplaced

/-- A value after its key in brackets that `close` ends. -/
def flowValue (close : Token) : Nat → List Token → Except Problem (Value × List Token)
  | 0, _ => .error .misplaced
  | fuel + 1, tokens =>
    match tokens with
    | .value :: rest => nodeOr false false [.comma, close] fuel rest
    | _ => .ok (.null, tokens)

/-- The items of a list in brackets. -/
def flowItems : Nat → List Token → Bool → List Value → Except Problem (Value × List Token)
  | 0, _, _, _ => .error .misplaced
  | fuel + 1, tokens, first, items =>
    match tokens with
    | .flowSequenceEnd :: rest => .ok (.list items.reverse, rest)
    | _ => do
      let tokens ← match first, tokens with
        | true, _ => pure tokens
        | false, .comma :: rest => pure rest
        | false, _ => throw .misplaced
      match tokens with
      | .flowSequenceEnd :: rest => return (.list items.reverse, rest)
      | .key :: rest =>
        let (key, rest) ← nodeOr false false [.value, .comma, .flowSequenceEnd] fuel rest
        let (value, rest) ← flowValue .flowSequenceEnd fuel rest
        flowItems fuel rest false (.object [(← keyText key, value)] :: items)
      | _ =>
        let (item, rest) ← node false false fuel tokens
        flowItems fuel rest false (item :: items)

/-- The entries of a mapping in braces. -/
def flowEntries : Nat → List Token → Bool → Entries → Except Problem (Value × List Token)
  | 0, _, _, _ => .error .misplaced
  | fuel + 1, tokens, first, entries =>
    match tokens with
    | .flowMappingEnd :: rest => .ok (.object entries, rest)
    | _ => do
      let tokens ← match first, tokens with
        | true, _ => pure tokens
        | false, .comma :: rest => pure rest
        | false, _ => throw .misplaced
      match tokens with
      | .flowMappingEnd :: rest => return (.object entries, rest)
      | .key :: rest =>
        let (key, rest) ← nodeOr false false [.value, .comma, .flowMappingEnd] fuel rest
        let (value, rest) ← flowValue .flowMappingEnd fuel rest
        flowEntries fuel rest false (Assoc.put (← keyText key) value entries)
      | _ =>
        let (key, rest) ← node false false fuel tokens
        flowEntries fuel rest false (Assoc.put (← keyText key) .null entries)

end

/-- The content of the first document. -/
def content (tokens : List Token) : Except Problem (Value × List Token) :=
  let read := nodeOr true false [] (4 * tokens.length + 4)
  match tokens with
  | [.finish] => .ok (.null, tokens)
  | .documentStart :: rest =>
    if startsWith rest [.documentStart, .documentEnd, .finish] then .ok (.null, rest) else read rest
  | _ => read tokens

/-- Reads a document. -/
def read (document : List Char) : Except Problem Value := do
  let (value, rest) ← content (← tokens document)
  match rest.dropWhile (· == .documentEnd) with
  | [.finish] => return value
  | .documentStart :: _ => throw .secondDocument
  | _ => throw .misplaced

end CallChain.Yaml
