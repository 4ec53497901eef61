import CallChain.Text.Words

/-!
# Paths

Paths are texts with slashes.  The functions here only look at the text: `normalize` removes
empty parts, dots and what two dots undo, `absolute` starts a path at a directory, and
`relative` leads from one directory to a path.
-/

namespace CallChain.Path

/-- Whether a path starts at the root. -/
def isAbsolute (path : String) : Bool := Text.startsWith path "/"

/-- One path below another; an absolute path stays as it is. -/
def join (base path : String) : String :=
  if isAbsolute path then path
  else if base = "" ∨ Text.endsWith base "/" then base ++ path
  else base ++ "/" ++ path

/-- The parts of a path that are not empty. -/
def parts (path : String) : List String := (Text.splitOn '/' path).filter (· != "")

/-- Takes up one part: a dot changes nothing, two dots undo the part before, unless there is
none to undo. -/
def step (rooted : Bool) (done : List String) (part : String) : List String :=
  if part = "" ∨ part = "." then done
  else if part ≠ ".." then part :: done
  else match done with
    | [] => if rooted then [] else [".."]
    | last :: rest => if last = ".." then ".." :: done else rest

/-- The shortest spelling of a path. -/
def normalize (path : String) : String :=
  if path = "" then "."
  else
    let slashes :=
      if Text.startsWith path "//" && !Text.startsWith path "///" then "//"
      else if isAbsolute path then "/" else ""
    let body := Text.joinWith "/" ((Text.splitOn '/' path).foldl (step (slashes != "")) []).reverse
    let full := slashes ++ body
    if full = "" then "." else full

/-- A path from the root, given the directory that relative paths start at. -/
def absolute (directory path : String) : String := normalize (join directory path)

/-- The part of a path before its last slash. -/
def parent (path : String) : String :=
  match Text.cutLast? '/' path with
  | none => ""
  | some (head, _) =>
    let head := head ++ "/"
    if head.toList.all (· == '/') then head
    else String.ofList (head.toList.reverse.dropWhile (· == '/')).reverse

/-- How many parts two lists have in common at the front. -/
def sharedParts : List String → List String → Nat
  | a :: as, b :: bs => if a = b then sharedParts as bs + 1 else 0
  | _, _ => 0

/-- The way from a directory to a path; both may be relative to `directory`.  An empty path has no
way to it and stays empty. -/
def relative (directory base path : String) : String :=
  if path = "" then ""
  else
    let start := parts (absolute directory base)
    let goal := parts (absolute directory path)
    let shared := sharedParts start goal
    let way := List.replicate (start.length - shared) ".." ++ goal.drop shared
    if way.isEmpty then "." else Text.joinWith "/" way

/-- Whether a path is that of a Python file, in any case of letters. -/
def isPython (path : String) : Bool := Text.endsWith (Text.lowerAscii path) ".py"

end CallChain.Path
