import CallChain.Assoc
import CallChain.Text.Utf8

/-!
# Trees of files

A tree is a file with its content or a directory with named entries.  A file without content is one
that may not be opened.  There are no links, and every directory can be listed.  `get?` follows names
down a tree, `put` replaces what the names lead to and makes the directories on the way.
-/

namespace CallChain

/-- A file or a directory. -/
inductive FileTree where
  /-- A file; without content it may not be opened. -/
  | file (content : Option Bytes)
  | directory (entries : List (String × FileTree))
  deriving Inhabited

namespace FileTree

def isDirectory : FileTree → Bool
  | .directory _ => true
  | .file _ => false

/-- The entries of a directory. -/
def entries : FileTree → List (String × FileTree)
  | .directory list => list
  | .file _ => []

/-- What some names lead to. -/
def get? : List String → FileTree → Option FileTree
  | [], tree => some tree
  | name :: rest, tree => (Assoc.get? name tree.entries).bind (get? rest)

/-- The tree with `new` where the names lead to. -/
def put : FileTree → List String → FileTree → FileTree
  | _, [], new => new
  | tree, name :: rest, new =>
    let below := (Assoc.get? name tree.entries).getD (.directory [])
    .directory (Assoc.put name (put below rest new) tree.entries)

end FileTree

end CallChain
