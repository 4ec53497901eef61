/-!
# Tables that remember the order of their keys

A table is a list of pairs in which each key occurs once, in the order in which the keys first
appeared.  `put` replaces in place or appends, `putNew` keeps what is there.
-/

namespace CallChain

namespace Assoc

variable {α β : Type} [BEq α]

/-- What a key maps to. -/
def get? (key : α) : List (α × β) → Option β
  | [] => none
  | (k, v) :: rest => if k == key then some v else get? key rest

/-- Maps a key to a value, in place if the key is there and at the end otherwise. -/
def put (key : α) (value : β) : List (α × β) → List (α × β)
  | [] => [(key, value)]
  | (k, v) :: rest => if k == key then (k, value) :: rest else (k, v) :: put key value rest

/-- Maps a key to a value unless it maps to something already. -/
def putNew (key : α) (value : β) (entries : List (α × β)) : List (α × β) :=
  match get? key entries with
  | some _ => entries
  | none => entries ++ [(key, value)]

/-- Whether a key maps to something. -/
def has (key : α) (entries : List (α × β)) : Bool := (get? key entries).isSome

/-- The entries with those of `upper` put on top. -/
def overlay (entries upper : List (α × β)) : List (α × β) :=
  upper.foldl (fun all e => put e.1 e.2 all) entries

end Assoc

/-- The items of a list without those in `seen` and without repetitions. -/
def occurrencesAfter {α : Type} [BEq α] : List α → List α → List α
  | _, [] => []
  | seen, a :: rest =>
    if seen.contains a then occurrencesAfter seen rest else a :: occurrencesAfter (a :: seen) rest

/-- The items of a list, each at its first occurrence only. -/
def firstOccurrences {α : Type} [BEq α] (items : List α) : List α := occurrencesAfter [] items

end CallChain
