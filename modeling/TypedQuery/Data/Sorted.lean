/-!
Finite sets and maps as ascending lists. An insertion keeps the list ascending and free of
duplicates, so that a traversal meets the keys in order.
-/

namespace TypedQuery.Sorted

variable {κ : Type} {α : Type} [Ord κ]

/-- Add a key to an ascending list, unless it is there. -/
def insert (k : κ) : List κ → List κ
  | [] => [k]
  | x :: rest =>
    match compare k x with
    | .lt => k :: x :: rest
    | .eq => x :: rest
    | .gt => x :: insert k rest

/-- The distinct keys of a list, ascending. -/
def ofList (ks : List κ) : List κ := ks.foldl (fun seen k => insert k seen) []

/-- Change the value of a key, starting from `fresh` when the key is new. -/
def alter (k : κ) (fresh : α) (change : α → α) : List (κ × α) → List (κ × α)
  | [] => [(k, change fresh)]
  | (x, a) :: rest =>
    match compare k x with
    | .lt => (k, change fresh) :: (x, a) :: rest
    | .eq => (x, change a) :: rest
    | .gt => (x, a) :: alter k fresh change rest

def find? (k : κ) : List (κ × α) → Option α
  | [] => none
  | (x, a) :: rest => if compare k x = .eq then some a else find? k rest

end TypedQuery.Sorted
