/-! Tables with text keys, kept in ascending order of the keys. -/

namespace PolicyServer

/-- Entries in ascending order of their keys, no key twice. -/
abbrev Table (α : Type) := List (String × α)

namespace Table

/-- Puts an entry in its place; an entry of the same key is replaced. -/
def put (key : String) (value : α) : Table α → Table α
  | [] => [(key, value)]
  | (k, v) :: rest =>
    if key < k then (key, value) :: (k, v) :: rest
    else if key = k then (key, value) :: rest
    else (k, v) :: put key value rest

def get? (table : Table α) (key : String) : Option α := table.lookup key

def erase (table : Table α) (key : String) : Table α := table.filter (·.1 ≠ key)

/-- The table of the entries given; of two with one key the later stays. -/
def ofList (entries : List (String × α)) : Table α :=
  entries.foldl (fun table (key, value) => put key value table) []

/-- The entry of a key, changed; a missing one is changed from the value given. -/
def update (table : Table α) (key : String) (absent : α) (change : α → α) : Table α :=
  put key (change ((table.get? key).getD absent)) table

end Table

end PolicyServer
