/-! File texts by name. Names are kept once each and in ascending byte order, so walking a map
visits files in a fixed order whatever order they were put in. -/
namespace Linewise

/-- File texts keyed by file name. -/
structure FileMap where
  entries : List (String × String)
  deriving DecidableEq, Repr, Inhabited

namespace FileMap

def empty : FileMap := ⟨[]⟩

/-- Puts a key into a key-sorted list, replacing the value of an equal key. -/
def insertEntry (k v : String) : List (String × String) → List (String × String)
  | [] => [(k, v)]
  | (k', v') :: rest =>
    if k < k' then (k, v) :: (k', v') :: rest
    else if k = k' then (k, v) :: rest
    else (k', v') :: insertEntry k v rest

def insert (m : FileMap) (k v : String) : FileMap := ⟨insertEntry k v m.entries⟩

/-- The map of the given pairs; a later pair of an equal name wins. -/
def ofList (kvs : List (String × String)) : FileMap :=
  kvs.foldl (fun m kv => m.insert kv.1 kv.2) empty

def get? (m : FileMap) (k : String) : Option String := m.entries.lookup k

def contains (m : FileMap) (k : String) : Bool := (m.get? k).isSome

def names (m : FileMap) : List String := m.entries.map Prod.fst

def isEmpty (m : FileMap) : Bool := m.entries.isEmpty

def size (m : FileMap) : Nat := m.entries.length

end FileMap

end Linewise
