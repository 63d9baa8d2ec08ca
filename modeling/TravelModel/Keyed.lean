/-!
# TravelModel — keyed lists

A keyed list holds values under text keys, each key once, in the order of
the keys. It is the shape of JSON objects, prefix maps and catalogs: the
order in which entries were put in does not show, and the last value put
under a key wins.
-/

namespace TravelModel

/-- Values under text keys, kept in key order. -/
abbrev Keyed (α : Type) := List (String × α)

namespace Keyed

variable {α β : Type}

/-- Puts a value under a key, replacing the one that was there. -/
def insert (k : String) (v : α) : Keyed α → Keyed α
  | [] => [(k, v)]
  | (k', v') :: rest =>
    if k < k' then (k, v) :: (k', v') :: rest
    else if k = k' then (k, v) :: rest
    else (k', v') :: insert k v rest

/-- The value under a key. -/
def find? (k : String) : Keyed α → Option α
  | [] => none
  | (k', v) :: rest => if k = k' then some v else find? k rest

/-- Whether a key is present. -/
def contains (m : Keyed α) (k : String) : Bool :=
  (find? k m).isSome

/-- Puts a value under a key only if the key is absent. -/
def insertNew (k : String) (v : α) (m : Keyed α) : Keyed α :=
  if m.contains k then m else m.insert k v

/-- Puts entries in one after another; later ones win. -/
def insertAll (m : Keyed α) (entries : List (String × α)) : Keyed α :=
  entries.foldl (fun acc e => acc.insert e.1 e.2) m

/-- The keyed list of some entries; of two under one key the later wins. -/
def ofList (entries : List (String × α)) : Keyed α :=
  insertAll [] entries

/-- The keys, in order. -/
def keys (m : Keyed α) : List String :=
  m.map Prod.fst

end Keyed

end TravelModel
