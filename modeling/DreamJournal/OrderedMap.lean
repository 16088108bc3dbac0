/-!
# Maps in insertion order

A map is the list of its entries in the order in which the keys first came. Putting a new value
under a known key keeps the key's place, so what a reader sees is the order in which a note
first mentions things.
-/
namespace DreamJournal

/-- Entries with distinct keys, oldest first. -/
abbrev OrderedMap (α β : Type) := List (α × β)

namespace OrderedMap

variable {α β : Type} [DecidableEq α]

def get? (map : OrderedMap α β) (key : α) : Option β :=
  (map.find? fun entry => entry.1 = key).map Prod.snd

def has (map : OrderedMap α β) (key : α) : Bool := (map.find? fun entry => entry.1 = key).isSome

/-- Change the value under a key in place, or add the key at the end. -/
def alter (map : OrderedMap α β) (key : α) (change : Option β → β) : OrderedMap α β :=
  match map with
  | [] => [(key, change none)]
  | (known, value) :: rest =>
    if known = key then (known, change (some value)) :: rest
    else (known, value) :: alter rest key change

/-- Put a value under a key. -/
def put (map : OrderedMap α β) (key : α) (value : β) : OrderedMap α β :=
  alter map key fun _ => value

/-- The keys, oldest first. -/
def keys (map : OrderedMap α β) : List α := map.map Prod.fst

end OrderedMap
end DreamJournal
