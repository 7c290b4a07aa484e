/-!
# Rosters

Things that are known by a key.  Putting something under a key that is used
replaces what was there.
-/

namespace TaskLink

structure Roster (κ α : Type) where
  entries : List (κ × α) := []

namespace Roster

variable {κ α : Type} [BEq κ]

def get? (roster : Roster κ α) (key : κ) : Option α :=
  roster.entries.lookup key

def erase (roster : Roster κ α) (key : κ) : Roster κ α :=
  ⟨roster.entries.filter fun entry => !entry.1 == key⟩

def put (roster : Roster κ α) (key : κ) (value : α) : Roster κ α :=
  if roster.entries.any fun entry => entry.1 == key then
    ⟨roster.entries.map fun entry => if entry.1 == key then (entry.1, value) else entry⟩
  else ⟨roster.entries ++ [(key, value)]⟩

def passThrough {σ : Type} (change : α → σ → α × σ) (roster : Roster κ α) (s : σ) :
    Roster κ α × σ :=
  roster.entries.foldl
    (fun (passed, s) (key, value) =>
      match change value s with
      | (value, s) => (⟨passed.entries ++ [(key, value)]⟩, s))
    (⟨[]⟩, s)

end Roster

end TaskLink
