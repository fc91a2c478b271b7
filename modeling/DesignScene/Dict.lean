/-
This file holds finite maps with text keys, as lists that are sorted by key.
-/

namespace DesignScene

/-- The operations below keep the keys strictly increasing. -/
abbrev Dict (α : Type) := List (String × α)

namespace Dict

variable {α β : Type}

def get? (key : String) : Dict α → Option α
  | [] => none
  | (name, value) :: rest => if name = key then some value else get? key rest

def hasKey (key : String) (dict : Dict α) : Bool := (dict.get? key).isSome

/-- A value under a key that is present replaces the earlier one. -/
def insert (key : String) (value : α) : Dict α → Dict α
  | [] => [(key, value)]
  | (name, old) :: rest =>
      if name = key then (key, value) :: rest
      else if key < name then (key, value) :: (name, old) :: rest
      else (name, old) :: insert key value rest

def erase (key : String) : Dict α → Dict α
  | [] => []
  | (name, value) :: rest => if name = key then rest else (name, value) :: erase key rest

/-- Of two pairs with one key the later one counts. -/
def ofList (pairs : List (String × α)) : Dict α :=
  pairs.foldl (fun dict pair => insert pair.1 pair.2 dict) []

/-- The pairs of `later` win over those of `dict`. -/
def overlay (dict later : Dict α) : Dict α :=
  later.foldl (fun result pair => insert pair.1 pair.2 result) dict

def keys (dict : Dict α) : List String := dict.map Prod.fst

/-- The keys are strictly increasing. -/
def Sorted (dict : Dict α) : Prop := dict.keys.Pairwise (· < ·)

end Dict

end DesignScene
