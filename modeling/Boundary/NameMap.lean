/-!
# Maps by name

A map from names as the list of its entries in the order of the names.  Names are compared character
by character, which is the order of their UTF-8 bytes.
-/

namespace Boundary

/-- A map from names: entries in ascending order of their names. -/
abbrev NameMap (ν : Type) := List (String × ν)

namespace NameMap

variable {ν : Type}

/-- Sets the value of a name. -/
def insert (name : String) (value : ν) : NameMap ν → NameMap ν
  | [] => [(name, value)]
  | entry :: rest =>
    match compare name entry.1 with
    | .lt => (name, value) :: entry :: rest
    | .eq => (name, value) :: rest
    | .gt => entry :: insert name value rest

/-- The value of a name. -/
def get? (map : NameMap ν) (name : String) : Option ν := List.lookup name map

/-- The map without a name. -/
def erase (map : NameMap ν) (name : String) : NameMap ν :=
  map.filter fun entry => entry.1 != name

/-- The map that a list of entries leaves when they are inserted in order. -/
def ofList (entries : List (String × ν)) : NameMap ν :=
  entries.foldl (fun map entry => map.insert entry.1 entry.2) []

end NameMap

end Boundary
