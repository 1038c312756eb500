import Mathlib.Data.List.Basic

/-!
# JSON Values

Trees of maps, lists, texts and integers, as Dart builds them before `json.encode`. A map is
the list of its entries, with each key at most once when it is built by `Json.Entries.put`.
-/

namespace RlyNetworkSdk.Encoding

inductive Json where
  | null
  | bool (b : Bool)
  | int (n : Int)
  | string (s : String)
  | list (l : List Json)
  | object (entries : List (String × Json))

namespace Json

abbrev Entries := List (String × Json)

/-- Set the value of a key. A key that is there keeps its place, as in a Dart map, which
remembers the order of its keys. -/
def Entries.put (m : Entries) (key : String) (value : Json) : Entries :=
  if m.any (·.1 == key) then m.map fun e => if e.1 == key then (key, value) else e
  else m ++ [(key, value)]

/-- The map literal `{...m, ...other}`. -/
def Entries.spread (m other : Entries) : Entries := other.foldl (fun m e => m.put e.1 e.2) m

/-- The entry of a map; no value for other trees. -/
def get? (key : String) : Json → Option Json
  | .object entries => entries.lookup key
  | _ => none

end Json

end RlyNetworkSdk.Encoding
