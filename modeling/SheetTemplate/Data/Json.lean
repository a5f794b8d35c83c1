namespace SheetTemplate

inductive Json where
  | null
  | bool (b : Bool)
  | int (n : Int)
  | float (x : Float)
  | str (s : String)
  | arr (items : List Json)
  | obj (fields : List (String × Json))

abbrev DataMap := List (String × Json)

namespace DataMap

/-- Binds a name; the last value given to a name stays. -/
def insert (key : String) (value : Json) : DataMap → DataMap
  | [] => [(key, value)]
  | (k, v) :: rest =>
    if key < k then (key, value) :: (k, v) :: rest
    else if key = k then (key, value) :: rest
    else (k, v) :: insert key value rest

def ofPairs (pairs : List (String × Json)) : DataMap :=
  pairs.foldl (fun m p => insert p.1 p.2 m) []

def find? (m : DataMap) (key : String) : Option Json := m.lookup key

def keys (m : DataMap) : List String := m.map (·.1)

end DataMap

end SheetTemplate
