import ChainConformance.Text.Order

/-!
# JSON values

A JSON value with the fields of its objects in the order in which they were written.
Numbers that are integers of 64 bits are kept as integers, all others in decimal.
-/

namespace ChainConformance

/-- A number written in decimal: `±digits · 10 ^ exponent`. -/
structure Decimal where
  negative : Bool
  digits : Nat
  exponent : Int
  deriving Repr, DecidableEq

/-- A JSON value. A text may be damaged, with half a surrogate pair in it: it is no text then, and
an object with such a name is known no further than the fields before it. Only what leaves values
out can do without the rest. -/
inductive Json where
  | null
  | bool (b : Bool)
  | integer (n : Int)
  | decimal (d : Decimal)
  | text (s : String)
  | array (items : List Json)
  | object (fields : List (String × Json))
  | damaged (fields : List (String × Json))
  deriving Repr, Inhabited, BEq

namespace Json

/-- The value with the last of several fields of one name in an object. -/
def field? (name : String) : Json → Option Json
  | object fields => (fields.reverse.find? (fun f => f.1 == name)).map (·.2)
  | _ => none

def objectOf (fields : List (String × Option Json)) : Json :=
  object (fields.filterMap fun f => f.2.map (fun v => (f.1, v)))

/-- Puts a field at its place among fields in increasing order of their names, over a
field with the same name. -/
def placeField (name : String) (value : Json) :
    List (String × Json) → List (String × Json)
  | [] => [(name, value)]
  | (name', value') :: rest =>
    if Text.before name name' then (name, value) :: (name', value') :: rest
    else if name = name' then (name, value) :: rest
    else (name', value') :: placeField name value rest

mutual

/-- The value with the fields of every object in increasing order of their names, the last
of several fields of one name counting. -/
def sorted : Json → Json
  | array items => array (sortedItems items)
  | object fields => object (sortedFields [] fields)
  | j => j

def sortedItems : List Json → List Json
  | [] => []
  | j :: rest => sorted j :: sortedItems rest

def sortedFields (placed : List (String × Json)) :
    List (String × Json) → List (String × Json)
  | [] => placed
  | (name, value) :: rest => sortedFields (placeField name (sorted value) placed) rest

end

end Json

end ChainConformance
