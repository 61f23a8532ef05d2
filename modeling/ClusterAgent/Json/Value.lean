/-
JSON values and their compact text.

* `Json.render` — no blanks, fields in the order given, doubles in the layout
  for JSON;
* `Json.renderString` — quotes, backslashes and control characters are escaped,
  everything else stands for itself;
* `Json.mapStrings`, `Json.sortKeys` — the same value with other strings, or with
  the fields of its objects in another order.
-/
import ClusterAgent.Decimal.Layout

namespace ClusterAgent

/-- A JSON value. Fields keep the order in which they were written. -/
inductive Json where
  | null
  | bool (b : Bool)
  | integer (n : Int)
  | double (x : Float)
  | string (s : String)
  | array (items : List Json)
  | object (fields : List (String × Json))

namespace Json

/-- The written form of a character inside a string. -/
def escapeChar (c : Char) : List Char :=
  if c = '"' then ['\\', '"']
  else if c = '\\' then ['\\', '\\']
  else if c = '\n' then ['\\', 'n']
  else if c = '\r' then ['\\', 'r']
  else if c = '\t' then ['\\', 't']
  else if c = Char.ofNat 8 then ['\\', 'b']
  else if c = Char.ofNat 12 then ['\\', 'f']
  else if c.toNat < 32 then
    ['\\', 'u', '0', '0', Nat.digitChar (c.toNat / 16), Nat.digitChar (c.toNat % 16)]
  else [c]

/-- A string between quotes. -/
def renderString (s : String) : String :=
  String.ofList ('"' :: s.toList.flatMap escapeChar ++ ['"'])

mutual

/-- The compact text of a value. -/
def render : Json → String
  | null => "null"
  | bool b => if b then "true" else "false"
  | integer n => toString n
  | double x => Decimal.json.write x
  | string s => renderString s
  | array items => "[" ++ ",".intercalate (renderItems items) ++ "]"
  | object fields => "\x7b" ++ ",".intercalate (renderFields fields) ++ "\x7d"

/-- The texts of the items of an array. -/
def renderItems : List Json → List String
  | [] => []
  | v :: rest => render v :: renderItems rest

/-- The texts of the fields of an object. -/
def renderFields : List (String × Json) → List String
  | [] => []
  | (k, v) :: rest => (renderString k ++ ":" ++ render v) :: renderFields rest

end

mutual

/-- Change every string that is a value. -/
def mapStrings (f : String → String) : Json → Json
  | string s => string (f s)
  | array items => array (mapItems f items)
  | object fields => object (mapFields f fields)
  | v => v

/-- Change every string among the items of an array. -/
def mapItems (f : String → String) : List Json → List Json
  | [] => []
  | v :: rest => mapStrings f v :: mapItems f rest

/-- Change every string among the fields of an object. -/
def mapFields (f : String → String) : List (String × Json) → List (String × Json)
  | [] => []
  | (k, v) :: rest => (k, mapStrings f v) :: mapFields f rest

end

mutual

/-- Put the fields of every object in the order of their names. -/
def sortKeys : Json → Json
  | array items => array (sortItems items)
  | object fields => object ((sortFields fields).mergeSort fun a b => !decide (b.1 < a.1))
  | v => v

/-- Put the fields of the objects among the items of an array in order. -/
def sortItems : List Json → List Json
  | [] => []
  | v :: rest => sortKeys v :: sortItems rest

/-- Put the fields of the objects among the fields of an object in order. -/
def sortFields : List (String × Json) → List (String × Json)
  | [] => []
  | (k, v) :: rest => (k, sortKeys v) :: sortFields rest

end

end Json

end ClusterAgent
