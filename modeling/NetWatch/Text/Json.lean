import NetWatch.Decimal.Shortest
import NetWatch.Octets

/-!
# JSON text

Values with their fields in order, written with one item to a line and two blanks for each level
of nesting. An empty list has no line of its own.
-/

namespace NetWatch.Text

inductive Json where
  | null
  | integer (n : Int)
  | real (x : Decimal.Binary64)
  | string (s : String)
  | array (items : List Json)
  | object (fields : List (String × Json))

namespace Json

/-- One character as it stands in a string: short forms for seven characters, the code in
hexadecimal for the other controls, and all else as it is. -/
def escape (c : Char) : List Char :=
  if c = '"' then ['\\', '"']
  else if c = '\\' then ['\\', '\\']
  else if c = '\n' then ['\\', 'n']
  else if c = '\r' then ['\\', 'r']
  else if c = '\t' then ['\\', 't']
  else if c.toNat = 8 then ['\\', 'b']
  else if c.toNat = 12 then ['\\', 'f']
  else if c.toNat < 32 then
    ['\\', 'u', '0', '0', Octets.hexDigit (c.toNat / 16), Octets.hexDigit (c.toNat % 16)]
  else [c]

def quote (s : String) : String :=
  String.ofList ('"' :: s.toList.flatMap escape ++ ['"'])

/-- Reals are written out from 0.00001 up to sixteen places before the point. -/
def realLayout : Decimal.Layout := ⟨16, -4⟩

def indent (level : Nat) : String := String.ofList (List.replicate (2 * level) ' ')

/-- Lines between brackets. -/
def block (left right : String) (level : Nat) (lines : List String) : String :=
  if lines.isEmpty then left ++ right
  else
    let items := (",\n").intercalate (lines.map (indent (level + 1) ++ ·))
    left ++ "\n" ++ items ++ "\n" ++ indent level ++ right

mutual

/-- The text of a value that stands at a level of nesting. -/
def render (level : Nat) : Json → String
  | .null => "null"
  | .integer n => toString n
  | .real x => x.shortest.text realLayout
  | .string s => quote s
  | .array items => block "[" "]" level (renderItems (level + 1) items)
  | .object fields => block "\x7b" "\x7d" level (renderFields (level + 1) fields)

def renderItems (level : Nat) : List Json → List String
  | [] => []
  | item :: rest => render level item :: renderItems level rest

def renderFields (level : Nat) : List (String × Json) → List String
  | [] => []
  | (key, value) :: rest => (quote key ++ ": " ++ render level value) :: renderFields level rest

end

/-- The text of a whole value. -/
def pretty (value : Json) : String := value.render 0

end Json

end NetWatch.Text
