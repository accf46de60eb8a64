import NetWatch.Oid.Text

/-!
# Well-known names

A small table of objects and notifications by name. An object below an entry of a table column is
named by the entry and its own last arcs; the entries ending in `.0` are single objects and name
nothing below them.
-/

namespace NetWatch.Report.Names

def table : List (Oid × String) := [
  (⟨[1, 3, 6, 1, 2, 1, 1, 1, 0]⟩, "sysDescr.0"),
  (⟨[1, 3, 6, 1, 2, 1, 1, 3, 0]⟩, "sysUpTime.0"),
  (⟨[1, 3, 6, 1, 2, 1, 1, 5, 0]⟩, "sysName.0"),
  (⟨[1, 3, 6, 1, 6, 3, 1, 1, 4, 1, 0]⟩, "snmpTrapOID.0"),
  (⟨[1, 3, 6, 1, 6, 3, 1, 1, 4, 3, 0]⟩, "snmpTrapEnterprise.0"),
  (⟨[1, 3, 6, 1, 6, 3, 1, 1, 5, 1]⟩, "coldStart"),
  (⟨[1, 3, 6, 1, 6, 3, 1, 1, 5, 2]⟩, "warmStart"),
  (⟨[1, 3, 6, 1, 6, 3, 1, 1, 5, 3]⟩, "linkDown"),
  (⟨[1, 3, 6, 1, 6, 3, 1, 1, 5, 4]⟩, "linkUp"),
  (⟨[1, 3, 6, 1, 6, 3, 1, 1, 5, 5]⟩, "authenticationFailure"),
  (⟨[1, 3, 6, 1, 2, 1, 2, 2, 1, 1]⟩, "ifIndex"),
  (⟨[1, 3, 6, 1, 2, 1, 2, 2, 1, 7]⟩, "ifAdminStatus"),
  (⟨[1, 3, 6, 1, 2, 1, 2, 2, 1, 8]⟩, "ifOperStatus")]

/-- Whether a name is that of a single object. -/
def isInstance (name : String) : Bool := ".0".toList.isSuffixOf name.toList

/-- The entries that an object lies at or below. -/
def above (oid : Oid) : List (Oid × String) :=
  table.filter fun entry => !isInstance entry.2 && oid.startsWith entry.1

/-- The entry with the most arcs. -/
def longest : List (Oid × String) → Option (Oid × String)
  | [] => none
  | entry :: rest => match longest rest with
    | some best => if entry.1.length > best.1.length then some entry else some best
    | none => some entry

/-- The name of an object, from its own entry or from the longest one above it. -/
def lookup (oid : Oid) : Option String :=
  match table.find? (·.1 = oid) with
  | some (_, name) => some name
  | none => (longest (above oid)).map fun (base, name) =>
    name ++ "." ++ Oid.text ⟨oid.arcs.drop base.length⟩

/-- Dotted text with the name behind it, if there is one. -/
def annotated (oid : Oid) : String :=
  match lookup oid with
  | some name => s!"{oid.text} ({name})"
  | none => oid.text

/-! ## Reading -/

/-- Why a text names no object. -/
inductive NameError where
  | invalid (text : String) (cause : Error)
  | unknown (text : String)
  deriving DecidableEq

def NameError.message : NameError → String
  | .invalid text cause => s!"invalid OID '{text}': {cause.message}"
  | .unknown text => s!"unknown OID name '{text}'"

/-- An ASCII letter in lower case; other characters as they are. -/
def lower (c : Char) : Char :=
  if 'A' ≤ c ∧ c ≤ 'Z' then Char.ofNat (c.toNat + 32) else c

/-- Whether the first character behind all leading dots is a digit. -/
def isDotted (s : String) : Bool :=
  match s.toList.dropWhile (· = '.') with
  | c :: _ => (Text.digit? c).isSome
  | [] => false

/-- Reads dotted text, or a name of the table in ASCII letters of either case. -/
def parse (s : String) : Except NameError Oid :=
  if isDotted s then (Oid.ofText s).mapError (.invalid s)
  else match table.find? fun entry => entry.2.toList.map lower = s.toList.map lower with
    | some (oid, _) => .ok oid
    | none => .error (.unknown s)

end NetWatch.Report.Names
