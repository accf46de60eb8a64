import NetWatch.Error
import NetWatch.Text.Blank
import NetWatch.Text.Numeral

/-!
# Parameters

Settings of one poll as text under text keys; a key has its last value. A setting that is missing,
is no numeral or is out of range gives the default.
-/

namespace NetWatch.Monitor

/-- Keys with their values, each key once. -/
structure Parameters where
  entries : List (String × String)
  deriving DecidableEq

namespace Parameters

def empty : Parameters := ⟨[]⟩

def get? (p : Parameters) (key : String) : Option String :=
  (p.entries.find? (·.1 = key)).map (·.2)

/-- Sets a key, in place of its value so far. -/
def insert (p : Parameters) (key value : String) : Parameters :=
  ⟨p.entries.filter (·.1 ≠ key) ++ [(key, value)]⟩

def insertAll (p : Parameters) (pairs : List (String × String)) : Parameters :=
  pairs.foldl (fun p kv => p.insert kv.1 kv.2) p

def ofList (pairs : List (String × String)) : Parameters := empty.insertAll pairs

def size (p : Parameters) : Nat := p.entries.length

def isEmpty (p : Parameters) : Bool := p.entries.isEmpty

/-- The number under a key, below `bound`. -/
def natural? (p : Parameters) (key : String) (bound : Nat) : Option Nat := do
  Text.natural? bound (Text.trim (← p.get? key).toList)

def retry (p : Parameters) (default : UInt32) : UInt32 :=
  ((p.natural? "retry" UInt32.size).map UInt32.ofNat).getD default

def port (p : Parameters) (default : UInt16) : UInt16 :=
  ((p.natural? "port" UInt16.size).map UInt16.ofNat).getD default

/-- In milliseconds. -/
def timeout (p : Parameters) (default : Nat) : Nat :=
  (p.natural? "timeout" UInt64.size).getD default

/-- The number under any key, of 64 bits with sign. -/
def int (p : Parameters) (key : String) (default : Int) : Int :=
  (do Text.int64? (Text.trim (← p.get? key).toList)).getD default

/-- Splits at the first `=`; blanks around both parts are dropped, and the key may not be empty. -/
def parseAssignment (s : String) : Except Error (String × String) :=
  let cs := s.toList
  let key := Text.trim (cs.takeWhile (· ≠ '='))
  match cs.dropWhile (· ≠ '=') with
  | _ :: value =>
    if key.isEmpty then .error (.invalidArgument (.notAssignment s))
    else .ok (String.ofList key, String.ofList (Text.trim value))
  | [] => .error (.invalidArgument (.notAssignment s))

/-- The first bad assignment is the error. -/
def ofAssignments (assignments : List String) : Except Error Parameters :=
  assignments.foldlM (fun p s => do
    let (key, value) ← parseAssignment s
    return p.insert key value) empty

end Parameters

end NetWatch.Monitor
