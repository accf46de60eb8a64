import NetWatch.Error
import NetWatch.Text.Blank
import NetWatch.Text.Numeral

/-!
# Assigning 32-bit unsigned values

The unsigned syntaxes keep the low 32 bits of whatever is assigned to them. Text must be a numeral
of 64 bits with sign; below zero it is refused, beyond 32 bits it is cut.
-/

namespace NetWatch.Smi.Unsigned

/-- The low 32 bits, that is the remainder modulo 2^32. -/
def ofInt (n : Int) : UInt32 := UInt32.ofNat (n % 4294967296).toNat

/-- Reads decimal text between blanks. -/
def ofText (s : String) : Except Error UInt32 :=
  let body := Text.trim s.toList
  match Text.int64? body with
  | none => .error (.numberFormat (String.ofList body))
  | some n => if n < 0 then .error (.invalidArgument (.negative n)) else .ok (ofInt n)

/-- A tick is a hundredth of a second. -/
def tickMillis (ticks : UInt32) : Nat := ticks.toNat * 10

end NetWatch.Smi.Unsigned
