import NetWatch.Octets
import NetWatch.Error

/-!
# Definite lengths

A length below 128 is its own octet. A longer one is `0x80` plus the count of its base-256 digits,
at most four, and then these digits. Writing takes the shortest form, reading accepts any.
-/

namespace NetWatch.Ber

/-- What is left to read of a message, and where in the message it stands. -/
structure Window where
  offset : Nat
  octets : Octets
  deriving DecidableEq

namespace Window

/-- The whole of a message. -/
def whole (data : Octets) : Window := ⟨0, data⟩

/-- What stands from `offset` on. -/
def startingAt (data : Octets) (offset : Nat) : Window := ⟨offset, data.drop offset⟩

/-- The octets left. -/
def remaining (w : Window) : Nat := w.octets.length

/-- The next `n` octets and the window behind them. -/
def split? (w : Window) (n : Nat) : Option (Octets × Window) :=
  let front := w.octets.take n
  if front.length < n then none else some (front, ⟨w.offset + n, w.octets.drop n⟩)

def fail (w : Window) (problem : DecodeProblem) : Except DecodeError α :=
  .error ⟨w.offset, problem⟩

end Window

namespace Length

/-- The most digits that a long form may have. -/
def maxOctets : Nat := 4

/-- Lengths from here on have no encoding. -/
def bound : Nat := UInt32.size

/-- The shortest form. Of a length that does not fit 32 bits only the low 32 are written. -/
def encode (len : Nat) : Octets :=
  if len < 0x80 then [UInt8.ofNat len]
  else
    let digits := Octets.digits (len % bound)
    UInt8.ofNat (0x80 + digits.length) :: digits

/-- How many octets `encode` writes. -/
def size (len : Nat) : Nat := (encode len).length

/-- The length that stands at the front of a window, and the window behind it. -/
def read (w : Window) : Except DecodeError (Nat × Window) :=
  match w.octets with
  | [] => w.fail .truncated
  | first :: rest =>
    let behind : Window := ⟨w.offset + 1, rest⟩
    if first < 0x80 then .ok (first.toNat, behind)
    else
      let count := first.toNat - 0x80
      if count = 0 then w.fail .indefiniteLength
      else if count > maxOctets then w.fail (.lengthTooLong count)
      else match behind.split? count with
        | none => behind.fail .truncated
        | some (digits, after) => .ok (Octets.toNat digits, after)

/-- `read` at an offset of a buffer: the length and the offset behind it. -/
def decodeAt (data : Octets) (offset : Nat) : Except DecodeError (Nat × Nat) :=
  (read (.startingAt data offset)).map fun (len, after) => (len, after.offset)

end Length

end NetWatch.Ber
