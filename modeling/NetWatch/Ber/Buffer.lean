import NetWatch.Ber.Tag
import NetWatch.Ber.Length
import NetWatch.Ber.Integer
import NetWatch.Oid.Content

/-!
# Writing into a buffer

These writers put one element at an offset of a buffer of fixed size and give the offset behind
it. An element that does not fit whole leaves the buffer as it was. Only `header` on its own can
leave a tag without its length.
-/

namespace NetWatch.Ber

/-- A write into a buffer, which keeps what was written also when it fails. -/
abbrev BufferWriter := EStateM EncodeError Octets

namespace BufferWriter

/-- The result and the buffer as it was left. -/
def runOn (w : BufferWriter α) (buf : Octets) : Except EncodeError α × Octets :=
  match w buf with
  | .ok a buf' => (.ok a, buf')
  | .error e buf' => (.error e, buf')

/-- Puts `data` at `offset` if it fits. -/
def put (offset : Nat) (data : Octets) : BufferWriter Nat := fun buf =>
  if offset + data.length ≤ buf.length then
    .ok (offset + data.length) (buf.overwrite offset data)
  else .error (.bufferTooSmall data.length (buf.length - offset)) buf

/-- A tag and the length of a content to come. The tag stays when the length does not fit. -/
def header (offset : Nat) (tag : Tag) (len : Nat) : BufferWriter Nat := do
  if len ≥ Length.bound then throw (.lengthOverflow len)
  let next ← put offset [tag]
  put next (Length.encode len)

/-- One whole element. -/
def element (offset : Nat) (tag : Tag) (content : Octets) : BufferWriter Nat := do
  let needed := 1 + Length.size content.length + content.length
  let available := (← get).length - offset
  if needed > available then throw (.bufferTooSmall needed available)
  let next ← header offset tag content.length
  put next content

def integer32 (offset : Nat) (tag : Tag) (n : Int32) : BufferWriter Nat :=
  element offset tag (Integer.content n.toInt)

def unsigned32 (offset : Nat) (tag : Tag) (n : UInt32) : BufferWriter Nat :=
  element offset tag (Integer.content n.toNat)

def unsigned64 (offset : Nat) (tag : Tag) (n : UInt64) : BufferWriter Nat :=
  element offset tag (Integer.content n.toNat)

def string (offset : Nat) (tag : Tag) (data : Octets) : BufferWriter Nat :=
  element offset tag data

def null (offset : Nat) (tag : Tag) : BufferWriter Nat :=
  element offset tag []

def oid (offset : Nat) (tag : Tag) (oid : Oid) : BufferWriter Nat :=
  element offset tag oid.content

end BufferWriter

end NetWatch.Ber
