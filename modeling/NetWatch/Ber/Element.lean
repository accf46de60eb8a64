import NetWatch.Ber.Tag
import NetWatch.Ber.Length
import NetWatch.Ber.Integer
import NetWatch.Oid.Content

/-!
# Elements

An element is a tag, a definite length and that many content octets. The functions on `Element`
say which contents are legal for a kind of value; those that end in `At` read one element at an
offset of a buffer without looking for any particular tag.
-/

namespace NetWatch.Ber

/-- A tag and a length. The content lies at the front of `body`. -/
structure Header where
  tag : Tag
  length : Nat
  body : Window

/-- A whole element of a window. -/
structure Element where
  tag : Tag
  /-- The offset of the tag. -/
  start : Nat
  /-- The content, with its offset. -/
  content : Window
  /-- What follows the content. -/
  after : Window

/-- Tag, shortest length and content. -/
def encodeElement (tag : Tag) (content : Octets) : Octets :=
  tag :: (Length.encode content.length ++ content)

/-- The header at the front of a window, if the window holds the content too. -/
def Window.header (w : Window) : Except DecodeError Header :=
  match w.octets with
  | [] => w.fail .truncated
  | tag :: rest => do
    let (length, body) ← Length.read ⟨w.offset + 1, rest⟩
    match body.split? length with
    | none => body.fail .overrun
    | some _ => .ok ⟨tag, length, body⟩

/-- The element at the front of a window. -/
def Window.element (w : Window) : Except DecodeError Element := do
  let h ← w.header
  match h.body.split? h.length with
  | none => h.body.fail .overrun
  | some (content, after) => .ok ⟨h.tag, w.offset, ⟨h.body.offset, content⟩, after⟩

namespace Element

/-- One to four octets, in two's complement. -/
def integer32 (e : Element) : Except DecodeError Int32 :=
  let c := e.content.octets
  if c.isEmpty then e.content.fail .emptyInteger
  else if c.length > 4 then e.content.fail .integerOverflow
  else .ok (Int32.ofInt (Integer.value c))

/-- One to four octets in two's complement, cut to 32 bits, or a zero octet and four more. -/
def unsigned32 (e : Element) : Except DecodeError UInt32 :=
  let c := e.content.octets
  if c.isEmpty then e.content.fail .emptyInteger
  else if c.length ≤ 4 ∨ c.length = 5 ∧ c.head? = some 0 then
    .ok (UInt32.ofNat (Integer.value c % 4294967296).toNat)
  else e.content.fail .integerOverflow

/-- One to eight octets as a plain number, or a zero octet and eight more. -/
def unsigned64 (e : Element) : Except DecodeError UInt64 :=
  let c := e.content.octets
  if c.isEmpty then e.content.fail .emptyInteger
  else if c.length ≤ 8 ∨ c.length = 9 ∧ c.head? = some 0 then
    .ok (UInt64.ofNat (Octets.toNat c))
  else e.content.fail .integerOverflow

/-- Any content, unless the string is in pieces. -/
def string (e : Element) : Except DecodeError Octets :=
  if e.tag = Tag.constructedString then .error ⟨e.start, .constructedString⟩
  else .ok e.content.octets

/-- No content at all. -/
def null (e : Element) : Except DecodeError Unit :=
  if e.content.octets.isEmpty then .ok () else e.content.fail .invalidNull

def oid (e : Element) : Except DecodeError Oid :=
  match Oid.ofContent e.content.octets with
  | .ok oid => .ok oid
  | .error _ => e.content.fail .invalidOid

end Element

/-- A value read at an offset, with its tag and the offset behind it. -/
structure Parsed (α : Type) where
  next : Nat
  tag : Tag
  value : α

/-- Reads the element at `offset`, whatever its tag. -/
def parseAt (item : Element → Except DecodeError α) (data : Octets) (offset : Nat) :
    Except DecodeError (Parsed α) := do
  let e ← (Window.startingAt data offset).element
  let value ← item e
  return ⟨e.after.offset, e.tag, value⟩

def headerAt (data : Octets) (offset : Nat) : Except DecodeError (Parsed Nat) := do
  let h ← (Window.startingAt data offset).header
  return ⟨h.body.offset, h.tag, h.length⟩

def integer32At := parseAt Element.integer32
def unsigned32At := parseAt Element.unsigned32
def unsigned64At := parseAt Element.unsigned64
def stringAt := parseAt Element.string
def nullAt := parseAt Element.null
def oidAt := parseAt Element.oid

end NetWatch.Ber
