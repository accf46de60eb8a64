import NetWatch.Ber.Element

/-!
# Readers

A reader takes values from the front of a window. It may fail after it has moved: `constructed`
has passed the header by the time it looks at the tag, and `ipAddress` has passed the content. All
other single reads leave the window alone when they fail.
-/

namespace NetWatch.Ber

/-- A read that moves a window, also when it fails. -/
abbrev Reader := EStateM DecodeError Window

namespace Reader

/-- The state after a read, whether it succeeded or not. -/
def runOn (r : Reader α) (w : Window) : Except DecodeError α × Window :=
  match r w with
  | .ok a w' => (.ok a, w')
  | .error e w' => (.error e, w')

def fail (offset : Nat) (problem : DecodeProblem) : Reader α := fun w =>
  .error ⟨offset, problem⟩ w

/-- Takes what `item` finds in the next element and moves behind it. A failure does not move. -/
def element (item : Element → Except DecodeError α) : Reader α := fun w =>
  match w.element with
  | .error e => .error e w
  | .ok e => match item e with
    | .error e => .error e w
    | .ok a => .ok a e.after

/-- Refuses an element with another tag. -/
def tagged (expected : Tag) (item : Element → Except DecodeError α) : Reader α :=
  element fun e => do
    let value ← item e
    if e.tag = expected then return value
    else .error ⟨e.start, .unexpectedTag expected e.tag⟩

def offset : Reader Nat := Window.offset <$> get

def isEmpty : Reader Bool := (fun w => w.octets.isEmpty) <$> get

/-- The next tag, without moving. -/
def peekTag? : Reader (Option Tag) := (fun w => w.octets.head?) <$> get

/-- A tag and a length; moves to the content. -/
def header : Reader (Tag × Nat) := fun w =>
  match w.header with
  | .error e => .error e w
  | .ok h => .ok (h.tag, h.length) h.body

/-- The next `n` octets as they are. -/
def bytes (n : Nat) : Reader Octets := fun w =>
  match w.split? n with
  | none => .error ⟨w.offset, .truncated⟩ w
  | some (data, after) => .ok data after

/-- A window over the next `n` octets; moves behind them. -/
def window (n : Nat) : Reader Window := fun w =>
  match w.split? n with
  | none => .error ⟨w.offset, .overrun⟩ w
  | some (data, after) => .ok ⟨w.offset, data⟩ after

/-- The content of a constructed element. -/
def constructed (expected : Tag) : Reader Window := do
  let start ← offset
  let (tag, length) ← header
  if tag = expected then window length
  else fail start (.unexpectedTag expected tag)

def sequence : Reader Window := constructed Tag.sequence

def integerTagged (expected : Tag) : Reader Int32 := tagged expected Element.integer32
def integer : Reader Int32 := integerTagged Tag.integer
def unsigned32 (expected : Tag) : Reader UInt32 := tagged expected Element.unsigned32
def unsigned64 (expected : Tag) : Reader UInt64 := tagged expected Element.unsigned64
def string (expected : Tag) : Reader Octets := tagged expected Element.string
def octetString : Reader Octets := string Tag.octetString
def empty (expected : Tag) : Reader Unit := tagged expected Element.null
def null : Reader Unit := empty Tag.null
def oid : Reader Oid := tagged Tag.objectIdentifier Element.oid

/-- A string of four octets. One of another length has been passed when it is refused. -/
def ipAddress : Reader Net.Ipv4 := do
  let start ← offset
  let data ← string Tag.ipAddress
  match Net.Ipv4.ofOctets? data with
  | some ip => return ip
  | none => fail start (.ipAddressLength data.length)

/-- Refuses a window with octets left. -/
def expectEnd : Reader Unit := fun w =>
  if w.octets.isEmpty then .ok () w else .error ⟨w.offset, .trailing w.remaining⟩ w

/-- Reads inside another window; the current one stays where it is. -/
def within (inner : Window) (r : Reader α) : Reader α := fun w =>
  match r inner with
  | .ok a _ => .ok a w
  | .error e _ => .error e w

/-- Reads items until the window is empty, at most `fuel` of them. -/
def repeatedly (item : Reader α) : (fuel : Nat) → Reader (List α)
  | 0 => pure []
  | fuel + 1 => do
    if ← isEmpty then return []
    let a ← item
    let rest ← repeatedly item fuel
    return a :: rest

/-- Reads items until the window is empty. An item takes at least one octet, so there are at most
as many as octets. -/
def untilEnd (item : Reader α) : Reader (List α) := do
  repeatedly item (← get).remaining

end Reader

end NetWatch.Ber
