/-!
# Tags

A tag is one octet: two bits of class, one bit for constructed contents, five bits of number.
-/

namespace NetWatch.Ber

abbrev Tag := UInt8

namespace Tag

/-! ## Universal -/

def integer : Tag := 0x02
def octetString : Tag := 0x04
def null : Tag := 0x05
def objectIdentifier : Tag := 0x06
/-- A string in pieces, which no reader here accepts. -/
def constructedString : Tag := 0x24
def sequence : Tag := 0x30

/-! ## Application -/

def ipAddress : Tag := 0x40
def counter32 : Tag := 0x41
/-- `Gauge32` and `Unsigned32` share their tag. -/
def unsigned32 : Tag := 0x42
def timeTicks : Tag := 0x43
def opaqueData : Tag := 0x44
def counter64 : Tag := 0x46

/-! ## Context specific -/

def noSuchObject : Tag := 0x80
def noSuchInstance : Tag := 0x81
def endOfMibView : Tag := 0x82
def trapV1 : Tag := 0xA4

def isConstructed (tag : Tag) : Bool := tag &&& 0x20 != 0

/-- The class bits. -/
def classBits (tag : Tag) : UInt8 := tag &&& 0xC0

end Tag

end NetWatch.Ber
