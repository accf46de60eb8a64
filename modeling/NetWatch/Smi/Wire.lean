import NetWatch.Smi.Value
import NetWatch.Ber.Reader
import NetWatch.Ber.Builder

/-!
# Values in a message

Values as parts of a message that is read from its front and built from its end.
-/

namespace NetWatch.Smi.Value

open NetWatch.Ber

/-- Puts the encoding of a value in front. -/
def push (v : Value) (b : Builder) : Builder :=
  match v with
  | int32 n => b.pushInteger n
  | unsigned32 n => b.pushUnsigned32 Tag.unsigned32 n
  | counter32 n => b.pushUnsigned32 Tag.counter32 n
  | timeTicks n => b.pushUnsigned32 Tag.timeTicks n
  | counter64 n => b.pushUnsigned64 Tag.counter64 n
  | octetString data => b.pushOctetString data
  | opaqueData data => b.pushString Tag.opaqueData data
  | ipAddress ip => b.pushIpAddress ip
  | objectId oid => b.pushOid oid
  | null | noSuchObject | noSuchInstance | endOfMibView => b.pushEmpty v.tag

/-- Reads a value with the read that its tag calls for. -/
def readTagged (tag : Tag) : Reader Value :=
  if tag = Tag.integer then int32 <$> Reader.integer
  else if tag = Tag.unsigned32 then unsigned32 <$> Reader.unsigned32 tag
  else if tag = Tag.counter32 then counter32 <$> Reader.unsigned32 tag
  else if tag = Tag.timeTicks then timeTicks <$> Reader.unsigned32 tag
  else if tag = Tag.counter64 then counter64 <$> Reader.unsigned64 tag
  else if tag = Tag.octetString then octetString <$> Reader.string tag
  else if tag = Tag.opaqueData then opaqueData <$> Reader.string tag
  else if tag = Tag.ipAddress then ipAddress <$> Reader.ipAddress
  else if tag = Tag.objectIdentifier then objectId <$> Reader.oid
  else if tag = Tag.null then (fun _ => null) <$> Reader.null
  else if tag = Tag.noSuchObject then (fun _ => noSuchObject) <$> Reader.empty tag
  else if tag = Tag.noSuchInstance then (fun _ => noSuchInstance) <$> Reader.empty tag
  else if tag = Tag.endOfMibView then (fun _ => endOfMibView) <$> Reader.empty tag
  else do Reader.fail (← Reader.offset) (.unknownValueType tag)

/-- Reads a value of any syntax. -/
def read : Reader Value := do
  match ← Reader.peekTag? with
  | none => Reader.fail (← Reader.offset) .truncated
  | some tag => readTagged tag

end NetWatch.Smi.Value
