import NetWatch.Smi.Wire

/-!
# Variable bindings

A binding is a sequence of a name and a value; a list of bindings is a sequence of them.
-/

namespace NetWatch.Snmp

open NetWatch.Ber NetWatch.Smi

structure VarBind where
  oid : Oid
  value : Value := .null
  deriving DecidableEq

namespace VarBind

def text (vb : VarBind) : String := s!"{vb.oid.text} = {vb.value.text}"

def push (vb : VarBind) (b : Builder) : Builder :=
  b.pushSequence fun b => (vb.value.push b).pushOid vb.oid

def encode (vb : VarBind) : Octets := Builder.build vb.push

/-- Puts a list of bindings in front, its last binding first. -/
def pushList (vbs : List VarBind) (b : Builder) : Builder :=
  b.pushSequence fun b => vbs.foldr push b

/-- The content of a binding, with nothing behind the value. -/
def readBody : Reader VarBind := do
  let oid ← Reader.oid
  let value ← Value.read
  Reader.expectEnd
  return ⟨oid, value⟩

def read : Reader VarBind := do
  Reader.within (← Reader.sequence) readBody

def readList : Reader (List VarBind) := do
  Reader.within (← Reader.sequence) (Reader.untilEnd read)

end VarBind

end NetWatch.Snmp
