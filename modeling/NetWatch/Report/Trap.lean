import NetWatch.Report.Shown
import NetWatch.Snmp.Message

/-!
# Reports of notifications

One record for each message received, and its text in each style.
-/

namespace NetWatch.Report

open Net (Endpoint)
open Snmp (PduBody VarBind Version)
open Text (Json)

structure BindingRecord where
  oid : Oid
  name : Option String
  shown : Shown

structure TrapRecord where
  source : String
  version : Version
  community : String
  pduType : Snmp.PduType
  requestId : Option Int32
  trapOid : Option Oid
  trapName : Option String
  uptime : Option UInt32
  agent : Option Net.Ipv4
  bindings : List BindingRecord

/-- The name of an object, if names are wanted. -/
def Options.nameOf (o : Options) (oid : Oid) : Option String :=
  if o.names then Names.lookup oid else none

def BindingRecord.ofVarBind (o : Options) (vb : VarBind) : BindingRecord :=
  ⟨vb.oid, o.nameOf vb.oid, .ofValue o.hex vb.value⟩

/-- A community that is no text is shown with replacement characters. -/
def TrapRecord.ofMessage (o : Options) (source : String) (version : Version) (community : Octets)
    (body : PduBody) : TrapRecord where
  source := source
  version := version
  community := Text.Utf8.decodeLossy community
  pduType := body.pduType
  requestId := match body with
    | .pdu p => some p.requestId
    | .trapV1 _ => none
  trapOid := body.trapOid?
  trapName := body.trapOid?.bind o.nameOf
  uptime := match body with
    | .pdu p => p.uptime?
    | .trapV1 t => some t.uptime
  agent := match body with
    | .pdu _ => none
    | .trapV1 t => some t.agentAddr
  bindings := body.varbinds.map (.ofVarBind o)

/-- A field that is left out where there is nothing. -/
def optional (key : String) : Option Json → List (String × Json)
  | some value => [(key, value)]
  | none => []

namespace BindingRecord

def human (r : BindingRecord) : String :=
  let name := match r.name with
    | some name => s!" ({name})"
    | none => ""
  s!"  {r.oid.text}{name} = {r.shown.typeName}: {r.shown.human}\n"

def json (r : BindingRecord) : Json :=
  .object ([("oid", .string r.oid.text)] ++ optional "hint" (r.name.map .string) ++
    [("type", .string r.shown.typeName), ("value", r.shown.value)] ++
    optional "formatted" (r.shown.formatted.map .string))

def raw (r : BindingRecord) : String := s!"\t{r.oid.text}\t{r.shown.raw}\n"

end BindingRecord

namespace TrapRecord

def human (r : TrapRecord) : String :=
  let trap := match r.trapOid, r.trapName with
    | some oid, some name => s!" {oid.text} ({name})"
    | some oid, none => s!" {oid.text}"
    | none, _ => ""
  let uptime := match r.uptime with
    | some ticks => s!" up {ticksText ticks}"
    | none => ""
  let agent := match r.agent with
    | some ip => s!" agent {ip.text}"
    | none => ""
  s!"{r.pduType.name} from {r.source} ({r.version.name}, community \"{r.community}\")" ++
    s!"{trap}{uptime}{agent}\n" ++ String.join (r.bindings.map (·.human))

def json (r : TrapRecord) : Json :=
  .object ([("source", .string r.source), ("version", .string r.version.name),
      ("community", .string r.community), ("pdu_type", .string r.pduType.name)] ++
    optional "request_id" (r.requestId.map fun n => .integer n.toInt) ++
    optional "trap_oid" (r.trapOid.map fun oid => .string oid.text) ++
    optional "trap_name" (r.trapName.map .string) ++
    optional "uptime" (r.uptime.map fun n => .integer n.toNat) ++
    optional "agent_addr" (r.agent.map fun ip => .string ip.text) ++
    [("varbinds", .array (r.bindings.map (·.json)))])

/-- One line for the message and one for each binding. -/
def raw (r : TrapRecord) : String :=
  let trap := match r.trapOid with
    | some oid => oid.text
    | none => "-"
  s!"{r.source}\t{r.pduType.name}\t{trap}\n" ++ String.join (r.bindings.map (·.raw))

def text (r : TrapRecord) : Style → String
  | .human => r.human
  | .json => r.json.pretty ++ "\n"
  | .raw => r.raw

end TrapRecord

end NetWatch.Report
