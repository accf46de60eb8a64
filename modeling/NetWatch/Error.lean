import NetWatch.Net.Address
import NetWatch.Net.SystemError
import NetWatch.Text.Quoted

/-!
# Errors

Each failure is a cause with what it was found in. The wording of all of them stands in the
`message` functions of this module.
-/

namespace NetWatch

open Net (IpAddress Endpoint IoError)

/-- What was wrong with the octets at some offset. -/
inductive DecodeProblem where
  | unexpectedTag (expected actual : UInt8)
  | truncated
  | invalidLength
  | indefiniteLength
  | integerOverflow
  | emptyInteger
  | invalidOid
  | unknownVersion (version : Int32)
  | unknownPduType (tag : UInt8)
  | unknownValueType (tag : UInt8)
  | constructedString
  | invalidNull
  | ipAddressLength (length : Nat)
  | lengthTooLong (octets : Nat)
  | overrun
  | trailing (remaining : Nat)
  deriving DecidableEq

/-- A problem and where it was found, counted from the start of the message. -/
structure DecodeError where
  offset : Nat
  problem : DecodeProblem
  deriving DecidableEq

/-- Why a value was not written into a buffer. -/
inductive EncodeError where
  | bufferTooSmall (needed available : Nat)
  | lengthOverflow (length : Nat)
  deriving DecidableEq

/-- What was wrong with an object identifier. -/
inductive OidProblem where
  | empty
  | invalidArc
  | invalidFirstArc (first : UInt32)
  | invalidSecondArc (first second : UInt32)
  | tooManyArcs (count max : Nat)
  deriving DecidableEq

/-- An argument outside the domain of its operation. -/
inductive ArgumentProblem where
  | negative (value : Int)
  | ipv4Only (target : IpAddress)
  | notAssignment (text : String)
  | missingBindAddress
  | invalidBindAddress (text : String)
  | zeroMessageSize
  | described (text : String)
  deriving DecidableEq

inductive Error where
  | io (target : Option Endpoint) (source : IoError)
  | decode (error : DecodeError)
  | encode (error : EncodeError)
  | invalidArgument (problem : ArgumentProblem)
  /-- A text that is no number. -/
  | numberFormat (input : String)
  /-- With the text it was read from, if there was one. -/
  | invalidOid (problem : OidProblem) (input : Option String)
  | illegalState (operation state : String)
  | noRouteToHost (target : IpAddress)
  | cancelled (target : Option IpAddress)
  deriving DecidableEq

namespace DecodeProblem

def hexTag (tag : UInt8) : String := "0x" ++ Octets.hexPair tag

def message : DecodeProblem → String
  | unexpectedTag expected actual => s!"expected tag {hexTag expected}, got {hexTag actual}"
  | truncated => "unexpected end of data"
  | invalidLength => "invalid length encoding"
  | indefiniteLength => "indefinite length encoding not supported"
  | integerOverflow => "integer overflow"
  | emptyInteger => "zero-length integer"
  | invalidOid => "invalid OID encoding"
  | unknownVersion version => s!"unknown SNMP version: {version.toInt}"
  | unknownPduType tag => s!"unknown PDU type: {hexTag tag}"
  | unknownValueType tag => s!"unknown SMI value type: {hexTag tag}"
  | constructedString => "constructed OCTET STRING (0x24) not supported"
  | invalidNull => "NULL with non-zero length"
  | ipAddressLength length => s!"IP address must be 4 bytes, got {length}"
  | lengthTooLong octets => s!"length encoding too long ({octets} octets)"
  | overrun => "TLV extends past end of data"
  | trailing remaining => s!"{remaining} trailing bytes after message"

end DecodeProblem

def DecodeError.message (e : DecodeError) : String :=
  s!"decode error at offset {e.offset}: {e.problem.message}"

def EncodeError.message : EncodeError → String
  | .bufferTooSmall needed available =>
    s!"encode error: buffer too small: need {needed} bytes, {available} available"
  | .lengthOverflow length => s!"encode error: content length {length} not encodable"

def OidProblem.message : OidProblem → String
  | .empty => "empty OID"
  | .invalidArc => "invalid arc value"
  | .invalidFirstArc first => s!"first arc must be 0, 1, or 2, got {first.toNat}"
  | .invalidSecondArc first second =>
    s!"second arc {second.toNat} too large for first arc {first.toNat}"
  | .tooManyArcs count max => s!"OID has {count} arcs, exceeds maximum {max}"

def ArgumentProblem.message : ArgumentProblem → String
  | .negative value => s!"unsigned value cannot be negative: {value}"
  | .ipv4Only target => s!"ICMP monitor is IPv4 only, got {target.text}"
  | .notAssignment text => s!"expected key=value, got {Text.Quoted.quote text}"
  | .missingBindAddress => "trap session requires a bind address"
  | .invalidBindAddress text => s!"invalid bind address: {text}"
  | .zeroMessageSize => "max_message_size must be non-zero"
  | .described text => text

namespace Error

def message : Error → String
  | io none source => s!"I/O error: {source.message}"
  | io (some target) source => s!"I/O error communicating with {target.text}: {source.message}"
  | decode e => e.message
  | encode e => e.message
  | invalidArgument problem => s!"invalid argument: {problem.message}"
  | numberFormat input => s!"invalid number format: {Text.Quoted.quote input}"
  | invalidOid problem _ => s!"invalid OID: {problem.message}"
  | illegalState operation state => s!"cannot {operation} while {state}"
  | noRouteToHost target => s!"no route to host {target.text}"
  | cancelled none => "poll cancelled"
  | cancelled (some target) => s!"poll cancelled for {target.text}"

/-- The address that the failed operation was about. -/
def target? : Error → Option IpAddress
  | io target _ => target.map (·.ip)
  | noRouteToHost target => some target
  | cancelled target => target
  | _ => none

/-- Whether malformed wire data was the cause. -/
def isDecode : Error → Bool
  | decode _ => true
  | _ => false

/-- The failed use of a correlator that is shut down. -/
def shutDown : Error := illegalState "probe" "shut down"

end Error

end NetWatch
