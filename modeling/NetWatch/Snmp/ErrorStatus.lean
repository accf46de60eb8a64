/-!
# Error status

The status codes of a response and their names.
-/

namespace NetWatch.Snmp

inductive ErrorStatus where
  | noError
  | tooBig
  | noSuchName
  | badValue
  | readOnly
  | genErr
  | noAccess
  | wrongType
  | wrongLength
  | wrongEncoding
  | wrongValue
  | noCreation
  | inconsistentValue
  | resourceUnavailable
  | commitFailed
  | undoFailed
  | authorizationError
  | notWritable
  | inconsistentName
  /-- A code that the standard does not name. -/
  | unknown (code : Int32)
  deriving DecidableEq

namespace ErrorStatus

/-- The named statuses with their codes and names. -/
def table : List (Int32 × ErrorStatus × String) := [
  (0, noError, "noError"),
  (1, tooBig, "tooBig"),
  (2, noSuchName, "noSuchName"),
  (3, badValue, "badValue"),
  (4, readOnly, "readOnly"),
  (5, genErr, "genErr"),
  (6, noAccess, "noAccess"),
  (7, wrongType, "wrongType"),
  (8, wrongLength, "wrongLength"),
  (9, wrongEncoding, "wrongEncoding"),
  (10, wrongValue, "wrongValue"),
  (11, noCreation, "noCreation"),
  (12, inconsistentValue, "inconsistentValue"),
  (13, resourceUnavailable, "resourceUnavailable"),
  (14, commitFailed, "commitFailed"),
  (15, undoFailed, "undoFailed"),
  (16, authorizationError, "authorizationError"),
  (17, notWritable, "notWritable"),
  (18, inconsistentName, "inconsistentName")]

def ofCode (code : Int32) : ErrorStatus :=
  match table.find? (·.1 = code) with
  | some (_, status, _) => status
  | none => unknown code

def code : ErrorStatus → Int32
  | unknown code => code
  | status => ((table.find? (·.2.1 = status)).map (·.1)).getD 0

def name : ErrorStatus → String
  | unknown code => s!"unknown({code.toInt})"
  | status => ((table.find? (·.2.1 = status)).map (·.2.2)).getD ""

end ErrorStatus

end NetWatch.Snmp
