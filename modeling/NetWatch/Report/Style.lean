/-!
# Report styles

How records are written, and what is shown in them.
-/

namespace NetWatch.Report

inductive Style where
  /-- One readable line for each record, and one for each binding. -/
  | human
  /-- JSON over several lines. -/
  | json
  /-- Fields with tabs between them. -/
  | raw
  deriving DecidableEq

namespace Style

def all : List Style := [human, json, raw]

def name : Style → String
  | human => "human"
  | json => "json"
  | raw => "raw"

/-- Names are in lower case. -/
def ofName? (s : String) : Option Style := all.find? (·.name = s)

end Style

structure Options where
  style : Style := .human
  /-- Whether objects are annotated with their names. -/
  names : Bool := true
  /-- Whether octet strings are always in hexadecimal. -/
  hex : Bool := false
  deriving DecidableEq

end NetWatch.Report
