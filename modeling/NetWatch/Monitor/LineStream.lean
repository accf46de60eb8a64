import NetWatch.Net.SystemError
import NetWatch.Text.Blank
import NetWatch.Text.Utf8

/-!
# Streams of lines

What a peer sends over a connection: segments, and then either the end or a silence that outlasts
the timeout. Lines are read across segments, and nothing is lost between two lines.
-/

namespace NetWatch.Monitor

open Net (IoError)

/-- How a peer leaves off. -/
inductive StreamEnd where
  /-- The peer closed the connection. -/
  | closed
  /-- The peer says nothing more; a read times out. -/
  | stalled
  deriving DecidableEq

structure LineStream where
  segments : List Octets
  ending : StreamEnd
  deriving DecidableEq

namespace LineStream

/-- All octets of the stream. -/
def octets (s : LineStream) : Octets := s.segments.flatten

/-- The octets up to and with the first LF, and those behind it. -/
def cutLine (data : Octets) : Option (Octets × Octets) :=
  match data.dropWhile (· ≠ 10) with
  | [] => none
  | lf :: behind => some (data.takeWhile (· ≠ 10) ++ [lf], behind)

/-- Collects segments up to a LF: the line, or `none` at a stall, and the segments behind it. -/
def takeLine (ending : StreamEnd) (sofar : Octets) :
    List Octets → Option Octets × List Octets
  | [] => match ending with
    | .closed => (some sofar, [])
    | .stalled => (none, [])
  | segment :: rest => match cutLine segment with
    | some (line, behind) => (some (sofar ++ line), behind :: rest)
    | none => takeLine ending (sofar ++ segment) rest

/-- A line without the CR and LF at its end. -/
def trimEnd (cs : List Char) : List Char :=
  Text.dropEndWhile (fun c => c = '\r' || c = '\n') cs

/-- The next line, or `none` at the end of the stream; the last line may lack its LF. -/
def readLine (s : LineStream) : Except IoError (Option (List Char)) × LineStream :=
  let (line, rest) := takeLine s.ending [] s.segments
  let after : LineStream := ⟨rest, s.ending⟩
  match line with
  | none => (.error .wouldBlock, after)
  | some [] => (.ok none, after)
  | some data => match Text.Utf8.decode? data with
    | none => (.error .invalidText, after)
    | some text => (.ok (some (trimEnd text.toList)), after)

end LineStream

end NetWatch.Monitor
