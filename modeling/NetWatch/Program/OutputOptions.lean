import NetWatch.Program.Arguments
import NetWatch.Report.Style

/-!
# Output options

The options that both programs share: the style of the output and what is shown in it.
-/

namespace NetWatch.Program

open Report (Options Style)

structure OutputOptions where
  report : Options
  /-- How often more detail was asked for, up to 255 times. -/
  verbose : Nat
  deriving DecidableEq

namespace OutputOptions

def specs : List OptionSpec := [
  { key := "format", short := 'O', long := "format", arity := .single,
    accepts := fun s => (Style.ofName? s).isSome },
  { key := "verbose", short := 'v', long := "verbose", arity := .count },
  { key := "no-hints", long := "no-hints", arity := .flag },
  { key := "hex", short := 'x', long := "hex", arity := .flag },
  { key := "help", short := 'h', long := "help", arity := .help }]

def ofGiven (g : Given) : OutputOptions where
  report := {
    style := ((g.value? "format").bind Style.ofName?).getD .human
    names := !g.has "no-hints"
    hex := g.has "hex" }
  verbose := min 255 (g.values "verbose").length

/-- Reads a command line that has no other options. -/
def parse (args : List String) : Except UsageError OutputOptions :=
  ofGiven <$> Grammar.parse { options := specs } args

end OutputOptions

/-- The wish for the version of a program. -/
def versionSpec : OptionSpec :=
  { key := "version", short := 'V', long := "version", arity := .help }

/-- What a program leaves behind. -/
structure Outcome where
  exitCode : Nat
  stdout : String := ""
  stderr : String := ""
  deriving DecidableEq

/-- A failure after the command line was read. -/
def Outcome.failure (message : String) : Outcome :=
  { exitCode := 1, stderr := s!"Error: {message}\n" }

end NetWatch.Program
