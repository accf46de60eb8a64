import NetWatch.Ber.Buffer
import NetWatch.Ber.Builder
import NetWatch.Ber.Element
import NetWatch.Ber.Integer
import NetWatch.Ber.Length
import NetWatch.Ber.Reader
import NetWatch.Ber.Tag
import NetWatch.Decimal.Binary64
import NetWatch.Decimal.Shortest
import NetWatch.Error
import NetWatch.Icmp.Checksum
import NetWatch.Icmp.Echo
import NetWatch.Icmp.Service
import NetWatch.Icmp.Transport
import NetWatch.Main
import NetWatch.Monitor.Attempt
import NetWatch.Monitor.Icmp
import NetWatch.Monitor.Imap
import NetWatch.Monitor.LineStream
import NetWatch.Monitor.Parameters
import NetWatch.Monitor.Pop3
import NetWatch.Monitor.Status
import NetWatch.Net.Address
import NetWatch.Net.SystemError
import NetWatch.Octets
import NetWatch.Oid.Basic
import NetWatch.Oid.Content
import NetWatch.Oid.Text
import NetWatch.Probing.Correlator
import NetWatch.Program.Arguments
import NetWatch.Program.OutputOptions
import NetWatch.Program.ServicePoll
import NetWatch.Program.TrapDaemon
import NetWatch.Report.Names
import NetWatch.Report.Poll
import NetWatch.Report.Shown
import NetWatch.Report.Style
import NetWatch.Report.Trap
import NetWatch.Scenario.Correlation
import NetWatch.Scenario.IcmpRun
import NetWatch.Scenario.ProgramRun
import NetWatch.Scenario.Sockets
import NetWatch.Scenario.TcpRun
import NetWatch.Scenario.TrapRun
import NetWatch.Scenario.World
import NetWatch.Smi.Push
import NetWatch.Smi.Syntax
import NetWatch.Smi.Unsigned
import NetWatch.Smi.Value
import NetWatch.Smi.Wire
import NetWatch.Snmp.ErrorStatus
import NetWatch.Snmp.Message
import NetWatch.Snmp.Pdu
import NetWatch.Snmp.VarBind
import NetWatch.Text.Blank
import NetWatch.Text.Json
import NetWatch.Text.Numeral
import NetWatch.Text.Printable
import NetWatch.Text.Quoted
import NetWatch.Text.Utf8
import NetWatch.Trap.Session
import NetWatch.Trap.Status
import NetWatch.Proofs.Ber.Agreement
import NetWatch.Proofs.Ber.Buffer
import NetWatch.Proofs.Ber.Canonical
import NetWatch.Proofs.Ber.Contents
import NetWatch.Proofs.Ber.Extent
import NetWatch.Proofs.Ber.FixedWidth
import NetWatch.Proofs.Ber.Grammar
import NetWatch.Proofs.Ber.Integer
import NetWatch.Proofs.Ber.Length
import NetWatch.Proofs.Ber.Locality
import NetWatch.Proofs.Ber.Numbers
import NetWatch.Proofs.Ber.Recognition
import NetWatch.Proofs.Ber.Rounds
import NetWatch.Proofs.Ber.Shortest
import NetWatch.Proofs.Ber.Windows
import NetWatch.Proofs.Ber.Words
import NetWatch.Proofs.Ber.Writing
import NetWatch.Proofs.Icmp.Answers
import NetWatch.Proofs.Icmp.Checksum
import NetWatch.Proofs.Icmp.Codec
import NetWatch.Proofs.Icmp.Fields
import NetWatch.Proofs.Icmp.Sharing
import NetWatch.Proofs.Monitor.Exchanges
import NetWatch.Proofs.Monitor.Imap
import NetWatch.Proofs.Monitor.Lines
import NetWatch.Proofs.Monitor.Parameters
import NetWatch.Proofs.Monitor.Pop3
import NetWatch.Proofs.Monitor.Retry
import NetWatch.Proofs.Oid.Content
import NetWatch.Proofs.Oid.Text
import NetWatch.Proofs.Probing.Allocation
import NetWatch.Proofs.Probing.Attempts
import NetWatch.Proofs.Probing.Bookkeeping
import NetWatch.Proofs.Probing.Bounds
import NetWatch.Proofs.Probing.Entries
import NetWatch.Proofs.Probing.Exit
import NetWatch.Proofs.Probing.Fate
import NetWatch.Proofs.Probing.Keys
import NetWatch.Proofs.Probing.Outcome
import NetWatch.Proofs.Probing.Pending
import NetWatch.Proofs.Probing.Registration
import NetWatch.Proofs.Probing.Routing
import NetWatch.Proofs.Probing.Step
import NetWatch.Proofs.Report.Names
import NetWatch.Proofs.Report.Raw
import NetWatch.Proofs.Smi.Agreement
import NetWatch.Proofs.Smi.Push
import NetWatch.Proofs.Smi.RoundTrip
import NetWatch.Proofs.Smi.Unsigned
import NetWatch.Proofs.Smi.Whole
import NetWatch.Proofs.Snmp.Bindings
import NetWatch.Proofs.Snmp.Canonical
import NetWatch.Proofs.Snmp.Grammar
import NetWatch.Proofs.Snmp.Locality
import NetWatch.Proofs.Snmp.Recognition
import NetWatch.Proofs.Snmp.Response
import NetWatch.Proofs.Snmp.RoundTrip
import NetWatch.Proofs.Snmp.TrapName
import NetWatch.Proofs.Snmp.Windows
import NetWatch.Proofs.Snmp.Writing
import NetWatch.Proofs.Text.Blank
import NetWatch.Proofs.Text.Numeral
import NetWatch.Proofs.Text.Utf8
import NetWatch.Proofs.Trap.Dispatch
import NetWatch.Proofs.Trap.Lifecycle
import NetWatch.Proofs.Trap.Silence
import NetWatch.Proofs.Trap.Steps
import NetWatch.Proofs.Trap.Truncation
