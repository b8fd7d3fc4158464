import FourReg.Assembly
import FourReg.Cli.Arguments
import FourReg.Cli.Failure
import FourReg.Cli.Interpret
import FourReg.Cli.Notice
import FourReg.Cli.Scan
import FourReg.Cli.World
import FourReg.Instruction
import FourReg.Machine
import FourReg.Main
import FourReg.Program
import FourReg.Proofs.Assignments
import FourReg.Proofs.Command
import FourReg.Proofs.CountedLoops
import FourReg.Proofs.Cursor
import FourReg.Proofs.Diagnostics
import FourReg.Proofs.Dumps
import FourReg.Proofs.Echo
import FourReg.Proofs.Encoding
import FourReg.Proofs.Faults
import FourReg.Proofs.Flow
import FourReg.Proofs.ForwardJumps
import FourReg.Proofs.Grammar
import FourReg.Proofs.Halting
import FourReg.Proofs.History
import FourReg.Proofs.JoinedLines
import FourReg.Proofs.Layout
import FourReg.Proofs.Limits
import FourReg.Proofs.Lines
import FourReg.Proofs.Loading
import FourReg.Proofs.Messages
import FourReg.Proofs.Multiplication
import FourReg.Proofs.Notices
import FourReg.Proofs.Numerals
import FourReg.Proofs.Overriding
import FourReg.Proofs.Placement
import FourReg.Proofs.Quotation
import FourReg.Proofs.Reading
import FourReg.Proofs.Recording
import FourReg.Proofs.Refusals
import FourReg.Proofs.Repetition
import FourReg.Proofs.RoundTrip
import FourReg.Proofs.Runs
import FourReg.Proofs.Steps
import FourReg.Proofs.Tracing
import FourReg.Proofs.Unbounded
import FourReg.Proofs.UniqueReading
import FourReg.Register
import FourReg.Session
import FourReg.Session.Console
import FourReg.Session.Load
import FourReg.Session.Trace
import FourReg.Source.Line
import FourReg.Source.Reader
import FourReg.SystemError
import FourReg.Text.Blank
import FourReg.Text.Decimal
import FourReg.Text.Decimal.Lemmas
import FourReg.Text.Dump
import FourReg.Text.Hidden
import FourReg.Text.Quoted
import FourReg.Text.Split
