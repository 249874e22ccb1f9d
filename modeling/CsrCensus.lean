import CsrCensus.Census.Basic
import CsrCensus.Census.Log
import CsrCensus.Census.Stream
import CsrCensus.Census.Survey
import CsrCensus.Census.Tally
import CsrCensus.Command.Arguments
import CsrCensus.Command.Host
import CsrCensus.Command.Machine
import CsrCensus.Command.Run
import CsrCensus.Csr.Class
import CsrCensus.Csr.Name
import CsrCensus.Csr.Table
import CsrCensus.Elf.Fault
import CsrCensus.Elf.File
import CsrCensus.Elf.Header
import CsrCensus.Elf.Section
import CsrCensus.Failure
import CsrCensus.Files.Disk
import CsrCensus.Files.Path
import CsrCensus.Gzip.Bits
import CsrCensus.Gzip.Inflate
import CsrCensus.Gzip.Member
import CsrCensus.Gzip.PrefixCode
import CsrCensus.Image.Format
import CsrCensus.Image.Load
import CsrCensus.Instruction.Basic
import CsrCensus.Instruction.Encoding
import CsrCensus.Json.Fault
import CsrCensus.Json.Number
import CsrCensus.Json.Reader
import CsrCensus.Json.Record
import CsrCensus.Json.Skip
import CsrCensus.Json.Text
import CsrCensus.Listing.Address
import CsrCensus.Listing.Basic
import CsrCensus.Listing.Image
import CsrCensus.Listing.Sink
import CsrCensus.Log.Directive
import CsrCensus.Log.DirectiveText
import CsrCensus.Log.Filter
import CsrCensus.Log.Record
import CsrCensus.Main
import CsrCensus.Pattern.Class
import CsrCensus.Pattern.Escape
import CsrCensus.Pattern.Form
import CsrCensus.Pattern.Mode
import CsrCensus.Proofs.Census.Consistency
import CsrCensus.Proofs.Census.History
import CsrCensus.Proofs.Census.Merge
import CsrCensus.Proofs.Census.Operations
import CsrCensus.Proofs.Census.Rearranged
import CsrCensus.Proofs.Command.Listing
import CsrCensus.Proofs.Command.Stages
import CsrCensus.Proofs.Command.Survey
import CsrCensus.Proofs.Csr.Label
import CsrCensus.Proofs.Csr.Reordering
import CsrCensus.Proofs.Csr.Rules
import CsrCensus.Proofs.Files.Disk
import CsrCensus.Proofs.Gzip.Following
import CsrCensus.Proofs.Gzip.Members
import CsrCensus.Proofs.Image.Loadable
import CsrCensus.Proofs.Image.Purposes
import CsrCensus.Proofs.Image.Regions
import CsrCensus.Proofs.Image.Selection
import CsrCensus.Proofs.Instruction.Encoding
import CsrCensus.Proofs.Instruction.Text
import CsrCensus.Proofs.Json.Grammar
import CsrCensus.Proofs.Json.Number
import CsrCensus.Proofs.Json.Reading
import CsrCensus.Proofs.Json.Record
import CsrCensus.Proofs.Json.Skip
import CsrCensus.Proofs.Json.Spelling
import CsrCensus.Proofs.Json.Text
import CsrCensus.Proofs.Json.Value
import CsrCensus.Proofs.Listing.Address
import CsrCensus.Proofs.Listing.Exchange
import CsrCensus.Proofs.Listing.Lines
import CsrCensus.Proofs.Listing.Memory
import CsrCensus.Proofs.Listing.Reading
import CsrCensus.Proofs.Listing.Replay
import CsrCensus.Proofs.Listing.Survey
import CsrCensus.Proofs.Listing.Words
import CsrCensus.Proofs.Listing.Writing
import CsrCensus.Proofs.Report.Classes
import CsrCensus.Proofs.Report.Faithful
import CsrCensus.Proofs.Report.Groups
import CsrCensus.Proofs.Report.Lines
import CsrCensus.Proofs.Report.Names
import CsrCensus.Proofs.Report.Reading
import CsrCensus.Proofs.Report.Rearranged
import CsrCensus.Proofs.Report.Recovery
import CsrCensus.Proofs.Report.Rows
import CsrCensus.Proofs.Report.Sections
import CsrCensus.Proofs.Report.Summary
import CsrCensus.Proofs.Report.Tables
import CsrCensus.Proofs.Report.Totals
import CsrCensus.Proofs.Sequence
import CsrCensus.Proofs.Settings.Document
import CsrCensus.Proofs.Stream.Reading
import CsrCensus.Proofs.Survey.Reference
import CsrCensus.Proofs.Survey.Split
import CsrCensus.Proofs.Survey.Standard
import CsrCensus.Proofs.Survey.Words
import CsrCensus.Proofs.Tally.Frequency
import CsrCensus.Proofs.Tally.Merge
import CsrCensus.Proofs.Tally.Occurrences
import CsrCensus.Proofs.Tally.Rearranged
import CsrCensus.Proofs.Text.Ascii
import CsrCensus.Proofs.Text.Blank
import CsrCensus.Proofs.Text.Numeral
import CsrCensus.Proofs.Text.Parts
import CsrCensus.Proofs.Text.Separated
import CsrCensus.Report.Basic
import CsrCensus.Report.Text
import CsrCensus.Settings.Document
import CsrCensus.Text.Character
import CsrCensus.Text.Floating
import CsrCensus.Text.Numeral
import CsrCensus.Text.Quoted
import CsrCensus.Text.Utf8
import CsrCensus.Word.Order
