import LinkerExports.CommandLine.Arguments
import LinkerExports.CommandLine.Log
import LinkerExports.CommandLine.Run
import LinkerExports.Config
import LinkerExports.Declaration.Basic
import LinkerExports.Delivery
import LinkerExports.Main
import LinkerExports.Proofs.CommandLine.Arguments
import LinkerExports.Proofs.CommandLine.Filter
import LinkerExports.Proofs.CommandLine.Log
import LinkerExports.Proofs.CommandLine.Outcome
import LinkerExports.Proofs.CommandLine.Report
import LinkerExports.Proofs.CommandLine.Requests
import LinkerExports.Proofs.CommandLine.Settings
import LinkerExports.Proofs.CommandLine.Spelling
import LinkerExports.Proofs.Declaration.Comparison
import LinkerExports.Proofs.Declaration.Last
import LinkerExports.Proofs.Declaration.Plain
import LinkerExports.Proofs.Declaration.Search
import LinkerExports.Proofs.Delivery
import LinkerExports.Proofs.Delivery.Endings
import LinkerExports.Proofs.Delivery.Files
import LinkerExports.Proofs.Scan.Entries
import LinkerExports.Proofs.Scan.Events
import LinkerExports.Proofs.Scan.Growth
import LinkerExports.Proofs.Scan.Insertion
import LinkerExports.Proofs.Scan.Invariant
import LinkerExports.Proofs.Scan.Markers
import LinkerExports.Proofs.Scan.Meaning
import LinkerExports.Proofs.Scan.Names
import LinkerExports.Proofs.Scan.Narrowing
import LinkerExports.Proofs.Scan.Repeats
import LinkerExports.Proofs.Scan.Run
import LinkerExports.Proofs.Scan.Seam
import LinkerExports.Proofs.Script.Exports
import LinkerExports.Proofs.Script.RoundTrip
import LinkerExports.Proofs.Text.Ascending
import LinkerExports.Proofs.Text.Decoding
import LinkerExports.Proofs.Text.Endings
import LinkerExports.Proofs.Text.Lines
import LinkerExports.Proofs.Text.Quoted
import LinkerExports.Proofs.Text.Utf8Form
import LinkerExports.Scan.Basic
import LinkerExports.Scan.Criteria
import LinkerExports.Script.Basic
import LinkerExports.Streams
import LinkerExports.Text.ByteOrder
import LinkerExports.Text.Characters
import LinkerExports.Text.Findings
import LinkerExports.Text.Lines
import LinkerExports.Text.Search
import LinkerExports.Text.Utf8
