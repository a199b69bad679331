import ConformanceReport.Main
import ConformanceReport.Session.Basic
import ConformanceReport.Files.Tree
import ConformanceReport.Proofs.Json.Number
import ConformanceReport.Proofs.Json.Text
import ConformanceReport.Proofs.Json.Value
import ConformanceReport.Proofs.Json.Skip
import ConformanceReport.Proofs.Outcome.Members
import ConformanceReport.Proofs.Outcome.Acceptance
import ConformanceReport.Proofs.Output.Sink
import ConformanceReport.Proofs.Scan.Diagnostics
import ConformanceReport.Proofs.Run.Output
import ConformanceReport.Proofs.Run.ExitCode
import ConformanceReport.Proofs.Run.Truncation
import ConformanceReport.Proofs.Outcome.Message
import ConformanceReport.Proofs.Run.LineContract
import ConformanceReport.Proofs.Outcome.RoundTrip
import ConformanceReport.Proofs.Run.Noninterference
import ConformanceReport.Proofs.Outcome.Order
import ConformanceReport.Proofs.Summary.Arrangement
import ConformanceReport.Proofs.Summary.Grouping
import ConformanceReport.Proofs.Summary.Classification
import ConformanceReport.Proofs.Summary.Labels
import ConformanceReport.Proofs.Json.Unique
import ConformanceReport.Proofs.Outcome.Identifier
import ConformanceReport.Proofs.Json.Sound
import ConformanceReport.Proofs.Outcome.Defects
import ConformanceReport.Proofs.Outcome.Blame
import ConformanceReport.Proofs.Summary.Reading
import ConformanceReport.Proofs.Session.Gathering
import ConformanceReport.Proofs.Run.Log
import ConformanceReport.Proofs.Scan.Names
import ConformanceReport.Proofs.Config.Changes
import ConformanceReport.Proofs.Arguments.Spelling
import ConformanceReport.Proofs.Config.Document
