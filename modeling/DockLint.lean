import DockLint.Command
import DockLint.CommandLine.Basic
import DockLint.CommandLine.Reader
import DockLint.Decimal.Double
import DockLint.Decimal.Formatted
import DockLint.Decimal.Shortest
import DockLint.Diagnostic
import DockLint.Exchange
import DockLint.Failure
import DockLint.Findings
import DockLint.Health
import DockLint.Host
import DockLint.Issue
import DockLint.Json.Basic
import DockLint.Json.Fault
import DockLint.Json.Number
import DockLint.Json.Printer
import DockLint.Json.Reader
import DockLint.LineTable
import DockLint.Lint
import DockLint.Locator
import DockLint.LogFilter
import DockLint.Machine.Account
import DockLint.Machine.Basic
import DockLint.Machine.Fault
import DockLint.Machine.Program
import DockLint.Machine.Tree
import DockLint.Main
import DockLint.Note
import DockLint.Pattern
import DockLint.Process
import DockLint.Program
import DockLint.Proofs.Command.Agreement
import DockLint.Proofs.Command.Exit
import DockLint.Proofs.Command.Lint
import DockLint.Proofs.CommandLine.Reading
import DockLint.Proofs.CommandLine.RoundTrip
import DockLint.Proofs.CommandLine.Spelling
import DockLint.Proofs.Diagnostic
import DockLint.Proofs.Diagnostic.Lines
import DockLint.Proofs.Diagnostic.ReadBack
import DockLint.Proofs.Exchange.Bytes
import DockLint.Proofs.Exchange.Launch
import DockLint.Proofs.Exchange.Progress
import DockLint.Proofs.Findings.Accounts
import DockLint.Proofs.Findings.Batch
import DockLint.Proofs.Findings.Decode
import DockLint.Proofs.Findings.Element
import DockLint.Proofs.Findings.LineNumber
import DockLint.Proofs.Findings.Output
import DockLint.Proofs.Findings.Records
import DockLint.Proofs.Findings.RoundTrip
import DockLint.Proofs.Health
import DockLint.Proofs.Health.Alone
import DockLint.Proofs.Health.Version
import DockLint.Proofs.Json.Accepted
import DockLint.Proofs.Json.Canonical
import DockLint.Proofs.Json.Items
import DockLint.Proofs.Json.Leading
import DockLint.Proofs.Json.Members
import DockLint.Proofs.Json.Nested
import DockLint.Proofs.Json.Printed
import DockLint.Proofs.Json.Rational
import DockLint.Proofs.Json.Scalar
import DockLint.Proofs.Json.Spelling
import DockLint.Proofs.Json.Tree
import DockLint.Proofs.Lines.Cover
import DockLint.Proofs.Lines.Division
import DockLint.Proofs.Lines.Join
import DockLint.Proofs.Lines.Lookup
import DockLint.Proofs.Lines.Span
import DockLint.Proofs.Lines.Table
import DockLint.Proofs.Lines.Unified
import DockLint.Proofs.Lint.Levels
import DockLint.Proofs.Lint.Pass
import DockLint.Proofs.Lint.Records
import DockLint.Proofs.Lint.Report
import DockLint.Proofs.Lint.Severest
import DockLint.Proofs.Lint.Tables
import DockLint.Proofs.Locator
import DockLint.Proofs.Locator.Launch
import DockLint.Proofs.Locator.Order
import DockLint.Proofs.Locator.Search
import DockLint.Proofs.Outcome
import DockLint.Proofs.Pattern
import DockLint.Proofs.Process
import DockLint.Proofs.Settings
import DockLint.Proofs.Settings.Order
import DockLint.Proofs.Settings.Schema
import DockLint.Proofs.Severity
import DockLint.Proofs.Text.Blank
import DockLint.Proofs.Text.FirstLine
import DockLint.Proofs.Text.Seam
import DockLint.Proofs.Text.Truncated
import DockLint.Proofs.Text.Utf8
import DockLint.Proofs.Text.WellFormed
import DockLint.Proofs.Traced
import DockLint.Regex.Basic
import DockLint.Regex.Bracket
import DockLint.Regex.CharSet
import DockLint.Regex.Escape
import DockLint.Regex.Fault
import DockLint.Regex.Normal
import DockLint.Regex.Reader
import DockLint.Regex.Size
import DockLint.Regex.Source
import DockLint.Settings
import DockLint.Severity
import DockLint.Shell.Arithmetic
import DockLint.Shell.Builtin.Dispatch
import DockLint.Shell.Builtin.Printing
import DockLint.Shell.Builtin.Session
import DockLint.Shell.Builtin.Test
import DockLint.Shell.Concatenate
import DockLint.Shell.Descriptor
import DockLint.Shell.Expansion
import DockLint.Shell.Field
import DockLint.Shell.Glob
import DockLint.Shell.Program
import DockLint.Shell.Reader
import DockLint.Shell.Run
import DockLint.Shell.Setting
import DockLint.Shell.Signal
import DockLint.Shell.Start
import DockLint.Shell.State
import DockLint.Shell.Syntax
import DockLint.Shell.Token
import DockLint.Span
import DockLint.Text.Blank
import DockLint.Text.ByteRange
import DockLint.Text.Fingerprint
import DockLint.Text.Quoted
import DockLint.Text.Terminal
import DockLint.Text.Utf8
import DockLint.Toml.Basic
import DockLint.Toml.Reader
import DockLint.Toml.Scalar
import DockLint.Toml.Text
import DockLint.Traced
import DockLint.Unicode.Break
import DockLint.Unicode.Category
import DockLint.Unicode.Digit
import DockLint.Unicode.Extender
import DockLint.Unicode.Fold
import DockLint.Unicode.Property
import DockLint.Unicode.Query
import DockLint.Unicode.Ranges
import DockLint.Unicode.Script
import DockLint.Unicode.ScriptExtension
import DockLint.Unicode.Unprintable
import DockLint.Unicode.Version
import DockLint.Unicode.Word
