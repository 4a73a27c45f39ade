import TestWatch.CommandLine
import TestWatch.CommandLine.Argument
import TestWatch.CommandLine.Level
import TestWatch.Esptool
import TestWatch.Feed
import TestWatch.Feed.Opening
import TestWatch.Feed.Replay
import TestWatch.Files
import TestWatch.Journal
import TestWatch.Journal.Filter
import TestWatch.Keyed
import TestWatch.Line
import TestWatch.Line.Reading
import TestWatch.Line.Shown
import TestWatch.LineBuffer
import TestWatch.Main
import TestWatch.Number.Binary64
import TestWatch.Program
import TestWatch.Progress
import TestWatch.Release
import TestWatch.Report
import TestWatch.Session
import TestWatch.Session.Echo
import TestWatch.Session.Outcome
import TestWatch.Settings
import TestWatch.Settings.Field
import TestWatch.Settings.KeyPath
import TestWatch.Settings.Tree
import TestWatch.Tally
import TestWatch.Text.Basic
import TestWatch.Text.Blank
import TestWatch.Text.Hidden
import TestWatch.Text.Numeral
import TestWatch.Text.Quoted
import TestWatch.Text.ShellWord
import TestWatch.Text.Style
import TestWatch.Text.Upper
import TestWatch.Text.Utf8
import TestWatch.TimeSpan
import TestWatch.TimeSpan.Reading
import TestWatch.Toml
import TestWatch.Toml.Reading
import TestWatch.Toml.Scalar
import TestWatch.Proofs.LineBuffer.Segments
import TestWatch.Proofs.Session.Receiving
import TestWatch.Proofs.Session.Course
import TestWatch.Proofs.Session.Duration
import TestWatch.Proofs.Session.Ending
import TestWatch.Proofs.Session.Recut
import TestWatch.Proofs.Session.Capture
import TestWatch.Proofs.Session.Signals
import TestWatch.Proofs.Session.Consistency
import TestWatch.Proofs.Session.Echoing
import TestWatch.Proofs.Program.Replaying
import TestWatch.Proofs.Text.Decoding
import TestWatch.Proofs.LineBuffer.Reassembly
import TestWatch.Proofs.Tally.Counting
import TestWatch.Proofs.Session.Noise
import TestWatch.Proofs.Program.Calm
import TestWatch.Proofs.Program.Stages
import TestWatch.Proofs.Line.Rules
import TestWatch.Proofs.Line.Results
import TestWatch.Proofs.Line.Summaries
import TestWatch.Proofs.Line.Markers
import TestWatch.Proofs.Progress.FirstEnd
import TestWatch.Proofs.Report.Content
import TestWatch.Proofs.Report.Colors
import TestWatch.Proofs.Feed.Handover
import TestWatch.Proofs.Release.Naming
import TestWatch.Proofs.Esptool.Exchange
import TestWatch.Proofs.Toml.Keys
import TestWatch.Proofs.Settings.Layers
import TestWatch.Proofs.Settings.Documents
import TestWatch.Proofs.CommandLine.Timeout
import TestWatch.Proofs.Program.Timing
import TestWatch.Proofs.Settings.Heeding
import TestWatch.Proofs.Settings.Strangers
import TestWatch.Proofs.Settings.Timeouts
import TestWatch.Proofs.Text.Strays
