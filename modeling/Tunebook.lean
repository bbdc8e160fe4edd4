import Tunebook.History
import Tunebook.Tune.Dynamic
import Tunebook.Midi.Reader
import Tunebook.Json.Reader
import Tunebook.Yaml.Load
import Tunebook.FileTree.Path
import Tunebook.FileTree.Basic
import Tunebook.Conversion.Files
import Tunebook.Settings.Load
import Tunebook.Command.Options
import Tunebook.Command.Run
import Tunebook.Main
import Tunebook.Proofs.Stage
import Tunebook.Proofs.Runs
import Tunebook.Proofs.Text.Utf8
import Tunebook.Proofs.Text.Blank
import Tunebook.Proofs.Text.Lines
import Tunebook.Proofs.Text.Digits
import Tunebook.Proofs.Pitch
import Tunebook.Proofs.TickClass
import Tunebook.Proofs.Double.Finite
import Tunebook.Proofs.Tune.Scan
import Tunebook.Proofs.Tune.Parts
import Tunebook.Proofs.Tune.Sections
import Tunebook.Proofs.Tune.Tones
import Tunebook.Proofs.Tune.Range
import Tunebook.Proofs.Tune.Append
import Tunebook.Proofs.Midi.ReadBack
import Tunebook.Proofs.Midi.Messages
import Tunebook.Proofs.Midi.Performance
import Tunebook.Proofs.Midi.Emission
import Tunebook.Proofs.Midi.SamePerformance
import Tunebook.Proofs.Midi.PitchGate
import Tunebook.Proofs.Conversion.Gate
import Tunebook.Proofs.Conversion.Playback
import Tunebook.Proofs.FileTree.Write
import Tunebook.Proofs.Command.Agreement
import Tunebook.Proofs.FileTree.Frame
import Tunebook.Proofs.Command.Ways
import Tunebook.Proofs.Command.Endings
import Tunebook.Proofs.Command.Writes
import Tunebook.Proofs.FileTree.Resolved
import Tunebook.Proofs.Command.Input
import Tunebook.Proofs.Midi.Tempo
import Tunebook.Proofs.Tune.Comments
import Tunebook.Proofs.Text.LineEnds
import Tunebook.Proofs.Conversion.LineEnds
import Tunebook.Proofs.History.Log
import Tunebook.Proofs.Json.Text
import Tunebook.Proofs.Json.RoundTrip
import Tunebook.Proofs.Json.Values
import Tunebook.Proofs.History.Export
import Tunebook.Proofs.Tune.Spelling
import Tunebook.Proofs.Tune.Descriptions
import Tunebook.Proofs.Conversion.Entries
import Tunebook.Proofs.Mapping
import Tunebook.Proofs.Settings.Merge
import Tunebook.Proofs.Yaml.Reading
import Tunebook.Proofs.Yaml.Scanning
import Tunebook.Proofs.Yaml.Parsing
import Tunebook.Proofs.FileTree.Seek
import Tunebook.Proofs.Settings.Files
import Tunebook.Proofs.Yaml.Loading
import Tunebook.Proofs.Tune.Fields
import Tunebook.Proofs.Tune.Fractions
import Tunebook.Proofs.Tune.FirstFraction
import Tunebook.Proofs.Tune.Numerals
import Tunebook.Proofs.Settings.Fallback
import Tunebook.Proofs.Double.Overflow
import Tunebook.Proofs.Midi.TempoRange
import Tunebook.Proofs.Double.Nearest
import Tunebook.Proofs.Double.Rational
import Tunebook.Proofs.Midi.BeatTime
import Tunebook.Proofs.PitchSpelling
import Tunebook.Proofs.Tune.Strangers
import Tunebook.Proofs.Midi.Effects
import Tunebook.Proofs.TickLengths
import Tunebook.Proofs.Midi.Soundings
import Tunebook.Proofs.Conversion.Lasting
