import MonkeyScan.Main
import MonkeyScan.Diagnostics
import MonkeyScan.Session
import MonkeyScan.Version
import MonkeyScan.Proofs.Lists
import MonkeyScan.Proofs.CharClass
import MonkeyScan.Proofs.Lexeme
import MonkeyScan.Proofs.Step
import MonkeyScan.Proofs.Layout
import MonkeyScan.Proofs.Spelling
import MonkeyScan.Proofs.Segmentation
import MonkeyScan.Proofs.Reading
import MonkeyScan.Proofs.LongestMatch
import MonkeyScan.Proofs.Concatenation
import MonkeyScan.Proofs.Canonical
import MonkeyScan.Proofs.Stream
import MonkeyScan.Proofs.Consumption
import MonkeyScan.Proofs.Line
import MonkeyScan.Proofs.Diagnosis
import MonkeyScan.Proofs.Documents
import MonkeyScan.Proofs.Row
import MonkeyScan.Proofs.Utf8
import MonkeyScan.Proofs.Newline
import MonkeyScan.Proofs.Places
import MonkeyScan.Proofs.Files
import MonkeyScan.Proofs.Run
import MonkeyScan.Proofs.ExitCode
import MonkeyScan.Proofs.KeepGoing
import MonkeyScan.Proofs.Output
import MonkeyScan.Proofs.Modes
import MonkeyScan.Proofs.Quotes
import MonkeyScan.Proofs.Walk
import MonkeyScan.Proofs.Digits
import MonkeyScan.Proofs.Progress
import MonkeyScan.Proofs.Growth
import MonkeyScan.Proofs.LineIndex
import MonkeyScan.Proofs.Escape
import MonkeyScan.Proofs.TextListing
import MonkeyScan.Proofs.JsonReader
import MonkeyScan.Proofs.JsonListing
import MonkeyScan.Proofs.JsonGrammar
import MonkeyScan.Proofs.Underline
import MonkeyScan.Proofs.Report
import MonkeyScan.Proofs.Settings
import MonkeyScan.Proofs.Registers
import MonkeyScan.Proofs.Upkeep
