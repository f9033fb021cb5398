import AccessWindows.Main
import AccessWindows.Proofs.HalfHours
import AccessWindows.Proofs.Fusion
import AccessWindows.Proofs.Cells
import AccessWindows.Proofs.Painting
import AccessWindows.Proofs.Confluence
import AccessWindows.Proofs.NormalForm
import AccessWindows.Proofs.Renormalization
import AccessWindows.Proofs.CellSets
import AccessWindows.Proofs.ClockText
import AccessWindows.Proofs.Lexemes
import AccessWindows.Proofs.Reading
import AccessWindows.Proofs.RoundTrip
import AccessWindows.Proofs.Pipes
import AccessWindows.Proofs.Chains
import AccessWindows.Proofs.Minimality
import AccessWindows.Proofs.CommandLine
import AccessWindows.Proofs.Exports
import AccessWindows.Proofs.Regrouping
import AccessWindows.Proofs.Cutting
import AccessWindows.Proofs.Phases
import AccessWindows.Proofs.Templates
import AccessWindows.Proofs.Construction
import AccessWindows.Proofs.Verdicts
import AccessWindows.Proofs.Validated
import AccessWindows.Proofs.Streaming
import AccessWindows.Proofs.Truncation
import AccessWindows.Proofs.Calls
import AccessWindows.Proofs.Encoding
import AccessWindows.Proofs.ExactTexts
import AccessWindows.Proofs.WeekdayKeys
import AccessWindows.Proofs.Merging
import AccessWindows.Proofs.Warnings
import AccessWindows.Proofs.TextOrder
