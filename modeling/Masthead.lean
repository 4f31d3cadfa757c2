import Masthead.Main
import Masthead.CommandLine.Run
import Masthead.Http.Service
import Masthead.Pattern.Groups
import Masthead.Proofs.Session
import Masthead.Proofs.Segment.Digits
import Masthead.Proofs.Template.CarriageReturn
import Masthead.Proofs.Template.Regeneration
import Masthead.Proofs.Template.Recognition
import Masthead.Proofs.Analysis
import Masthead.Proofs.Fix.Title
import Masthead.Proofs.Template.Source
import Masthead.Proofs.Template.Printing
import Masthead.Proofs.Segment.Drift
import Masthead.Proofs.Template.Idempotence
import Masthead.Proofs.Template.Displacement
import Masthead.Proofs.Template.Drift
import Masthead.Proofs.Pattern.Numbered
import Masthead.Proofs.Template.Ageing
import Masthead.Proofs.Template.Captures
import Masthead.Proofs.Fix.Total
import Masthead.Proofs.Template.UnifiedBreaks
import Masthead.Proofs.File.Store
import Masthead.Proofs.Template.Load
import Masthead.Proofs.Template.Lookup
import Masthead.Proofs.Project.History
import Masthead.Proofs.Template.TrailingBlanks
import Masthead.Proofs.Template.Correction
import Masthead.Proofs.Check
import Masthead.Proofs.Http.Agreement
import Masthead.Proofs.Template.NameCapture
import Masthead.Proofs.Template.ReadBack
import Masthead.Proofs.Registry
import Masthead.Proofs.Segment.Canonical
import Masthead.Proofs.Project.Spelling
import Masthead.Proofs.Pattern.LetterCase
import Masthead.Proofs.Segment.LetterCase
import Masthead.Proofs.Template.LetterCase
import Masthead.Proofs.Analysis.TopLine
import Masthead.Proofs.Template.GroupNumbers
