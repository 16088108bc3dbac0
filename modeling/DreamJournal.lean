import DreamJournal.Text.Pattern
import DreamJournal.Callout.Scan
import DreamJournal.Narrative.Title
import DreamJournal.Number.Summary
import DreamJournal.Dating.Resolve
import DreamJournal.Datum
import DreamJournal.Fault
import DreamJournal.Metric.Extraction
import DreamJournal.Metric.Aggregate
import DreamJournal.Settings.Data
import DreamJournal.FrontMatter
import DreamJournal.Text.Repair
import DreamJournal.Files.Selection
import DreamJournal.Settings.Stored
import DreamJournal.Note.Basic
import DreamJournal.Log.Written
import DreamJournal.Run.Export
import DreamJournal.Run.Records
import DreamJournal.Yaml.Writer
import DreamJournal.Main
import DreamJournal.Proofs.Note.Accounting
import DreamJournal.Proofs.Narrative.Idempotence
import DreamJournal.Proofs.Run.Isolation
import DreamJournal.Proofs.Note.FrontMatter
import DreamJournal.Proofs.Note.Attachment
import DreamJournal.Proofs.Text.Letters
import DreamJournal.Proofs.Callout.Outline
import DreamJournal.Proofs.Callout.Writing
import DreamJournal.Proofs.Text.Phrase
import DreamJournal.Proofs.Narrative.Written
import DreamJournal.Proofs.Metric.Pair
import DreamJournal.Proofs.Dating.Stamp
import DreamJournal.Proofs.Note.RoundTrip
import DreamJournal.Proofs.Text.Case
import DreamJournal.Proofs.Narrative.Rest
import DreamJournal.Proofs.Narrative.Cut
import DreamJournal.Proofs.Note.Narrative
import DreamJournal.Proofs.Note.Unmarked
import DreamJournal.Proofs.Metric.Reading
import DreamJournal.Proofs.Note.Failure
import DreamJournal.Proofs.Run.Counting
import DreamJournal.Proofs.Run.Declared
import DreamJournal.Proofs.Run.Order
import DreamJournal.Proofs.Text.Order
import DreamJournal.Proofs.Dating.Order
import DreamJournal.Proofs.Run.Chronology
import DreamJournal.Proofs.Note.Counted
import DreamJournal.Proofs.Run.Outcome
import DreamJournal.Proofs.Number.Rounding
import DreamJournal.Proofs.Number.Summary
import DreamJournal.Proofs.Run.Summarized
import DreamJournal.Proofs.Callout.Separation
import DreamJournal.Proofs.Note.Fenced
import DreamJournal.Proofs.Metric.Segments
import DreamJournal.Proofs.Narrative.Directives
import DreamJournal.Proofs.Text.Lower
import DreamJournal.Proofs.Number.Exact
import DreamJournal.Proofs.Datum
import DreamJournal.Proofs.Settings.Reading
import DreamJournal.Proofs.Settings.RoundTrip
import DreamJournal.Proofs.Yaml.Tokens
import DreamJournal.Proofs.Yaml.Faults
import DreamJournal.Proofs.Settings.Refusals
import DreamJournal.Proofs.Text.Fold
import DreamJournal.Proofs.Metric.Listing
import DreamJournal.Proofs.Metric.Lookup
import DreamJournal.Proofs.Dating.Priority
import DreamJournal.Proofs.Dating.Reference
import DreamJournal.Proofs.Note.Dated
import DreamJournal.Proofs.Callout.Warnings
import DreamJournal.Proofs.Text.Classes
import DreamJournal.Proofs.Dating.Fields
import DreamJournal.Proofs.Note.Resolved
import DreamJournal.Proofs.Dating.LongForm
import DreamJournal.Proofs.Dating.HeaderDate
import DreamJournal.Proofs.Callout.Marker
import DreamJournal.Proofs.Callout.Spelling
import DreamJournal.Proofs.Callout.Composition
import DreamJournal.Proofs.Callout.Traversal
import DreamJournal.Proofs.Callout.Metadata
import DreamJournal.Proofs.Note.LineEnds
import DreamJournal.Proofs.Narrative.Squeezing
import DreamJournal.Proofs.Narrative.Title
import DreamJournal.Proofs.Files.Selection
import DreamJournal.Proofs.Narrative.Quotes
import DreamJournal.Proofs.FrontMatter
import DreamJournal.Proofs.Metric.Numeral
import DreamJournal.Proofs.Settings.Definitions
