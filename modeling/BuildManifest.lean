import BuildManifest.Check.CoreVersion
import BuildManifest.Check.Defaults
import BuildManifest.Check.Path
import BuildManifest.Check.Prune
import BuildManifest.Check.Validate
import BuildManifest.Check.Violation
import BuildManifest.Check.Warning
import BuildManifest.Command.Line
import BuildManifest.Command.Report
import BuildManifest.Command.Settings
import BuildManifest.Decimal.Binary64
import BuildManifest.Decimal.Notation
import BuildManifest.Decimal.Numeral
import BuildManifest.Decimal.Shortest
import BuildManifest.Dialect
import BuildManifest.Fetch.Checkout
import BuildManifest.Fetch.Dialogue
import BuildManifest.Fetch.Error
import BuildManifest.Fetch.Input
import BuildManifest.Fetch.Remote
import BuildManifest.Ini.Assignment
import BuildManifest.Ini.Reading
import BuildManifest.Json
import BuildManifest.Location.Basic
import BuildManifest.Location.Path
import BuildManifest.Main
import BuildManifest.Manifest.Basic
import BuildManifest.Manifest.Download
import BuildManifest.Manifest.Download.OfTree
import BuildManifest.Manifest.Entry
import BuildManifest.Manifest.Entry.OfTree
import BuildManifest.Manifest.Fault
import BuildManifest.Manifest.Fields
import BuildManifest.Manifest.Labelled
import BuildManifest.Manifest.OfTree
import BuildManifest.Manifest.Reference
import BuildManifest.Manifest.Reference.OfTree
import BuildManifest.Manifest.Section
import BuildManifest.Manifest.ToTree
import BuildManifest.Package.Basic
import BuildManifest.Package.Convert
import BuildManifest.Package.Text
import BuildManifest.Proofs.Check.Defaulted
import BuildManifest.Proofs.Check.Flaws
import BuildManifest.Proofs.Check.Forced
import BuildManifest.Proofs.Check.Grammar
import BuildManifest.Proofs.Check.Hooks
import BuildManifest.Proofs.Check.Path
import BuildManifest.Proofs.Check.Refilled
import BuildManifest.Proofs.Check.Revalidation
import BuildManifest.Proofs.Check.Selected
import BuildManifest.Proofs.Check.Valid
import BuildManifest.Proofs.Dialect.Detection
import BuildManifest.Proofs.Fetch.Commands
import BuildManifest.Proofs.Fetch.Cut
import BuildManifest.Proofs.Fetch.Outcome
import BuildManifest.Proofs.Ini.Acceptance
import BuildManifest.Proofs.Ini.Addresses
import BuildManifest.Proofs.Ini.Appends
import BuildManifest.Proofs.Ini.FirstFault
import BuildManifest.Proofs.Ini.Leaves
import BuildManifest.Proofs.Ini.Spelling
import BuildManifest.Proofs.Ini.Standing
import BuildManifest.Proofs.Ini.Writing
import BuildManifest.Proofs.Location.Path
import BuildManifest.Proofs.Manifest.Agreement
import BuildManifest.Proofs.Manifest.Attributes
import BuildManifest.Proofs.Manifest.Canonical
import BuildManifest.Proofs.Manifest.CoreFirst
import BuildManifest.Proofs.Manifest.Fields
import BuildManifest.Proofs.Manifest.Fitting
import BuildManifest.Proofs.Manifest.Folding
import BuildManifest.Proofs.Manifest.Histories
import BuildManifest.Proofs.Manifest.Keyed
import BuildManifest.Proofs.Manifest.Labels
import BuildManifest.Proofs.Manifest.Legible
import BuildManifest.Proofs.Manifest.Listed
import BuildManifest.Proofs.Manifest.Places
import BuildManifest.Proofs.Manifest.Readable
import BuildManifest.Proofs.Manifest.Rereading
import BuildManifest.Proofs.Manifest.Sections
import BuildManifest.Proofs.Manifest.Unordered
import BuildManifest.Proofs.Manifest.Values
import BuildManifest.Proofs.Manifest.Verbatim
import BuildManifest.Proofs.Package.Patches
import BuildManifest.Proofs.Package.Platform
import BuildManifest.Proofs.Package.Requirements
import BuildManifest.Proofs.Package.Rows
import BuildManifest.Proofs.Package.Wildcards
import BuildManifest.Proofs.Resolve.Calls
import BuildManifest.Proofs.Resolve.Candid
import BuildManifest.Proofs.Resolve.Checkouts
import BuildManifest.Proofs.Resolve.Consumed
import BuildManifest.Proofs.Resolve.Containment
import BuildManifest.Proofs.Resolve.CoreFirst
import BuildManifest.Proofs.Resolve.Course
import BuildManifest.Proofs.Resolve.Cycles
import BuildManifest.Proofs.Resolve.Decodable
import BuildManifest.Proofs.Resolve.Destinations
import BuildManifest.Proofs.Resolve.Failures
import BuildManifest.Proofs.Resolve.Fetchers
import BuildManifest.Proofs.Resolve.Gathered
import BuildManifest.Proofs.Resolve.Journey
import BuildManifest.Proofs.Resolve.Locate
import BuildManifest.Proofs.Resolve.Lockdown
import BuildManifest.Proofs.Resolve.Log
import BuildManifest.Proofs.Resolve.Merged
import BuildManifest.Proofs.Resolve.Names
import BuildManifest.Proofs.Resolve.Nesting
import BuildManifest.Proofs.Resolve.Patches
import BuildManifest.Proofs.Resolve.PolicyText
import BuildManifest.Proofs.Resolve.Precedence
import BuildManifest.Proofs.Resolve.Root
import BuildManifest.Proofs.Resolve.Run
import BuildManifest.Proofs.Resolve.Sound
import BuildManifest.Proofs.Resolve.Staging
import BuildManifest.Proofs.Resolve.Step
import BuildManifest.Proofs.Resolve.Tour
import BuildManifest.Proofs.Resolve.Transcripts
import BuildManifest.Proofs.Resolve.Watch
import BuildManifest.Proofs.Success
import BuildManifest.Proofs.Text.Lines
import BuildManifest.Proofs.Text.Numerals
import BuildManifest.Proofs.Text.Trimming
import BuildManifest.Proofs.Tree.Apart
import BuildManifest.Proofs.Tree.Canonical
import BuildManifest.Proofs.Tree.CanonicalMerge
import BuildManifest.Proofs.Tree.Carried
import BuildManifest.Proofs.Tree.Clean
import BuildManifest.Proofs.Tree.Indexing
import BuildManifest.Proofs.Tree.Keys
import BuildManifest.Proofs.Tree.Layers
import BuildManifest.Proofs.Tree.Merging
import BuildManifest.Proofs.Tree.Parsed
import BuildManifest.Proofs.Tree.Paths
import BuildManifest.Proofs.Tree.Regrouping
import BuildManifest.Proofs.Tree.Same
import BuildManifest.Proofs.Tree.Settled
import BuildManifest.Proofs.Tree.Spelling
import BuildManifest.Resolve.Basic
import BuildManifest.Resolve.Error
import BuildManifest.Resolve.Load
import BuildManifest.Resolve.Policy
import BuildManifest.Text.Blank
import BuildManifest.Text.Combining
import BuildManifest.Text.Composed
import BuildManifest.Text.Composition
import BuildManifest.Text.DecimalDigit
import BuildManifest.Text.Direction
import BuildManifest.Text.Extending
import BuildManifest.Text.Infix
import BuildManifest.Text.Joining
import BuildManifest.Text.Lines
import BuildManifest.Text.Mark
import BuildManifest.Text.Numeral
import BuildManifest.Text.Quoted
import BuildManifest.Text.Ranges
import BuildManifest.Text.Unassigned
import BuildManifest.Text.Unseen
import BuildManifest.Text.Utf8
import BuildManifest.Toml.Basic
import BuildManifest.Toml.Reading
import BuildManifest.Toml.Scalar
import BuildManifest.Toml.Text
import BuildManifest.Tree.Basic
import BuildManifest.Tree.Equal
import BuildManifest.Tree.KeyText
import BuildManifest.Tree.Merge
import BuildManifest.Tree.Normalize
import BuildManifest.Tree.Scalar
import BuildManifest.Url.Basic
import BuildManifest.Url.Domain
import BuildManifest.Url.Domain.Label
import BuildManifest.Url.Domain.Mapping
import BuildManifest.Url.Domain.Mapping.Alphabet
import BuildManifest.Url.Domain.Mapping.Arabic
import BuildManifest.Url.Domain.Mapping.Ideograph
import BuildManifest.Url.Domain.Mapping.Letter
import BuildManifest.Url.Domain.Mapping.Phrase
import BuildManifest.Url.Host
import BuildManifest.Url.Parse
import BuildManifest.Url.Path
import BuildManifest.Url.Percent
import BuildManifest.Url.Punycode
import BuildManifest.Yaml.Cursor
import BuildManifest.Yaml.Document
import BuildManifest.Yaml.Event
import BuildManifest.Yaml.Fault
import BuildManifest.Yaml.Printer
import BuildManifest.Yaml.Scalar
import BuildManifest.Yaml.Stroke
import BuildManifest.Yaml.Token.Basic
import BuildManifest.Yaml.Token.Directive
import BuildManifest.Yaml.Token.Scalar
import BuildManifest.Yaml.Token.Scan
