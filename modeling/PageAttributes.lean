import PageAttributes.Main
import PageAttributes.Trace.Format
import PageAttributes.Visibility.Resolver
import PageAttributes.Wire.Assignment
import PageAttributes.Proofs.Grammar.Rules
import PageAttributes.Proofs.Document.Lookup
import PageAttributes.Proofs.Grammar.Search
import PageAttributes.Proofs.Grammar.Shape
import PageAttributes.Proofs.Grammar.Index
import PageAttributes.Proofs.Grammar.Names
import PageAttributes.Proofs.Grammar.Typed
import PageAttributes.Proofs.Validation
import PageAttributes.Proofs.Visibility.Accepted
import PageAttributes.Proofs.Visibility.Selection
import PageAttributes.Proofs.Document.Canonical
import PageAttributes.Proofs.Source.Load
import PageAttributes.Proofs.Wire.Spelling
import PageAttributes.Proofs.Trace.Conjunction
import PageAttributes.Proofs.RoundTrip
import PageAttributes.Proofs.Artifact
import PageAttributes.Proofs.Document.Place
import PageAttributes.Proofs.Grammar.Places
import PageAttributes.Proofs.Grammar.Cycles
import PageAttributes.Proofs.Grammar.IndexPlaces
import PageAttributes.Proofs.Reports
import PageAttributes.Proofs.Trace.Formula
import PageAttributes.Proofs.Trace.ShortCircuit
import PageAttributes.Proofs.Visibility.Waiting
import PageAttributes.Proofs.Visibility.Depth
import PageAttributes.Proofs.Visibility.Relay
import PageAttributes.Proofs.Grammar.Strictness
import PageAttributes.Proofs.Revalidation
import PageAttributes.Proofs.Visibility.Comparison
import PageAttributes.Proofs.Visibility.Explained
import PageAttributes.Proofs.Visibility.Settling
import PageAttributes.Proofs.Visibility.Tracking
import PageAttributes.Proofs.Visibility.Reordering
import PageAttributes.Proofs.Options
import PageAttributes.Proofs.Grammar.Within
import PageAttributes.Proofs.Isolation
import PageAttributes.Proofs.Storage.Replaced
import PageAttributes.Proofs.Storage.Trouble
import PageAttributes.Proofs.Pipeline.Builds
import PageAttributes.Proofs.Document.Lighter
import PageAttributes.Proofs.Json.Depth
import PageAttributes.Proofs.Source.Format
import PageAttributes.Proofs.Grammar.Lighter
import PageAttributes.Proofs.Pipeline.Rebuild
import PageAttributes.Proofs.Grammar.Components
import PageAttributes.Proofs.Grammar.Misled
import PageAttributes.Proofs.Evaluation.Reads
import PageAttributes.Proofs.Evaluation.Defaults
import PageAttributes.Proofs.Number.Rounding
import PageAttributes.Proofs.Number.Agreement
import PageAttributes.Proofs.Visibility.Course
import PageAttributes.Proofs.Visibility.Named
import PageAttributes.Proofs.Grammar.Vocabulary
import PageAttributes.Proofs.Grammar.IndexRange
import PageAttributes.Proofs.Visibility.Mirrored
