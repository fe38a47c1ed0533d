import DeferredBinding.Inspect
import DeferredBinding.Main
import DeferredBinding.Resolution.Memo
import DeferredBinding.Proofs.Attempt
import DeferredBinding.Proofs.CommandLine.Environment
import DeferredBinding.Proofs.CommandLine.LastSelections
import DeferredBinding.Proofs.CommandLine.Stubs
import DeferredBinding.Proofs.Condition.Aborts
import DeferredBinding.Proofs.Condition.Algebra
import DeferredBinding.Proofs.Condition.ShortCircuit
import DeferredBinding.Proofs.Generator.Registry
import DeferredBinding.Proofs.Manifest.Respelling
import DeferredBinding.Proofs.Manifest.Spellings
import DeferredBinding.Proofs.Manifest.TopLevel
import DeferredBinding.Proofs.Markup
import DeferredBinding.Proofs.Module.Building
import DeferredBinding.Proofs.Module.Failures
import DeferredBinding.Proofs.Module.PropertyTable
import DeferredBinding.Proofs.Module.Reading
import DeferredBinding.Proofs.Module.Validity
import DeferredBinding.Proofs.Property.AllowedOrder
import DeferredBinding.Proofs.Property.Answers
import DeferredBinding.Proofs.Property.InPlace
import DeferredBinding.Proofs.Property.Invariants
import DeferredBinding.Proofs.Property.SingleValued
import DeferredBinding.Proofs.Resolution.Aging
import DeferredBinding.Proofs.Resolution.FirstMatch
import DeferredBinding.Proofs.Resolution.Gate
import DeferredBinding.Proofs.Resolution.History
import DeferredBinding.Proofs.Resolution.LifeCycle
import DeferredBinding.Proofs.Resolution.ReadSet
import DeferredBinding.Proofs.Resolution.Record
import DeferredBinding.Proofs.Resolution.Required
import DeferredBinding.Proofs.Types.Assignability
