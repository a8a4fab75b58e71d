import JobScript.Main
import JobScript.Proofs.Shell.Call
import JobScript.Proofs.Shell.Rendering
import JobScript.Proofs.Shell.Change
import JobScript.Proofs.Shell.Ledger
import JobScript.Proofs.Shell.Conservation
import JobScript.Proofs.Shell.FailStop
import JobScript.Proofs.Shell.Grammar
import JobScript.Proofs.Shell.Walk
import JobScript.Proofs.Toolchain.Bootstrap
import JobScript.Proofs.Shell.Acceptance
import JobScript.Proofs.Shell.Continuation
import JobScript.Proofs.Shell.Sequence
import JobScript.Proofs.Lifecycle.Phases
import JobScript.Proofs.Number.Integer
import JobScript.Proofs.Lifecycle.BuiltIn
import JobScript.Proofs.Registry.History
import JobScript.Proofs.Config.Load
import JobScript.Proofs.Config.Normal
import JobScript.Proofs.Shell.Word
import JobScript.Proofs.Shell.Piece
import JobScript.Proofs.Shell.Quotation
import JobScript.Proofs.Adapter.Slug
import JobScript.Proofs.Shell.Advance
import JobScript.Proofs.Shell.Passage
import JobScript.Proofs.Shell.Draft
import JobScript.Proofs.Shell.Timer
import JobScript.Proofs.Shell.Invariant
import JobScript.Proofs.Shell.Closing
import JobScript.Proofs.Registry.Listing
import JobScript.Proofs.Config.Lookup
import JobScript.Proofs.Config.Version
import JobScript.Proofs.Shell.Guarded
import JobScript.Proofs.Toolchain.Truncation
import JobScript.Proofs.Shell.Refusal
import JobScript.Proofs.Shell.Layout
import JobScript.Proofs.Text.Line
import JobScript.Proofs.Shell.Verbatim
import JobScript.Proofs.Shell.Branch
import JobScript.Proofs.Text.Case
import JobScript.Proofs.Registry.Aliases
import JobScript.Proofs.Slug.Parts
import JobScript.Proofs.Config.Agreement
import JobScript.Proofs.Files.Writing
import JobScript.Proofs.Text.ControlSequence
import JobScript.Proofs.Text.Units
import JobScript.Proofs.Json.Reading
import JobScript.Proofs.CommandLine.Words
import JobScript.Proofs.CommandLine.Forms
import JobScript.Proofs.Config.Search
import JobScript.Proofs.Text.Strip
import JobScript.Proofs.Lifecycle.Emission
import JobScript.Proofs.Lifecycle.Environment
import JobScript.Proofs.Lifecycle.Installation
