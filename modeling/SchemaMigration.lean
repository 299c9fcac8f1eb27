import SchemaMigration.Declaration.Edit
import SchemaMigration.Declaration.EngineScript
import SchemaMigration.Declaration.Enquiry
import SchemaMigration.Main
import SchemaMigration.Proofs.History.Identity
import SchemaMigration.Proofs.History.Ownership
import SchemaMigration.Proofs.History.Memory
import SchemaMigration.Proofs.Run.Treatment
import SchemaMigration.Proofs.Run.Reconciliation
import SchemaMigration.Proofs.Run.Visit
import SchemaMigration.Proofs.Run.Pending
import SchemaMigration.Proofs.Run.Deed
import SchemaMigration.Proofs.Run.Handling
import SchemaMigration.Proofs.Run.Plan
import SchemaMigration.Proofs.Run.Undoing
import SchemaMigration.Proofs.Run.Reentry
import SchemaMigration.Proofs.Run.Blindness
import SchemaMigration.Proofs.Run.Piecewise
import SchemaMigration.Proofs.Run.Rehearsal
import SchemaMigration.Proofs.Change.Reversal
import SchemaMigration.Proofs.Run.Interruption
import SchemaMigration.Proofs.History.ExecutionOrder
import SchemaMigration.Proofs.History.Records
import SchemaMigration.Proofs.Run.Recording
import SchemaMigration.Proofs.Run.Ranking
import SchemaMigration.Proofs.Run.Resumption
import SchemaMigration.Proofs.History.Editing
import SchemaMigration.Proofs.History.Agreement
import SchemaMigration.Proofs.Run.Renewal
import SchemaMigration.Proofs.Run.Restoration
import SchemaMigration.Proofs.Precondition.Halting
import SchemaMigration.Proofs.Run.Repetition
import SchemaMigration.Proofs.History.Recasing
import SchemaMigration.Proofs.Precondition.Naming
import SchemaMigration.Proofs.Run.Recasing
import SchemaMigration.Proofs.Run.Foreign
import SchemaMigration.Proofs.Run.WriteBack
import SchemaMigration.Proofs.Change.ReadBack
import SchemaMigration.Proofs.Number.Interval
import SchemaMigration.Proofs.Number.Text
import SchemaMigration.Proofs.Json.Compact
import SchemaMigration.Proofs.Change.Content
import SchemaMigration.Proofs.Run.Succession
import SchemaMigration.Proofs.Precondition.Provenance
import SchemaMigration.Proofs.Run.Accounting
import SchemaMigration.Proofs.Precondition.Alternatives
import SchemaMigration.Proofs.Table.Body
import SchemaMigration.Proofs.Table.Generation
import SchemaMigration.Proofs.Table.Addition
import SchemaMigration.Proofs.Change.Remarks
import SchemaMigration.Proofs.Change.GivenNames
import SchemaMigration.Proofs.Change.Schema
import SchemaMigration.Proofs.Change.Literals
import SchemaMigration.Proofs.Identifier.Renaming
import SchemaMigration.Proofs.ColumnType.Resolution
import SchemaMigration.Proofs.ColumnType.Parameters
import SchemaMigration.Proofs.ColumnType.Grammar
import SchemaMigration.Proofs.Settings.Texts
import SchemaMigration.Proofs.Path.Normal
