import SchemaScript.Configuration
import SchemaScript.Log.Call
import SchemaScript.Main
import SchemaScript.Sql.Form
import SchemaScript.Table.Frozen
import SchemaScript.Value.JsonReader
import SchemaScript.Proofs.BackendView
import SchemaScript.Proofs.Outcome
import SchemaScript.Proofs.Parts
import SchemaScript.Proofs.RowSecurity
import SchemaScript.Proofs.Schema
import SchemaScript.Proofs.Lexing
import SchemaScript.Proofs.Splitting
import SchemaScript.Proofs.Transactions
import SchemaScript.Proofs.Catalogue
import SchemaScript.Proofs.RegistryOrder
import SchemaScript.Proofs.RelationalSchema
import SchemaScript.Proofs.Stamps
import SchemaScript.Proofs.Faults
import SchemaScript.Proofs.Answers
import SchemaScript.Proofs.Metadata
import SchemaScript.Proofs.Agreement
import SchemaScript.Proofs.Lifecycle
import SchemaScript.Proofs.AddedTable
import SchemaScript.Proofs.IndexNames
import SchemaScript.Proofs.RoleConfinement
import SchemaScript.Proofs.Validation
import SchemaScript.Proofs.TableLayout
import SchemaScript.Proofs.IndexSelection
import SchemaScript.Proofs.TriggerBlocks
import SchemaScript.Proofs.Contexts
import SchemaScript.Proofs.RecordData
import SchemaScript.Proofs.JsonStrings
import SchemaScript.Proofs.JsonText
import SchemaScript.Proofs.LogLines
import SchemaScript.Proofs.Accounts
import SchemaScript.Proofs.FirstDefinitions
import SchemaScript.Proofs.LogSetup
import SchemaScript.Proofs.Snapshot
import SchemaScript.Proofs.CommandScripts
import SchemaScript.Proofs.QuotedTexts
import SchemaScript.Proofs.KeptLines
import SchemaScript.Proofs.Forms
import SchemaScript.Proofs.FailureTexts
