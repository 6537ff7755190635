import SqlContract.Database.Admin
import SqlContract.Database.Reflection
import SqlContract.Main
import SqlContract.Proofs.Database.Settings
import SqlContract.Proofs.Emit.References
import SqlContract.Proofs.Emit.SnakeCase
import SqlContract.Proofs.Execution.Marshalling
import SqlContract.Proofs.Execution.Planning
import SqlContract.Proofs.Execution.Results
import SqlContract.Proofs.Execution.Sessions
import SqlContract.Proofs.Generation.Clashes
import SqlContract.Proofs.Generation.LetterCase
import SqlContract.Proofs.Generation.Stars
import SqlContract.Proofs.Headed.Groups
import SqlContract.Proofs.Headed.LineEnds
import SqlContract.Proofs.Headed.PassedOver
import SqlContract.Proofs.Headed.Verbatim
import SqlContract.Proofs.Marked.Agreement
import SqlContract.Proofs.Marked.Definitions
import SqlContract.Proofs.Marked.Places
import SqlContract.Proofs.Marked.Precedence
import SqlContract.Proofs.Remote.Mismatch
import SqlContract.Proofs.Schema.StoredTypes
import SqlContract.Proofs.Schema.Tables
import SqlContract.Stamp
