import Tenancy.Request.Json
import Tenancy.Configuration.Json
import Tenancy.Proofs.Run
import Tenancy.Proofs.Reachable
import Tenancy.Proofs.Build
import Tenancy.Proofs.Sql.Reader
import Tenancy.Proofs.Sql.Template
import Tenancy.Proofs.SameTenant
import Tenancy.Proofs.Sql.BodyMark
import Tenancy.Proofs.RoutineBody
import Tenancy.Proofs.TableChange
import Tenancy.Proofs.Sql.Decoding
import Tenancy.Proofs.Needs
import Tenancy.Proofs.Purpose
import Tenancy.Proofs.DefinedBeforeUse
import Tenancy.Proofs.Subject
import Tenancy.Proofs.Complete
import Tenancy.Proofs.NameBounds
import Tenancy.Proofs.Interleaving
import Tenancy.Proofs.CustomChanges
import Tenancy.Proofs.Addition
import Tenancy.Proofs.Slot
import Tenancy.Proofs.Reordering
import Tenancy.Proofs.Mentions
import Tenancy.Proofs.DefaultSchema
import Tenancy.Proofs.Json.Tokens
import Tenancy.Proofs.Rearrangement
import Tenancy.Proofs.Json.Values
import Tenancy.Proofs.Json.Codecs
import Tenancy.Proofs.Json.Records
import Tenancy.Proofs.RoundTrip
import Tenancy.Proofs.KeyValues
import Tenancy.Proofs.RequestChecks
import Tenancy.Proofs.ColumnDefaults
import Tenancy.Proofs.ConfigurationText
import Tenancy.Proofs.Consistency
import Tenancy.Proofs.ConsistentBuilders
import Tenancy.Proofs.Sql.KeyWords
import Tenancy.Proofs.LiteralLists
import Tenancy.Proofs.RoutineNames
import Tenancy.Proofs.StatementColumns
import Tenancy.Proofs.TenantColumn
