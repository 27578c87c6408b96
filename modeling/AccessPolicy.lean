import AccessPolicy.Compile.KeyPolicy
import AccessPolicy.Compile.Trust
import AccessPolicy.Environment.Reader
import AccessPolicy.Principal.Codec
import AccessPolicy.Proofs.Compile.Accounts
import AccessPolicy.Proofs.Compile.Built
import AccessPolicy.Proofs.Compile.Canonical
import AccessPolicy.Proofs.Compile.Effects
import AccessPolicy.Proofs.Compile.FixedPoint
import AccessPolicy.Proofs.Compile.Grantees
import AccessPolicy.Proofs.Compile.KeyPolicy
import AccessPolicy.Proofs.Compile.NullKeys
import AccessPolicy.Proofs.Compile.OwnerScope
import AccessPolicy.Proofs.Compile.Respelling
import AccessPolicy.Proofs.Compile.SetFields
import AccessPolicy.Proofs.Compile.Shape
import AccessPolicy.Proofs.Diff.ChangePoints
import AccessPolicy.Proofs.Diff.StatementOrder
import AccessPolicy.Proofs.Document.Normal
import AccessPolicy.Proofs.Document.Text
import AccessPolicy.Proofs.Environment.Written
import AccessPolicy.Proofs.GrantPlan.Execution
import AccessPolicy.Proofs.GrantPlan.Order
import AccessPolicy.Proofs.Principal.Gathered
import AccessPolicy.Proofs.Principal.Roles
import AccessPolicy.Proofs.Reference.Entries
import AccessPolicy.Proofs.Reference.FanOut
import AccessPolicy.Proofs.Reference.Written
import AccessPolicy.Proofs.Schema.Accepted
import AccessPolicy.Proofs.Schema.Ignored
import AccessPolicy.Proofs.Statement.GivenAction
