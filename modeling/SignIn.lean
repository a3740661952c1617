import SignIn.Client
import SignIn.Pass
import SignIn.SharedSlots
import SignIn.Proofs.FlowSafety
import SignIn.Proofs.OriginForm
import SignIn.Proofs.MalformedBodies
import SignIn.Proofs.Isolation
import SignIn.Proofs.FieldLines
import SignIn.Proofs.Grouping
import SignIn.Proofs.Secrecy
import SignIn.Proofs.Ledger
import SignIn.Proofs.Blame
import SignIn.Proofs.Url.Form
import SignIn.Proofs.TokenForm
import SignIn.Proofs.Chaining
import SignIn.Proofs.Json.Written
import SignIn.Proofs.Parameters
import SignIn.Proofs.Normalization
import SignIn.Proofs.Urns
import SignIn.Proofs.LoginLink
import SignIn.Proofs.Url.WellFormed
import SignIn.Proofs.Url.Target
import SignIn.Proofs.AccessToken
import SignIn.Proofs.StoredRegistration
import SignIn.Proofs.StoredIdentity
import SignIn.Proofs.TokenMembers
import SignIn.Proofs.HeaderSources
import SignIn.Proofs.LetterCase
import SignIn.Proofs.Waiting
import SignIn.Proofs.SlotUses
import SignIn.Proofs.ClientReports
import SignIn.Proofs.EndpointPaths
import SignIn.Proofs.Decoding
import SignIn.Proofs.Previews
import SignIn.Proofs.Url.Queries
import SignIn.Proofs.RequestLine
