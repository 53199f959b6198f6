import MeshCosi.Foundation.Run
import MeshCosi.Foundation.Go
import MeshCosi.Foundation.Bytes
import MeshCosi.Foundation.Multisig
import MeshCosi.Foundation.Timers
import MeshCosi.Foundation.Restrict
import MeshCosi.Foundation.Limbs
import MeshCosi.Foundation.Digits
import MeshCosi.Foundation.Packing
import MeshCosi.Foundation.Edwards
import MeshCosi.Foundation.EdwardsCoordinates
import MeshCosi.Foundation.Primality
import MeshCosi.Foundation.EdwardsEval
import MeshCosi.Edwards25519
import MeshCosi.Edwards.Scalar
import MeshCosi.Edwards.Field
import MeshCosi.Edwards.FieldArith
import MeshCosi.Edwards.FieldBytes
import MeshCosi.Edwards.Recode
import MeshCosi.Edwards.Const
import MeshCosi.Edwards.Curve
import MeshCosi.Edwards.Point
import MeshCosi.Edwards.Encoding
import MeshCosi.Edwards.Tables
import MeshCosi.Edwards.ScalarMult
import MeshCosi.Edwards.DoubleScalarMult
import MeshCosi.Edwards.Lawful
import MeshCosi.Ed25519
import MeshCosi.Cosi.Cosigners
import MeshCosi.Cosi.Sign
import MeshCosi.Cosi.Verify
import MeshCosi.Cosi.Mask
import MeshCosi.Cosi.Aggregate
import MeshCosi.Cosi.Honest
import MeshCosi.Cosi.Reachable
import MeshCosi.Cosi.Threshold
import MeshCosi.Cosi.Reference
import MeshCosi.Cosi.Parts
import MeshCosi.Cosi.Calls
import MeshCosi.Cosi.Keys
import MeshCosi.Cosi.OnLimbs
import MeshCosi.Cosi.SignOnLimbs
import MeshCosi.Cosi.VerifyOnLimbs
import MeshCosi.Network.Hub
import MeshCosi.Network.Registry
import MeshCosi.Network.Subscriptions
import MeshCosi.Network.Delivery
import MeshCosi.Network.Fanout
import MeshCosi.Network.Server
import MeshCosi.Network.Handlers
import MeshCosi.Network.Invariants
import MeshCosi.Network.Committees
import MeshCosi.Network.Streams
import MeshCosi.Network.Rounds
import MeshCosi.Network.Membership
import MeshCosi.Network.Waiting
import MeshCosi.Network.Isolation
import MeshCosi.Network.Commits
import MeshCosi.Network.Candidates
import MeshCosi.Network.Overlap
import MeshCosi.Network.Arrival
import MeshCosi.Network.Ceremony
