import Keyspace.Shard.Cover
import Keyspace.Shard.Text
import Keyspace.Assignment
import Keyspace.Controller
import Keyspace.Store.Engine
import Keyspace.Message.Form
import Keyspace.Service
import Keyspace.Client
import Keyspace.Router
import Keyspace.Cluster
import Keyspace.Http.Transport
import Keyspace.Http.Wire
import Keyspace.CommandLine
import Keyspace.Main
import Keyspace.Proofs.Controller.History
import Keyspace.Proofs.Controller.Representation
import Keyspace.Proofs.Controller.MoveAlgebra
import Keyspace.Proofs.Controller.EvenSplit
import Keyspace.Proofs.Controller.Fragmentation
import Keyspace.Proofs.Store.Replay
import Keyspace.Proofs.Store.CircularWait
import Keyspace.Proofs.Store.Census
import Keyspace.Proofs.Store.LockScope
import Keyspace.Proofs.Store.Safety
import Keyspace.Proofs.Shard.Syntax
import Keyspace.Proofs.Shard.Difference
import Keyspace.Proofs.Shard.NormalForm
import Keyspace.Proofs.Settings.Acceptance
import Keyspace.Proofs.Settings.ClientWords
import Keyspace.Proofs.Cluster.OneStore
import Keyspace.Proofs.Cluster.PartialWrite
import Keyspace.Proofs.Cluster.BatchedRead
import Keyspace.Proofs.Cluster.Placement
import Keyspace.Proofs.Router.Scattering
import Keyspace.Proofs.Client.Retelling
import Keyspace.Proofs.Http.Transparency
import Keyspace.Proofs.Http.Rejection
import Keyspace.Proofs.Http.Attribution
import Keyspace.Proofs.Http.Spelling
import Keyspace.Proofs.Store.Crowd
