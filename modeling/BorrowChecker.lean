import BorrowChecker.Analysis.Batch
import BorrowChecker.Builder
import BorrowChecker.Dataflow.GenKill
import BorrowChecker.Proofs.Acceptance
import BorrowChecker.Proofs.ActiveLoans
import BorrowChecker.Proofs.AliasingRule
import BorrowChecker.Proofs.CarriedReferences
import BorrowChecker.Proofs.CollectedDemands
import BorrowChecker.Proofs.Complaints
import BorrowChecker.Proofs.ConsumedLoans
import BorrowChecker.Proofs.ControlFlow
import BorrowChecker.Proofs.Dataflow
import BorrowChecker.Proofs.EscapingLoans
import BorrowChecker.Proofs.InitializationPaths
import BorrowChecker.Proofs.InitializationRule
import BorrowChecker.Proofs.Jumps
import BorrowChecker.Proofs.LeastSolutions
import BorrowChecker.Proofs.LifetimePoints
import BorrowChecker.Proofs.LifetimeSolution
import BorrowChecker.Proofs.LiveLocals
import BorrowChecker.Proofs.OutlivesGraph
import BorrowChecker.Proofs.PathStates
import BorrowChecker.Proofs.Propagation
import BorrowChecker.Proofs.Reachability
import BorrowChecker.Proofs.RepeatedMoves
import BorrowChecker.Proofs.SharedReferences
import BorrowChecker.Proofs.SignatureRule
import BorrowChecker.Proofs.SplitAnalyses
import BorrowChecker.Proofs.SplitEdges
import BorrowChecker.Proofs.SplitVerdict
import BorrowChecker.Proofs.TornOwners
import BorrowChecker.Proofs.TrackedPlaces
import BorrowChecker.Proofs.ImpliedDemands
import BorrowChecker.Proofs.TypeUnfolding
import BorrowChecker.Proofs.TypedBodies
import BorrowChecker.Proofs.TypedVerdict
import BorrowChecker.Proofs.UninitializedFields
import BorrowChecker.Proofs.UninitializedParts
import BorrowChecker.Proofs.ValidBodies
import BorrowChecker.Settings
import BorrowChecker.Proofs.LivePaths
import BorrowChecker.Proofs.LoanPaths
import BorrowChecker.Proofs.JoinedStates
import BorrowChecker.Proofs.UnreachableCode
import BorrowChecker.Proofs.UnreachablePlaces
import BorrowChecker.Proofs.UnreachableVerdict
import BorrowChecker.Proofs.BorrowedLifetimes
import BorrowChecker.Proofs.EquatedLifetimes
import BorrowChecker.Proofs.FreshLifetimes
import BorrowChecker.Proofs.PlaceKeys
import BorrowChecker.Proofs.PlaceIndex
import BorrowChecker.Proofs.UntrackedPlaces
import BorrowChecker.Proofs.PlaceTexts
import BorrowChecker.Proofs.RecordedDemands
import BorrowChecker.Proofs.RenamedTypes
import BorrowChecker.Proofs.QueueHistories
