import ShiftReduce.Main
import ShiftReduce.Proofs.Derivation
import ShiftReduce.Proofs.InternalFaults
import ShiftReduce.Proofs.Lockstep
import ShiftReduce.Proofs.Lookahead
import ShiftReduce.Proofs.OverridePatch
import ShiftReduce.Proofs.ParseForest
import ShiftReduce.Proofs.StepBound
import ShiftReduce.Proofs.Consulted
import ShiftReduce.Proofs.History
import ShiftReduce.Proofs.Renaming
import ShiftReduce.Proofs.RenamedRun
import ShiftReduce.Proofs.EndMarker
import ShiftReduce.Proofs.DocumentFormat
import ShiftReduce.Proofs.TableDocument
import ShiftReduce.Proofs.Conflicts
import ShiftReduce.Proofs.Advances
import ShiftReduce.Proofs.Sums
import ShiftReduce.Proofs.ExpressionTable
import ShiftReduce.Proofs.AmbiguousTable
import ShiftReduce.Proofs.Halting
import ShiftReduce.Proofs.MergedEntries
import ShiftReduce.Proofs.StackEdges
import ShiftReduce.Proofs.ExitCode
import ShiftReduce.Proofs.Loading
import ShiftReduce.Proofs.FirstFault
import ShiftReduce.Proofs.Progress
import ShiftReduce.Proofs.EntryKinds
import ShiftReduce.Proofs.Respelling
import ShiftReduce.Proofs.Reports
import ShiftReduce.Proofs.InsideInput
import ShiftReduce.Proofs.TableRows
import ShiftReduce.Proofs.Words
