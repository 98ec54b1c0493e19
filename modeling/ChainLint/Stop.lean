import ChainLint.Document
import ChainLint.Dump.Fault
import ChainLint.Guard.Fault
import ChainLint.PathTable
/-!
# What ends a run

Most faults cost a rule, a dump or a unit, and are told in a warning. The rest
end whatever is being done.
-/

namespace ChainLint

/-- Why something ended without an answer. -/
inductive Stop
  | document (fault : Document.Fault)
  | dump (fault : DumpFault)
  | misuse (misuse : Datum.Misuse)
  | guard (fault : Guard.Fault)
  | registry (fault : RegistryFault)
  /-- An analysis was asked for without saying how many units may be analysed at a time. -/
  | noJobs
  /-- The output could not be written. -/
  | output (fault : FileFault)

/-- What ends the reading of a dump. -/
def LoadFault.stop : LoadFault → Stop
  | .malformed fault => .dump fault
  | .misused misuse => .misuse misuse

/-- What a warning says of a stop that only costs a dump. -/
def Stop.dumpCause? : Stop → Option String
  | .document (.file fault) => if fault.isAnswer then some fault.shown else none
  | .dump fault => some fault.message
  | _ => none

end ChainLint
