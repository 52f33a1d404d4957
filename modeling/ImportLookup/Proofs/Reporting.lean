import ImportLookup.Command
import ImportLookup.Proofs.PlaceChange
import ImportLookup.Proofs.RunTrace

/-!
# All or a report

The command that runs once can fail before it has done anything: its settings are
bad, the directory cannot be listed, or it is asked to stop before its first file.
Then it has done nothing, and that failure is all there is (`Untouched`). From the
first file on there is a report, whatever happens, and it goes to one destination
(`Reported`): to the file that is named, else to the browser, else out. What went
wrong on the way is not lost; the failure of the run over the files and that of the
report are both behind the one that comes out.
-/

namespace ImportLookup

namespace Disk

end Disk

/-! ## Failures that come together -/

namespace Failure

end Failure

/-! ## Before the first file -/

namespace Run

end Run

/-! ## Where the report goes -/

namespace Command

namespace Once

section Putting

variable {c : Once} {browserFault : Option Bytes} {summary : Summary} {s : Session}

end Putting

/-! ## The command -/

end Once

end Command

end ImportLookup
