import Cratewright.Configuration.Error
import Cratewright.Report.Layout

/-!
# Reports on configuration errors

An error is reported below the place of the source that it is about; one that is about no place is reported by its
message alone. The report takes the offsets of an error, which count bytes, for offsets of characters: in a source
beyond ASCII the place shown lies behind the place meant, or beyond the end.
-/

namespace Cratewright.Configuration.Error

/-- The report on an error, given the source and the name of the file. -/
def report (error : Error) (source fileName : String) : String :=
  match error.span? source with
  | none => error.message
  | some span =>
    ({ heading := "invalid runtime configuration"
       fileName, source, span
       message := error.message } : Report).render

end Cratewright.Configuration.Error
