/-!
Why a cursor has no value to give.
-/

namespace Almanac

inductive CursorError
  | exhausted
deriving DecidableEq

def CursorError.message : CursorError → String
  | exhausted => "No more occurrences"

end Almanac
