/-!
Offset histories of the zones whose names begin with `Indian/`.
-/

namespace Almanac.Zone.History

def indian : List (String × String) := [
  ("Indian/Chagos", "17380 -1988167780:18000 820436400:21600"),
  ("Indian/Maldives", "17640 -315636840:18000"),
  ("Indian/Mauritius", "
      13800 -1988164200:14400 403041600:18000 417034800:14400 1224972000:18000
      1238274000:14400")]

end Almanac.Zone.History
