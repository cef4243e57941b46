import VolatilityDesk.Console
import VolatilityDesk.Json
/-!
# Records of what is printed
-/

namespace VolatilityDesk.Record

/-- Something printed: text, data or a table. -/
def printed : Printed → Json
  | .line text | .plain text => .text text
  | .data text => .object [("json", .text text)]
  | .table t =>
    .object [
      ("title", .text t.title), ("caption", .ofOption .text t.caption),
      ("columns", .texts t.columns), ("rows", .list (t.rows.map .texts))]

end VolatilityDesk.Record
