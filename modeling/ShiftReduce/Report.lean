import ShiftReduce.Json
import ShiftReduce.Trace

/-!
# Reports as data

The forms in which verdicts, histories and conflicts are handed to other programs (sections 12 and
14 of the specification). Members are listed in key order. Every report has its texts as they are,
so that nothing has to be taken apart to read it.
-/

namespace ShiftReduce

/-- A rejection as data: its kind and the fields of that kind. -/
def Rejection.toJson (reason : Rejection) : Json :=
  match reason with
  | .syntaxError state token position =>
    .object [("position", .ofNat position), ("reason", .string reason.kind),
      ("state", .string state.text), ("token", .string token), ("verdict", .string "rejected")]
  | .conflict state token =>
    .object [("reason", .string reason.kind), ("state", .string state.text),
      ("token", .string token), ("verdict", .string "rejected")]
  | .malformedEntry state token actionType detail =>
    .object [("action_type", .string actionType), ("detail", .string detail),
      ("reason", .string reason.kind), ("state", .string state.text), ("token", .string token),
      ("verdict", .string "rejected")]
  | .unknownAction state token actionType =>
    .object [("action_type", .string actionType), ("reason", .string reason.kind),
      ("state", .string state.text), ("token", .string token), ("verdict", .string "rejected")]

/-- A verdict as data. A fault is reported by its kind and its message. -/
def Verdict.toJson : Verdict → Json
  | .accepted => .object [("verdict", .string "accepted")]
  | .rejected reason => reason.toJson
  | .fatal fault =>
    .object [("detail", .string fault.message), ("kind", .string fault.kind),
      ("verdict", .string "fatal")]

/-- A line of a parsing history as data. -/
def TraceRow.toJson (row : TraceRow) : Json :=
  .object [("action", .string row.action), ("lookahead", row.lookahead.elim .null .string),
    ("position", .ofNat row.position),
    ("stack", .array (row.stack.map (fun item => .string item.text))),
    ("state", .string row.state.text), ("step", .ofNat row.index)]

/-- A parsing history as data. -/
def Trace.toJson (trace : Trace) : Json := .array (trace.rows.map TraceRow.toJson)

/-- A conflict as data, its candidates in short form. -/
def Conflict.toJson (conflict : Conflict) : Json :=
  .object [("candidates", .array (conflict.candidates.map (fun action => .string action.text))),
    ("state", .string conflict.site.state.text), ("symbol", .string conflict.site.symbol)]

end ShiftReduce
