import Weaver.Pass.Injection
import Weaver.Pass.Substitution
import Weaver.Report.Json

/-!
# Reports

What injections and substitutions did, as text for people and as JSON for programs.

## Main definitions

* `InjectionOutcome.text`, `InjectionOutcome.json`.
* `SubstitutionReport.text`, `SubstitutionReport.json`.
-/

namespace Weaver

/-- Lines with a line end behind each. -/
def textOfLines (lines : List Text) : Text :=
  lines.flatMap fun line => line ++ ['\n']

/-- An array of strings. -/
def JsonValue.strings (texts : List Text) : JsonValue :=
  .array (texts.map .string)

/-! ### Injections -/

namespace InjectionReport

/-- The lines of a report. -/
def lines (r : InjectionReport) : List Text :=
  ["injected into ".toList ++ r.method.text,
    "  context: ".toList ++ r.contextLocal ++
      (if r.generatedContext then " (generated)".toList else [])] ++
    r.fields.map ("  listener field ".toList ++ ·) ++
    r.handlers.map (fun sig => "  handler ".toList ++ sig.text) ++
    ["  ".toList ++ natText r.inserted ++ " statements inserted".toList]

/-- The entries of a report. -/
def entries (r : InjectionReport) : List (Text × JsonValue) :=
  [("method".toList, .string r.method.text),
    ("fields".toList, .strings r.fields),
    ("handlers".toList, .strings (r.handlers.map Signature.text)),
    ("context_local".toList, .string r.contextLocal),
    ("generated_context".toList, .bool r.generatedContext),
    ("inserted".toList, .count r.inserted)]

end InjectionReport

namespace InjectionOutcome

/-- The outcome for people. -/
def text : InjectionOutcome → Text
  | injected report => textOfLines report.lines
  | nothingToInject => "no listeners or handlers to call\n".toList
  | skipped reason => textOfLines ["skipped: ".toList ++ reason.message]

/-- An object that names the outcome first. -/
def tagged (outcome : String) (entries : List (Text × JsonValue)) : JsonValue :=
  .object (("outcome".toList, .string outcome.toList) :: entries)

/-- The outcome for programs. -/
def json : InjectionOutcome → JsonValue
  | injected report => tagged "injected" report.entries
  | nothingToInject => tagged "nothing_to_inject" []
  | skipped reason => tagged "skipped" [("reason".toList, .string reason.message)]

end InjectionOutcome

/-! ### Substitutions -/

namespace SkipReason

/-- The reason for people. -/
def label : SkipReason → Text
  | nonLocalTarget => "NonLocalTarget".toList
  | missingLocal => "MissingLocal".toList
  | unresolvedConstructor => "UnresolvedConstructor".toList

/-- The reason for programs. -/
def key : SkipReason → Text
  | nonLocalTarget => "non_local_target".toList
  | missingLocal => "missing_local".toList
  | unresolvedConstructor => "unresolved_constructor".toList

end SkipReason

namespace SubstitutionReport

/-- The report for people. -/
def text (r : SubstitutionReport) : Text :=
  textOfLines
    (r.renamed.map (fun (old, new) => "renamed ".toList ++ old ++ " -> ".toList ++ new) ++
      [natText r.rewritten ++ " rewritten, ".toList ++ natText r.untouched ++
        " untouched, ".toList ++ natText r.skipped.length ++ " skipped".toList] ++
      r.skipped.map (fun (stmt, why) =>
        "  skipped ".toList ++ cited stmt ++ ": ".toList ++ why.label) ++
      r.warnings.map fun w => "warning: ".toList ++ w.message)

/-- The report for programs. -/
def json (r : SubstitutionReport) : JsonValue :=
  .object
    [("renamed".toList, .array (r.renamed.map fun (old, new) => .strings [old, new])),
      ("rewritten".toList, .count r.rewritten),
      ("untouched".toList, .count r.untouched),
      ("skipped".toList, .array (r.skipped.map fun (stmt, why) =>
        .object [("stmt".toList, .string stmt), ("reason".toList, .string why.key)])),
      ("warnings".toList, .strings (r.warnings.map SubstitutionWarning.message))]

end SubstitutionReport

end Weaver
