-- SUMMARY: Log filters: which levels are reported for which targets.
import Buildwright.Config.Basic
import Buildwright.Config.LogDirective
import Buildwright.SortedMap

/-!
# Log filters

A filter is a set of directives. Its text is a list of them with commas between. The filter of a run
puts together what the configuration says and what the environment says, and passes over a text that
is not a filter.
-/
namespace Buildwright

/-- A filter: the levels of targets that a place in the program alone decides on, and those of spans. A
    target can be among both. -/
structure LogFilter where
  fixed : SortedMap LogTarget LogLevel
  spans : SortedMap LogTarget LogLevel

namespace LogFilter

/-- The directives of a filter's text. -/
def directives? (s : String) : Option (List Directive) :=
  ((Text.pieces ',' s).filter (· != "")).mapM Directive.ofPiece?

/-- The filter that reports one level for everything. -/
def only (level : LogLevel) : LogFilter :=
  ⟨SortedMap.empty.insert .everything level, SortedMap.empty⟩

/-- The levels of targets. A later directive replaces an earlier one about the same target as a whole. -/
def levels (ds : List Directive) : SortedMap LogTarget LogLevel :=
  ds.foldl (fun m (target, level) => (m.erase target).insert target level) SortedMap.empty

/-- The filter of directives, of which a later one replaces an earlier one about the same target.
    Without directives errors are reported. -/
def ofDirectives : List Directive → LogFilter
  | [] => only .error
  | ds =>
    let spans := ds.filter (·.1.isAboutSpans)
    let targets := ds.filter (!·.1.isAboutSpans)
    ⟨levels (targets ++ spans.filter (·.1.isFixed)), levels spans⟩

/-- The filter with a text. -/
def ofText? (s : String) : Option LogFilter :=
  (directives? s).map ofDirectives

/-- A filter as it is shown. -/
def text (f : LogFilter) : String :=
  Text.joined "," ((f.fixed.entries ++ f.spans.entries).map Directive.text)

/-! ## The filter of a run -/

/-- The levels that a configuration may name in its own way. -/
def levelNames : List (String × String) :=
  [("trace", "trace"), ("debug", "debug"), ("info", "info"), ("warn", "warn"), ("warning", "warn"),
    ("error", "error")]

/-- The text of a filter that a configured level stands for. -/
def normalized (level : String) : String :=
  let trimmed := Text.trim level
  if trimmed = "" then "info"
  else (levelNames.lookup trimmed.toLower).getD trimmed

/-- The filter of a configured level. -/
def ofLevel (level : String) : LogFilter :=
  (ofText? (normalized level)).getD (only .info)

/-- The filter of a configured level and of what the environment adds to it, if anything. -/
def effective (level : String) (added : Option String) : LogFilter :=
  match (added.map Text.trim).filter (· != "") with
  | none => ofLevel level
  | some added =>
    ((ofText? (normalized level ++ "," ++ added)).or (ofText? added)).getD (ofLevel level)

end LogFilter
end Buildwright
