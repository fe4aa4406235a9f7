import PrototypeLens.Config.Basic
import PrototypeLens.Log.Directive

/-!
# Log filters

The directives that decide what is logged, from the configured level and the environment.
-/

namespace PrototypeLens.Log

/-- A log filter. Each list is in order, the most specific directive first. -/
structure Filter where
  /-- The directives that can be decided without spans. -/
  statics : List Directive
  /-- The directives that depend on spans. -/
  dynamics : List Directive

namespace Filter

/-- The filter of some directives. A directive on a field that may have any value counts as both
kinds. -/
def ofDirectives (directives : List Directive) : Filter :=
  let dynamics := directives.filter (·.isDynamic)
  let statics := directives.filter (!·.isDynamic) ++ dynamics.filterMap (·.static?)
  let insertAll := fun ds => ds.foldl (fun sorted (d : Directive) => d.insert sorted) []
  ⟨insertAll statics, insertAll dynamics⟩

/-- Reads a filter: directives with commas between them. -/
def parse? (text : String) : Option Filter :=
  (((Text.splitAt ',' text.toList).filter (!·.isEmpty)).mapM Directive.parse?).map ofDirectives

def text (f : Filter) : String :=
  ",".intercalate ((f.statics ++ f.dynamics).map Directive.text)

end Filter

end PrototypeLens.Log

namespace PrototypeLens.LoggingSettings

open Log (Filter)

/-- The configured level as directives: the name of a level in any case, also `warning` for `warn`,
or directives as they are. -/
def directives (s : LoggingSettings) : String :=
  let level := Text.trim s.level
  let name := Text.asciiLower level
  if name = "" then "info"
  else if name = "warning" then "warn"
  else if ["trace", "debug", "info", "warn", "error"].contains name then name
  else level

/-- The filter of the configured level with the directives of the environment on top. Where these do
not parse, the configured level alone decides, and where that does not parse either, `info`. -/
def filter (s : LoggingSettings) (environment : Option String) : Filter :=
  let configured := s.directives
  let combined := match Text.nonBlank? environment with
    | some extra => configured ++ "," ++ Text.trim extra
    | none => configured
  -- The environment cannot turn the configured level off by being malformed.
  ((Filter.parse? combined).or (Filter.parse? configured)).getD
    (Filter.ofDirectives [{ level := .info }])

end PrototypeLens.LoggingSettings
