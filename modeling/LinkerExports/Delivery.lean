import LinkerExports.Scan.Basic
import LinkerExports.Script.Basic

/-! From a source of declarations to a script in a sink. The criteria are made first, then the
source is read to its end, and only then is anything written. -/
namespace LinkerExports

structure Delivery where
  result : Except Error Summary
  sink : Sink
  events : List Event

def deliver (config : Config) (source : Source) (sink : Sink)
    (engine : PatternEngine := .unlimited) : Delivery :=
  match Criteria.ofConfig config engine with
  | .error error => ⟨.error error, sink, []⟩
  | .ok criteria =>
    let scan := criteria.scan source
    match scan.result with
    | .error error => ⟨.error error, sink, scan.events⟩
    | .ok summary =>
      let written := (VersionScript.ofSummary summary config).emit sink
      ⟨written.1.map fun () => summary, written.2, scan.events⟩

variable {config : Config}

/-- A faulty configuration leaves the sink as it was, whatever the source would do. -/
theorem deliver_of_fault {error : ConfigError} (h : config.check = .error error) (source : Source)
    (sink : Sink) (engine : PatternEngine) :
    deliver config source sink engine = ⟨.error (.config error), sink, []⟩ := by
  simp only [deliver, Criteria.ofConfig, h]

theorem deliver_of_unbuilt {engine : PatternEngine} {text : String} (valid : config.check = .ok ())
    (h : engine.build (Declaration.patternText config.apiPrefix) = .error text) (source : Source)
    (sink : Sink) :
    deliver config source sink engine = ⟨.error (.pattern text), sink, []⟩ := by
  simp only [deliver, Criteria.ofConfig, valid, h]

/-- Once the pattern is built, the engine has no part in the delivery. -/
theorem deliver_of_builds {engine : PatternEngine} (builds : engine.Builds config.apiPrefix)
    (source : Source) (sink : Sink) :
    deliver config source sink engine = deliver config source sink := by
  simp only [deliver, Criteria.ofConfig_of_builds builds]

end LinkerExports
