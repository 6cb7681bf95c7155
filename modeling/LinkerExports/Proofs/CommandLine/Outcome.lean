import LinkerExports.Proofs.CommandLine.Report
import LinkerExports.Proofs.CommandLine.Requests
import LinkerExports.Proofs.Script.RoundTrip

/-! The arguments alone decide how a run ends, as long as the input does not fail and the pattern
is built. The log filter decides about the log and nothing else. -/
namespace LinkerExports

namespace VersionScript

open Text

theorem render_eq_wildcard_iff {script : VersionScript} (fits : script.FitsLines) :
    script.render = String.ofList (wildcardRows script.tool).flatten ↔ script.exports = [] := by
  have empty : (⟨script.tool, []⟩ : VersionScript).render =
      String.ofList (wildcardRows script.tool).flatten := by
    rw [← String.toList_inj, toList_render, String.toList_ofList]
    rfl
  rw [← empty]
  constructor
  · intro same
    have emptyFits : (⟨script.tool, []⟩ : VersionScript).FitsLines := by
      constructor
      · exact fits.tool
      · exact fun name member => absurd member List.not_mem_nil
    have read : read? (⟨script.tool, []⟩ : VersionScript).render = some script :=
      same ▸ read?_render fits
    rw [read?_render emptyFits] at read
    exact congrArg exports (Option.some.inj read).symm
  · intro none
    rw [← none]

end VersionScript

theorem LogLine.ofEvent_ne_exportsEverything (event : Event) (apiPrefix : String) :
    ofEvent event ≠ exportsEverything apiPrefix := by
  have targets : runTarget ≠ scanTarget := by decide
  intro same
  have target := congrArg LogLine.target same
  cases event <;> exact targets target.symm

theorem Delivery.exportsEverything_mem_log_iff {delivery : Delivery} {summary : Summary}
    (finished : delivery.result = .ok summary) {config : Config} :
    LogLine.exportsEverything config.apiPrefix ∈ delivery.log config ↔
      summary.accepted = [] ∧ config.extraNames = [] := by
  have events : LogLine.exportsEverything config.apiPrefix ∉
      delivery.events.map LogLine.ofEvent := by
    rw [List.mem_map]
    rintro ⟨event, -, same⟩
    exact LogLine.ofEvent_ne_exportsEverything event _ same
  simp only [log, finished, List.mem_append, events, false_or]
  split
  · next nothing => simpa using nothing
  · next something => simpa using something

/-- The bytes of the script that exports everything. -/
def Config.wildcardScript (config : Config) : List UInt8 :=
  Text.utf8 (String.ofList (VersionScript.wildcardRows config.tool).flatten)

/-- The run has written the script of a delivery that went through, and nothing but the log of it
besides. The log has the warning exactly when the script is the one that exports everything. -/
structure Outcome.Completes (outcome : Outcome) (config : Config) (engine : PatternEngine)
    (filter : LogFilter) (input : Source) : Prop where
  result : ∃ summary, (deliver config input {} engine).result = .ok summary
  code : outcome.code = 0
  stdout : outcome.stdout = (deliver config input {} engine).sink.accepted.toList
  stderr : outcome.stderr = filter.render ((deliver config input {} engine).log config)
  warning : LogLine.exportsEverything config.apiPrefix ∈
    (deliver config input {} engine).log config ↔ outcome.stdout = config.wildcardScript

variable {config : Config} {engine : PatternEngine}

theorem runDelivery_completes (valid : config.check = .ok ())
    (builds : engine.Builds config.apiPrefix) (filter : LogFilter) {input : Source}
    (ends : input.failure = none) :
    (runDelivery config filter input engine).Completes config engine filter input := by
  obtain ⟨finished, written⟩ := deliver_of_ends valid ends
  rw [← deliver_of_builds builds] at finished written
  have whole : runDelivery config filter input engine =
      ⟨0, (deliver config input {} engine).sink.accepted.toList,
        filter.render ((deliver config input {} engine).log config)⟩ := by
    simp only [runDelivery, valid, finished]
  have fits := fitsLines_ofSummary valid input.text
  have wildcard := VersionScript.render_eq_wildcard_iff fits
  rw [VersionScript.tool_ofSummary] at wildcard
  rw [whole]
  refine ⟨⟨_, finished⟩, rfl, rfl, rfl, ?_⟩
  rw [Delivery.exportsEverything_mem_log_iff finished, written, Config.wildcardScript,
    Text.utf8_inj, wildcard, VersionScript.exports_ofSummary_eq_nil_iff]

theorem run_of_asks_deliver {arguments : List String} {verbose : Bool}
    (asks : Asks arguments (.deliver config verbose)) (filterText : Option String)
    (input : Source) (libraries : Libraries) :
    run arguments filterText input libraries =
      runDelivery config (libraries.filters.choose filterText verbose) input libraries.engine := by
  simp only [run, ofArguments_of_asks asks]

def hiddenSource : Source := ⟨[Text.utf8 "-H= x\nint lib_a(int", Text.utf8 " x);\n"], none⟩

def boundedLibraries : Libraries := { engine := .bounded }

end LinkerExports
