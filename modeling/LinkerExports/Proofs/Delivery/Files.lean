import LinkerExports.Proofs.Delivery
import LinkerExports.Proofs.Scan.Meaning
import LinkerExports.Proofs.Scan.Seam
import LinkerExports.Proofs.Script.Exports

/-! Files that stand alone are judged each by itself, however they are put together. So the script
for several files is the same in whichever order they come, as long as no file puts a marker over
the next one. Where repeats are dropped, a file may also be there more than once. -/
namespace LinkerExports

/-- The file puts no marker over what stands behind it: it is empty or ends with a newline, and its
last line is a declaration or begins with no marker. -/
structure Config.StandsAlone (config : Config) (file : List UInt8) : Prop where
  closed : Text.IsClosed (· == 0x0A) file
  unmarked : ∀ text : String, Text.Decodes file text.toList →
    ∀ marker, ¬ config.LeavesMarker text marker

/-- The lines of a file as they are judged: decoded, with their endings folded. -/
def Text.fileLines (file : List UInt8) : List (List Char) :=
  (lines (decode file)).map foldEnding

theorem Text.fileLines_flatten {files : List (List UInt8)}
    (closed : ∀ file ∈ files, IsClosed (· == (0x0A : UInt8)) file) :
    fileLines files.flatten = files.flatMap fileLines := by
  have cut : byteLines files.flatten = files.flatMap byteLines := splitLines_flatten closed
  have rows : fileLines = fun file => ((byteLines file).map decode).map foldEnding := by
    funext file
    rw [fileLines, map_decode_byteLines]
  simp only [rows, cut, List.map_flatMap]

theorem Criteria.verdicts_flatMap {criteria : Criteria} {files : List (List UInt8)}
    {linesOf : List UInt8 → List (List Char)}
    (unmarked : ∀ file ∈ files, (linesOf file).getLast?.bind criteria.setMarker? = none) :
    criteria.verdicts (files.flatMap linesOf) =
      files.flatMap fun file => criteria.verdicts (linesOf file) := by
  induction files with
  | nil => rfl
  | cons file files ih =>
    have rest := ih fun other member => unmarked other (by simp [member])
    have first := unmarked file (by simp)
    rw [List.flatMap_cons, verdicts_append_of_open (Or.inl first), rest, List.flatMap_cons]

namespace Config

variable {config : Config}

theorem standsAlone_iff {file : List UInt8} :
    config.StandsAlone file ↔ Text.IsClosed (· == 0x0A) file ∧
      (Text.fileLines file).getLast?.bind config.criteria.setMarker? = none := by
  have unmarked : (∀ text : String, Text.Decodes file text.toList →
      ∀ marker, ¬ config.LeavesMarker text marker) ↔
        (Text.fileLines file).getLast?.bind config.criteria.setMarker? = none := by
    simp only [leavesMarker_iff, Text.decodes_iff, Text.fileLines, Option.eq_none_iff_forall_ne_some]
    constructor
    · intro none
      have decoded : (String.ofList (Text.decode file)).toList = Text.decode file :=
        String.toList_ofList
      have here := none _ decoded
      rwa [decoded] at here
    · intro none text decoded
      rwa [decoded]
  rw [← unmarked]
  exact ⟨fun h => ⟨h.closed, h.unmarked⟩, fun h => ⟨h.1, h.2⟩⟩

def fileVerdicts (config : Config) (file : List UInt8) : List Verdict :=
  config.criteria.verdicts (Text.fileLines file)

theorem scanText_of_files (valid : config.check = .ok ()) {files : List (List UInt8)}
    (alone : ∀ file ∈ files, config.StandsAlone file) {source : Source}
    (bytes : source.bytes = files.flatten) :
    config.criteria.scanText source.text =
      Summary.ofVerdicts (files.flatMap config.fileVerdicts) := by
  have closed := fun file member => (standsAlone_iff.mp (alone file member)).1
  have unmarked := fun file member => (standsAlone_iff.mp (alone file member)).2
  have lines : (Text.lines source.text.toList).map Text.foldEnding =
      files.flatMap Text.fileLines := by
    rw [← Text.fileLines_flatten closed, Source.text, String.toList_ofList, bytes, Text.fileLines]
  rw [scanText_criteria valid, lines, Criteria.verdicts_flatMap unmarked]
  rfl

end Config

namespace Summary

theorem ofVerdicts_of_perm {first second : List Verdict} (h : first.Perm second) :
    (ofVerdicts first).accepted.Perm (ofVerdicts second).accepted ∧
      (ofVerdicts first).lineCount = (ofVerdicts second).lineCount ∧
      (ofVerdicts first).declarationCount = (ofVerdicts second).declarationCount ∧
      (ofVerdicts first).repeated = (ofVerdicts second).repeated := by
  have accepted := h.filterMap Verdict.accepted?
  exact ⟨accepted, h.length_eq, h.countP_eq _, Text.repeats_eq_of_perm accepted⟩

theorem mem_accepted_ofVerdicts_flatMap {files : List (List UInt8)}
    {verdictsOf : List UInt8 → List Verdict} {name : String} :
    name ∈ (ofVerdicts (files.flatMap verdictsOf)).accepted ↔
      ∃ file ∈ files, name ∈ (ofVerdicts (verdictsOf file)).accepted := by
  simp only [ofVerdicts, List.filterMap_flatMap, List.mem_flatMap]

end Summary

/-- Every write into the sink goes through, and so does flushing it. -/
structure Sink.NeverFails (sink : Sink) : Prop where
  room : sink.room = none
  flushFault : sink.flushFault = none

/-- The source delivers these bytes and ends. -/
structure Source.Gives (source : Source) (bytes : List UInt8) : Prop where
  failure : source.failure = none
  bytes : source.bytes = bytes

namespace Config

/-- The delivery succeeds with the summary and writes the bytes of the script. -/
structure Writes (config : Config) (engine : PatternEngine) (source : Source) (sink : Sink)
    (summary : Summary) (script : List UInt8) : Prop where
  result : (deliver config source sink engine).result = .ok summary
  accepted : (deliver config source sink engine).sink.accepted.toList =
    sink.accepted.toList ++ script

variable {config : Config} {engine : PatternEngine}

def scriptFor (config : Config) (summary : Summary) : List UInt8 :=
  Text.utf8 (VersionScript.ofSummary summary config).render

theorem writes_of_files (valid : config.check = .ok ()) (builds : engine.Builds config.apiPrefix)
    {files : List (List UInt8)} (alone : ∀ file ∈ files, config.StandsAlone file)
    {source : Source} (gives : source.Gives files.flatten) {sink : Sink}
    (sound : sink.NeverFails) :
    let summary := Summary.ofVerdicts (files.flatMap config.fileVerdicts)
    config.Writes engine source sink summary (config.scriptFor summary) := by
  intro summary
  have receives := receives_deliver valid gives.failure sink
  rw [scanText_of_files valid alone gives.bytes, ← deliver_of_builds builds] at receives
  have fits : sink.Fits (config.scriptFor summary) := by
    intro room limit
    rw [sound.room] at limit
    exact absurd limit (by simp)
  exact ⟨receives.succeeds fits sound.flushFault, receives.unlimited sound.room⟩

end Config

/-- Delivering files that stand alone succeeds and writes the script of the summary. The script, the
numbers of lines and declarations and the repeated names do not depend on the order of the files. If
repeats are dropped, the script does not depend on how often a file is there either. -/
theorem deliver_files {config : Config} (valid : config.check = .ok ()) {engine : PatternEngine}
    (builds : engine.Builds config.apiPrefix) {files : List (List UInt8)}
    (alone : ∀ file ∈ files, config.StandsAlone file) {sink : Sink} (sound : sink.NeverFails)
    {source : Source} (gives : source.Gives files.flatten) :
    ∃ summary, config.Writes engine source sink summary (config.scriptFor summary) ∧
      (∀ (order : List (List UInt8)) (other : Source), order.Perm files →
        other.Gives order.flatten →
        ∃ found, config.Writes engine other sink found (config.scriptFor summary) ∧
          found.declarationCount = summary.declarationCount ∧
          found.lineCount = summary.lineCount ∧ found.repeated = summary.repeated) ∧
      (config.dropRepeats = true → ∀ (copies : List (List UInt8)) (other : Source),
        (∀ file, file ∈ copies ↔ file ∈ files) → other.Gives copies.flatten →
          ∃ found, config.Writes engine other sink found (config.scriptFor summary)) := by
  refine ⟨_, Config.writes_of_files valid builds alone gives sound, ?_, ?_⟩
  · intro order other perm otherGives
    have orderAlone : ∀ file ∈ order, config.StandsAlone file :=
      fun file member => alone file (perm.mem_iff.mp member)
    have writes := Config.writes_of_files valid builds orderAlone otherGives sound
    have verdicts := perm.flatMap_right config.fileVerdicts
    obtain ⟨accepted, lineCount, declarationCount, repeated⟩ := Summary.ofVerdicts_of_perm verdicts
    have script := VersionScript.ofSummary_eq_of_perm accepted config
    refine ⟨_, ?_, declarationCount, lineCount, repeated⟩
    rw [Config.scriptFor, ← script]
    exact writes
  · intro drops copies other same otherGives
    have copiesAlone : ∀ file ∈ copies, config.StandsAlone file :=
      fun file member => alone file ((same file).mp member)
    have writes := Config.writes_of_files valid builds copiesAlone otherGives sound
    have accepted : ∀ name,
        name ∈ (Summary.ofVerdicts (copies.flatMap config.fileVerdicts)).accepted ↔
          name ∈ (Summary.ofVerdicts (files.flatMap config.fileVerdicts)).accepted := by
      intro name
      simp only [Summary.mem_accepted_ofVerdicts_flatMap, same]
    have script := VersionScript.ofSummary_eq_of_mem_iff accepted drops
    refine ⟨Summary.ofVerdicts (copies.flatMap config.fileVerdicts), ?_⟩
    rw [Config.scriptFor, ← script]
    exact writes

def loneFiles : List (List UInt8) :=
  [Text.utf8 "int serdes_b(int x);\n", [],
    Text.utf8 "SERDES_UNUSED\nint serdes_a(int x);\nSERDES_UNUSED int serdes_b(int x);\n"]

/-- The source that delivers some files in one chunk. -/
def wholeSource (files : List (List UInt8)) : Source := ⟨[files.flatten], none⟩

theorem gives_wholeSource (files : List (List UInt8)) :
    (wholeSource files).Gives files.flatten := by
  refine ⟨rfl, ?_⟩
  simp [wholeSource, Source.bytes]

theorem deliver_files_of_reversed :
    ({ dropRepeats := true } : Config).check = .ok () ∧
      PatternEngine.bounded.Builds ({ dropRepeats := true } : Config).apiPrefix ∧
      (∀ file ∈ loneFiles, ({ dropRepeats := true } : Config).StandsAlone file) ∧
      ({} : Sink).NeverFails ∧ (wholeSource loneFiles).Gives loneFiles.flatten ∧
      ∃ summary, let script := ({ dropRepeats := true } : Config).scriptFor summary
        ({ dropRepeats := true } : Config).Writes .bounded (wholeSource loneFiles) {} summary
          script ∧
        (∃ found, ({ dropRepeats := true } : Config).Writes .bounded
            (wholeSource loneFiles.reverse) {} found script ∧
          found.repeated = summary.repeated) ∧
        ∃ found, ({ dropRepeats := true } : Config).Writes .bounded
          (wholeSource (loneFiles ++ loneFiles)) {} found script := by
  have valid : ({ dropRepeats := true } : Config).check = .ok () := rfl
  have builds : PatternEngine.bounded.Builds ({ dropRepeats := true } : Config).apiPrefix :=
    PatternEngine.builds_bounded (by decide +kernel)
  have alone : ∀ file ∈ loneFiles, ({ dropRepeats := true } : Config).StandsAlone file := by
    simp only [Config.standsAlone_iff]
    decide +kernel
  have sound : ({} : Sink).NeverFails := ⟨rfl, rfl⟩
  have gives := gives_wholeSource loneFiles
  obtain ⟨summary, writes, reordered, repeated⟩ := deliver_files valid builds alone sound gives
  obtain ⟨found, foundWrites, -, -, names⟩ :=
    reordered loneFiles.reverse _ (List.reverse_perm _) (gives_wholeSource _)
  have twice : ∀ file, file ∈ loneFiles ++ loneFiles ↔ file ∈ loneFiles := by simp
  have copied := repeated rfl _ _ twice (gives_wholeSource _)
  exact ⟨valid, builds, alone, sound, gives, summary, writes, ⟨found, foundWrites, names⟩, copied⟩

end LinkerExports
