import LinkerExports.Proofs.Declaration.Comparison
import LinkerExports.Proofs.Delivery.Files
import LinkerExports.Proofs.Scan.Events
import LinkerExports.Proofs.Text.Endings

/-! It does not show in a delivery how the lines of its source end, nor whether the last one
ends at all. Where a line has two carriage returns in front of its newline, one of them
stays and counts as text; and where the source stops at a parenthesis, a newline behind it
would open a declaration. -/
namespace LinkerExports

namespace Criteria

variable {criteria : Criteria}

theorem verdict_congr {line other : List Char} (same : criteria.name? line = criteria.name? other)
    (above : Option (List Char)) : criteria.verdict above line = criteria.verdict above other := by
  simp only [verdict, same]

theorem name?_append_newline {opened : List Char} (inline : '\n' ∉ opened)
    (shut : opened.getLast? ≠ some '(') :
    criteria.name? (Text.foldEnding (opened ++ ['\n'])) = criteria.name? opened := by
  rw [name?, Declaration.name?, Declaration.find?_append_newline _ inline shut]
  rfl

theorem verdictsBelow_plainEndings {bytes : List UInt8} {rows : List (List UInt8)}
    (h : Text.IsLines (· == (0x0A : UInt8)) bytes rows) (single : ¬ [0x0D, 0x0D, 0x0A] <:+: bytes)
    (shut : bytes.getLast? ≠ some 0x28) (above : Option (List Char)) :
    criteria.verdictsBelow above
        (rows.map fun row => Text.foldEnding (Text.decode (Text.plainEndings row))) =
      criteria.verdictsBelow above (rows.map fun row => Text.foldEnding (Text.decode row)) := by
  induction h generalizing above with
  | nil => rfl
  | @unfinished row nonempty free =>
    have inline := Text.free_iff.mp free
    have textInline : '\n' ∉ Text.decode row := (Text.decodes_decode row).newline_notMem inline
    have textShut : (Text.decode row).getLast? ≠ some '(' := by
      intro last
      have code : String.utf8EncodeChar '(' = [0x28] := by decide
      exact shut ((Text.decodes_decode row).getLast?_of_single code last)
    simp only [List.map_cons, List.map_nil, verdictsBelow,
      Text.decode_plainEndings_of_inline nonempty inline, Text.foldEnding_of_inline textInline]
    rw [verdict_congr (name?_append_newline textInline textShut)]
  | @finished body rest b rows free ends lines ih =>
    have row : ¬ [0x0D, 0x0D, 0x0A] <:+: body ++ [b] := fun inside =>
      single (inside.trans ⟨[], rest, by simp⟩)
    have below : ¬ [0x0D, 0x0D, 0x0A] <:+: rest := fun inside =>
      single (inside.trans ⟨body ++ [b], [], by simp⟩)
    have restShut : rest.getLast? ≠ some 0x28 := by
      intro last
      apply shut
      rw [List.getLast?_append, List.getLast?_cons, last]
      rfl
    simp only [List.map_cons, verdictsBelow,
      Text.foldEnding_decode_plainEndings ⟨body, b, rfl, ends, free⟩ row, ih below restShut]

end Criteria

namespace Config

variable {config : Config}

theorem fileVerdicts_plainEndings {bytes : List UInt8} (single : ¬ [0x0D, 0x0D, 0x0A] <:+: bytes)
    (shut : bytes.getLast? ≠ some 0x28) :
    config.fileVerdicts (Text.plainEndings bytes) = config.fileVerdicts bytes := by
  have lines : Text.IsLines (· == (0x0A : UInt8)) bytes (Text.byteLines bytes) :=
    Text.isLines_splitLines _ bytes
  have plain : Text.byteLines (Text.plainEndings bytes) =
      (Text.byteLines bytes).map Text.plainEndings := (Text.isLines_iff.mp lines.plainEndings).symm
  simp only [fileVerdicts, Text.fileLines, ← Text.map_decode_byteLines, plain, List.map_map,
    Criteria.verdicts_eq_verdictsBelow]
  exact Criteria.verdictsBelow_plainEndings lines single shut none

theorem scan_of_gives (valid : config.check = .ok ()) {source : Source} {bytes : List UInt8}
    (gives : source.Gives bytes) :
    let summary := Summary.ofVerdicts (config.fileVerdicts bytes)
    config.criteria.scan source =
      ⟨.ok summary, Verdict.events 1 (config.fileVerdicts bytes) ++ summary.closingEvents⟩ := by
  intro summary
  obtain ⟨ends, rfl⟩ := gives
  have nonempty := Criteria.empty_notMem_markers (ofConfig_eq_criteria valid)
  have verdicts : config.criteria.verdicts ((Text.lines source.text.toList).map Text.foldEnding) =
      config.fileVerdicts source.bytes := by
    rw [Source.text, String.toList_ofList]
    rfl
  have result := Criteria.scan_result_of_ends config.criteria ends
  have events := Criteria.scan_events_of_ends nonempty ends
  rw [scanText_criteria valid, verdicts] at result events
  rw [← result, ← events]

end Config

/-- Sources that differ in the endings of their lines alone give the same summary, and delivering
them does the same to any sink. -/
theorem deliver_plainEndings {config : Config} (valid : config.check = .ok ())
    {engine : PatternEngine} (builds : engine.Builds config.apiPrefix) {bytes : List UInt8}
    (single : ¬ [0x0D, 0x0D, 0x0A] <:+: bytes) (shut : bytes.getLast? ≠ some 0x28)
    {source other : Source} (gives : source.Gives bytes)
    (otherGives : other.Gives (Text.plainEndings bytes)) :
    ∃ criteria summary, Criteria.ofConfig config engine = .ok criteria ∧
      (criteria.scan source).result = .ok summary ∧ (criteria.scan other).result = .ok summary ∧
      ∀ sink, deliver config other sink engine = deliver config source sink engine := by
  have scanned := Config.scan_of_gives valid gives
  have same : config.criteria.scan other = config.criteria.scan source := by
    rw [scanned, Config.scan_of_gives valid otherGives,
      Config.fileVerdicts_plainEndings single shut]
  have built : Criteria.ofConfig config engine = .ok config.criteria :=
    (Criteria.ofConfig_of_builds builds).trans (Config.ofConfig_eq_criteria valid)
  refine ⟨config.criteria, Summary.ofVerdicts (config.fileVerdicts bytes), built, ?_, ?_, ?_⟩
  · rw [scanned]
  · rw [same, scanned]
  · intro sink
    simp only [deliver, built, same]

example : (({} : Config).criteria.scanText "int serdes_a(").accepted = [] ∧
    (({} : Config).criteria.scanText "int serdes_a(\n").accepted = ["serdes_a"] := by
  decide +kernel

/-- Both endings, a carriage return inside a line, a byte that is no character, and a carriage
return at the end, behind a parenthesis. -/
def mixedEndings : List UInt8 :=
  Text.utf8 "SERDES_UNUSED\r\nint serdes_a(\r int x);\n" ++ [0xFF, 0x0D, 0x0A] ++
    Text.utf8 "int serdes_b(\r"

def plainMixedEndings : List UInt8 :=
  Text.utf8 "SERDES_UNUSED\nint serdes_a(\r int x);\n" ++ [0xFF, 0x0A] ++
    Text.utf8 "int serdes_b(\r\n"

theorem deliver_plainEndings_of_mixed :
    ({} : Config).check = .ok () ∧ PatternEngine.bounded.Builds ({} : Config).apiPrefix ∧
      ¬ [0x0D, 0x0D, 0x0A] <:+: mixedEndings ∧ mixedEndings.getLast? ≠ some 0x28 ∧
      (⟨[mixedEndings], none⟩ : Source).Gives mixedEndings ∧
      (⟨[plainMixedEndings], none⟩ : Source).Gives (Text.plainEndings mixedEndings) ∧
      ∃ criteria summary, Criteria.ofConfig {} .bounded = .ok criteria ∧
        (criteria.scan ⟨[mixedEndings], none⟩).result = .ok summary ∧
        (criteria.scan ⟨[plainMixedEndings], none⟩).result = .ok summary ∧
        (deliver {} ⟨[plainMixedEndings], none⟩ {} .bounded).sink.accepted =
          (deliver {} ⟨[mixedEndings], none⟩ {} .bounded).sink.accepted := by
  have builds : PatternEngine.bounded.Builds ({} : Config).apiPrefix :=
    PatternEngine.builds_bounded (by decide +kernel)
  have single : ¬ [0x0D, 0x0D, 0x0A] <:+: mixedEndings := by decide +kernel
  have shut : mixedEndings.getLast? ≠ some 0x28 := by decide +kernel
  have gives : (⟨[mixedEndings], none⟩ : Source).Gives mixedEndings := ⟨rfl, rfl⟩
  have plain : Text.plainEndings mixedEndings = plainMixedEndings := by decide +kernel
  have otherGives :
      (⟨[plainMixedEndings], none⟩ : Source).Gives (Text.plainEndings mixedEndings) := by
    rw [plain]
    exact ⟨rfl, rfl⟩
  obtain ⟨criteria, summary, built, scanned, otherScanned, same⟩ :=
    deliver_plainEndings Config.check_default builds single shut gives otherGives
  exact ⟨Config.check_default, builds, single, shut, gives, otherGives, criteria, summary, built,
    scanned, otherScanned, by rw [same]⟩

end LinkerExports
