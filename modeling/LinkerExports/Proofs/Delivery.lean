import LinkerExports.Delivery
import LinkerExports.Proofs.Scan.Meaning

/-! A sink cannot tell the pieces of a text from the text: writing them one after the other, up to
the first that fails, is one write of all of them together. So a script is emitted as if it were
rendered first. A delivery can fail at its configuration, at its source and at its sink, and the
first of them to fail decides. The sink is touched in the last case only, and then holds the front
of the script that it had room for, wherever that cuts the script. -/
namespace LinkerExports

namespace Sink

variable {α β : Type}

theorem append_append (accepted : Array UInt8) (a b : List UInt8) :
    accepted ++ (a ++ b) = accepted ++ a ++ b := by
  rw [← Array.toList_inj]
  simp

theorem write_append (sink : Sink) (a b : List UInt8) :
    sink.write (a ++ b) =
      match sink.write a with
      | (.ok (), written) => written.write b
      | (.error error, written) => (.error error, written) := by
  obtain ⟨accepted, room, writeFault, flushFault⟩ := sink
  cases room with
  | none => simp [write, append_append]
  | some room =>
    by_cases fits : a.length ≤ room
    · have taken : a.take room = a := List.take_of_length_le fits
      by_cases both : a.length + b.length ≤ room
      · have rest : b.length ≤ room - a.length := by omega
        simp [write, fits, both, rest, List.take_append, taken, Nat.sub_sub, append_append]
      · have rest : ¬ b.length ≤ room - a.length := by omega
        simp [write, fits, both, rest, List.take_append, taken, Nat.sub_sub, append_append]
    · have both : ¬ a.length + b.length ≤ room := by omega
      have inside : room - a.length = 0 := by omega
      have beyond : room - (a.length + b.length) = 0 := by omega
      simp [write, fits, both, List.take_append, inside, beyond]

theorem writeAll_eq_write (sink : Sink) (pieces : List (List UInt8)) :
    sink.writeAll pieces = sink.write pieces.flatten := by
  induction pieces generalizing sink with
  | nil => simp [writeAll]
  | cons piece rest ih =>
    have apart := sink.write_append piece rest.flatten
    cases h : sink.write piece with
    | mk result written =>
      rw [h] at apart
      cases result with
      | ok => simp only [writeAll, h, ih, List.flatten_cons, apart]
      | error error => simp only [writeAll, h, List.flatten_cons, apart]

/-! A write and a flush after it. -/

/-- There is room for all of the bytes. -/
def Fits (sink : Sink) (bytes : List UInt8) : Prop :=
  ∀ room, sink.room = some room → bytes.length ≤ room

/-- How it ends when some bytes are written to a sink, which is then flushed. If neither fails, the
result is `value`. -/
structure Receives (before : Sink) (bytes : List UInt8) (value : α) (result : Except Error α)
    (after : Sink) : Prop where
  unlimited : before.room = none → after.accepted.toList = before.accepted.toList ++ bytes
  limited : ∀ room, before.room = some room →
    after.accepted.toList = before.accepted.toList ++ bytes.take (min room bytes.length)
  overflows : ¬ before.Fits bytes → result = .error (.stream before.writeFault)
  unflushed : before.Fits bytes → ∀ text, before.flushFault = some text →
    result = .error (.stream text)
  succeeds : before.Fits bytes → before.flushFault = none → result = .ok value

theorem Receives.map {before after : Sink} {bytes : List UInt8} {value : α}
    {result : Except Error α} (h : before.Receives bytes value result after) (f : α → β) :
    before.Receives bytes (f value) (result.map f) after where
  unlimited := h.unlimited
  limited := h.limited
  overflows excess := by rw [h.overflows excess, Except.map]
  unflushed fits text fault := by rw [h.unflushed fits text fault, Except.map]
  succeeds fits flushes := by rw [h.succeeds fits flushes, Except.map]

theorem flushFault_write (sink : Sink) (bytes : List UInt8) :
    (sink.write bytes).2.flushFault = sink.flushFault := by
  obtain ⟨accepted, room, writeFault, flushFault⟩ := sink
  cases room with
  | none => rfl
  | some room => by_cases fits : bytes.length ≤ room <;> simp [write, fits]

theorem write_of_fits {sink : Sink} {bytes : List UInt8} (fits : sink.Fits bytes) :
    (sink.write bytes).1 = .ok () := by
  cases limit : sink.room with
  | none => simp only [write, limit]
  | some room =>
    have inside := fits room limit
    simp only [write, limit, if_pos inside]

theorem write_of_not_fits {sink : Sink} {bytes : List UInt8} (excess : ¬ sink.Fits bytes) :
    (sink.write bytes).1 = .error (.stream sink.writeFault) := by
  cases limit : sink.room with
  | none => exact absurd (fun room some => by simp [limit] at some) excess
  | some room =>
    have outside : ¬ bytes.length ≤ room := by
      intro inside
      apply excess
      intro other same
      rw [limit, Option.some.injEq] at same
      exact same ▸ inside
    simp only [write, limit, if_neg outside]

def send (sink : Sink) (bytes : List UInt8) : Except Error Unit × Sink :=
  match sink.write bytes with
  | (.ok (), written) => (written.flush, written)
  | failed => failed

theorem send_of_fits {sink : Sink} {bytes : List UInt8} (fits : sink.Fits bytes) :
    sink.send bytes = (sink.flush, (sink.write bytes).2) := by
  have ok := write_of_fits fits
  have fault := sink.flushFault_write bytes
  cases h : sink.write bytes with
  | mk result written =>
    rw [h] at ok fault
    simp only at ok fault
    simp only [send, h, ok, flush, fault]

theorem send_of_not_fits {sink : Sink} {bytes : List UInt8} (excess : ¬ sink.Fits bytes) :
    sink.send bytes = (.error (.stream sink.writeFault), (sink.write bytes).2) := by
  have failed := write_of_not_fits excess
  cases h : sink.write bytes with
  | mk result written =>
    rw [h] at failed
    simp only at failed
    simp only [send, h, failed]

theorem accepted_send (sink : Sink) (bytes : List UInt8) :
    (sink.send bytes).2.accepted.toList = sink.accepted.toList ++ sink.taken bytes := by
  rw [← accepted_write]
  by_cases fits : sink.Fits bytes
  · rw [send_of_fits fits]
  · rw [send_of_not_fits fits]

theorem receives_send (sink : Sink) (bytes : List UInt8) :
    sink.Receives bytes () (sink.send bytes).1 (sink.send bytes).2 where
  unlimited none := by rw [accepted_send, taken, none]
  limited room limit := by
    rw [accepted_send]
    simp only [taken, limit, ← List.take_eq_take_min]
  overflows excess := by rw [send_of_not_fits excess]
  unflushed fits text fault := by rw [send_of_fits fits, flush, fault]
  succeeds fits flushes := by rw [send_of_fits fits, flush, flushes]

end Sink

namespace Text

theorem utf8_join (parts : List String) : utf8 (String.join parts) = (parts.map utf8).flatten := by
  induction parts with
  | nil => rfl
  | cons part rest ih => rw [String.join_cons, utf8_append, ih, List.map_cons, List.flatten_cons]

end Text

theorem VersionScript.emit_eq_send (script : VersionScript) (sink : Sink) :
    script.emit sink = sink.send (Text.utf8 script.render) := by
  have together : sink.writeAll (script.pieces.map Text.utf8) =
      sink.write (Text.utf8 script.render) := by
    rw [Sink.writeAll_eq_write, render, Text.utf8_join]
  unfold emit Sink.send
  cases h : sink.write (Text.utf8 script.render) with
  | mk result written =>
    rw [h] at together
    cases result with
    | ok => simp only [together]
    | error error => simp only [together]

theorem deliver_of_failure {config : Config} (valid : config.check = .ok ()) {source : Source}
    {text : String} (fails : source.failure = some text) (sink : Sink) :
    (deliver config source sink).result = .error (.stream text) ∧
      (deliver config source sink).sink = sink := by
  have failed := config.criteria.scan_result_of_failure fails
  simp only [deliver, Config.ofConfig_eq_criteria valid, failed, and_self]

theorem receives_deliver {config : Config} (valid : config.check = .ok ()) {source : Source}
    (ends : source.failure = none) (sink : Sink) :
    let summary := config.criteria.scanText source.text
    sink.Receives (Text.utf8 (VersionScript.ofSummary summary config).render) summary
      (deliver config source sink).result (deliver config source sink).sink := by
  intro summary
  have scanned : (config.criteria.scan source).result = .ok summary :=
    config.criteria.scan_result_of_ends ends
  simp only [deliver, Config.ofConfig_eq_criteria valid, scanned, VersionScript.emit_eq_send]
  exact (sink.receives_send _).map fun _ => summary

theorem deliver_of_ends {config : Config} (valid : config.check = .ok ()) {source : Source}
    (ends : source.failure = none) :
    let summary := config.criteria.scanText source.text
    (deliver config source {}).result = .ok summary ∧
      (deliver config source {}).sink.accepted.toList =
        Text.utf8 (VersionScript.ofSummary summary config).render := by
  have receives := receives_deliver valid ends {}
  have fits : ({} : Sink).Fits (Text.utf8 (VersionScript.ofSummary
      (config.criteria.scanText source.text) config).render) := by
    intro room limit
    exact absurd limit (by simp)
  exact ⟨receives.succeeds fits rfl, receives.unlimited rfl⟩

/-- The outcome of every delivery, whichever engine builds the pattern. A configuration at fault
comes first, then a pattern that is not built, then a source that fails; all of them leave the sink
as it was. Otherwise the script of the summary goes to the sink. -/
theorem deliver_outcome (config : Config) (engine : PatternEngine) (source : Source)
    (sink : Sink) :
    let delivery := deliver config source sink engine
    (∀ error, config.check = .error error →
      delivery.result = .error (.config error) ∧ delivery.sink = sink ∧
        ∀ text, Error.config error ≠ .pattern text) ∧
    (∀ text, config.check = .ok () →
      engine.build (Declaration.patternText config.apiPrefix) = .error text →
      delivery.result = .error (.pattern text) ∧ delivery.sink = sink) ∧
    (config.check = .ok () → engine.Builds config.apiPrefix →
      (∀ text, source.failure = some text →
        delivery.result = .error (.stream text) ∧ delivery.sink = sink) ∧
      (source.failure = none →
        ∃ criteria summary, Criteria.ofConfig config engine = .ok criteria ∧
          (criteria.scan source).result = .ok summary ∧
          sink.Receives (Text.utf8 (VersionScript.ofSummary summary config).render) summary
            delivery.result delivery.sink)) := by
  refine ⟨?_, ?_, ?_⟩
  · intro error fault
    rw [deliver_of_fault fault]
    refine ⟨rfl, rfl, ?_⟩
    intro text same
    rw [Error.pattern, Error.config.injEq] at same
    exact config.check_ne_unbuiltPattern text (same ▸ fault)
  · intro text valid unbuilt
    rw [deliver_of_unbuilt valid unbuilt]
    exact ⟨rfl, rfl⟩
  · intro valid builds
    rw [deliver_of_builds builds, Criteria.ofConfig_of_builds builds]
    refine ⟨fun text fails => deliver_of_failure valid fails sink, ?_⟩
    intro ends
    exact ⟨_, _, Config.ofConfig_eq_criteria valid, Criteria.scan_result_of_ends _ ends,
      receives_deliver valid ends sink⟩

/-! A pattern is larger than its text, and so than the prefix in it. -/

namespace Declaration

theorem length_le_length_escape (text : String) : text.length ≤ (escape text).length := by
  have grows : ∀ chars : List Char,
      chars.length ≤ (chars.flatMap fun c => if isSpecial c then ['\\', c] else [c]).length := by
    intro chars
    induction chars with
    | nil => exact Nat.le_refl 0
    | cons c chars ih =>
      rw [List.flatMap_cons, List.length_append, List.length_cons]
      split <;> simp only [List.length_cons, List.length_nil] <;> omega
  rw [escape, ← String.length_toList, ← String.length_toList, String.toList_ofList]
  exact grows text.toList

theorem length_lt_length_patternText (apiPrefix : String) :
    apiPrefix.length < (patternText apiPrefix).length := by
  have escaped := length_le_length_escape apiPrefix
  have text : patternText apiPrefix =
      "^(\\S+.*\\s+\\**)?(" ++ escape apiPrefix ++ "\\S+)\\s*\\([^)]" := rfl
  have back : "\\S+)\\s*\\([^)]".length = 13 := by decide
  rw [text, String.length_append, String.length_append, back]
  omega

end Declaration

/-- An engine with a bound on the size of a pattern. -/
def PatternEngine.bounded : PatternEngine where
  build text :=
    if text.length ≤ 10485760 then .ok ()
    else .error "Compiled regex exceeds size limit of 10485760 bytes."

theorem PatternEngine.builds_bounded {apiPrefix : String}
    (small : (Declaration.patternText apiPrefix).length ≤ 10485760) :
    bounded.Builds apiPrefix := by
  simp only [Builds, bounded, if_pos small]

def longPrefix (length : Nat) : Config := { apiPrefix := String.ofList (List.replicate length 'a') }

theorem check_longPrefix {length : Nat} (some : 0 < length) :
    (longPrefix length).check = .ok () := by
  have letter : Text.isBlank 'a' = false := by decide
  refine Config.check_eq_ok_iff.mpr
    ⟨?_, ?_, by simp [longPrefix], by simp [longPrefix], by simp [longPrefix]⟩
  · intro empty
    have chars := congrArg String.toList empty
    rw [longPrefix, String.toList_ofList] at chars
    have none := congrArg List.length chars
    rw [List.length_replicate] at none
    exact absurd none (Nat.ne_of_gt some)
  · simp [longPrefix, Config.isPrefixText, letter]

theorem build_longPrefix {length : Nat} (many : 10485760 ≤ length) :
    PatternEngine.bounded.build (Declaration.patternText (longPrefix length).apiPrefix) =
      .error "Compiled regex exceeds size limit of 10485760 bytes." := by
  have larger := Declaration.length_lt_length_patternText (longPrefix length).apiPrefix
  have prefixLength : (longPrefix length).apiPrefix.length = length := by
    simp [longPrefix]
  have beyond : ¬ (Declaration.patternText (longPrefix length).apiPrefix).length ≤ 10485760 := by
    omega
  simp only [PatternEngine.bounded, if_neg beyond]

def narrowSink : Sink :=
  { room := some 72, writeFault := "sink full", flushFault := some "flush failed" }

def shortSource : Source := { chunks := [Text.utf8 "int serdes_a(int", Text.utf8 " x);\n"] }

/-- The script is cut, the source is cut, or the prefix is longer than any pattern may be. -/
theorem deliver_outcome_of_cut :
    (({} : Config).check = .ok () ∧ PatternEngine.bounded.Builds "serdes_" ∧
      shortSource.failure = none ∧
      (deliver {} shortSource narrowSink .bounded).result = .error (.stream "sink full") ∧
      (deliver {} shortSource narrowSink .bounded).sink.accepted.toList = Text.utf8
        "# Automatically generated by lds-gen - DO NOT EDIT\n\x7b\n global:\n    serdes") ∧
    (deliver {} { shortSource with failure := some "reset" } narrowSink .bounded).result =
      .error (.stream "reset") ∧
    ((longPrefix 10485760).check = .ok () ∧
      (deliver (longPrefix 10485760) shortSource narrowSink .bounded).result =
        .error (.pattern "Compiled regex exceeds size limit of 10485760 bytes.") ∧
      (deliver (longPrefix 10485760) shortSource narrowSink .bounded).sink = narrowSink) := by
  have builds : PatternEngine.bounded.Builds "serdes_" :=
    PatternEngine.builds_bounded (by decide +kernel)
  refine ⟨⟨Config.check_default, builds, rfl, ?_⟩, ?_, ?_⟩
  · obtain ⟨-, -, reads⟩ := deliver_outcome {} .bounded shortSource narrowSink
    obtain ⟨criteria, summary, built, scanned, receives⟩ :=
      (reads Config.check_default builds).2 rfl
    obtain ⟨-, -, rfl⟩ := Criteria.ofConfig_eq_ok_iff.mp built
    obtain rfl := Except.ok.inj scanned
    have cut := receives.limited 72 rfl
    refine ⟨receives.overflows ?_, cut.trans ?_⟩
    · intro fits
      have inside := fits 72 rfl
      revert inside
      decide +kernel
    · decide +kernel
  · obtain ⟨-, -, reads⟩ :=
      deliver_outcome {} .bounded { shortSource with failure := some "reset" } narrowSink
    exact ((reads Config.check_default builds).1 "reset" rfl).1
  · have valid : (longPrefix 10485760).check = .ok () := check_longPrefix (by decide)
    obtain ⟨-, unbuilt, -⟩ := deliver_outcome (longPrefix 10485760) .bounded shortSource narrowSink
    exact ⟨valid, unbuilt _ valid (build_longPrefix (Nat.le_refl _))⟩

end LinkerExports
