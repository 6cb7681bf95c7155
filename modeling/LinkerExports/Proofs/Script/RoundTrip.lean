import LinkerExports.Proofs.Delivery
import LinkerExports.Proofs.Scan.Names
import LinkerExports.Proofs.Script.Exports
import LinkerExports.Script.Basic
import LinkerExports.Text.Lines

/-! The text of a script gives the script back when its tool and its names keep to their lines.
Every script that is delivered is of this kind: the checks on a configuration and the shape of a
declared name leave no room for a newline. -/
namespace LinkerExports

namespace VersionScript

open Text

/-- The text between two fixed ends of a line. -/
def between? (front back line : List Char) : Option (List Char) :=
  let inner := line.drop front.length
  if front.isPrefixOf line && back.isSuffixOf inner then
    some (inner.take (inner.length - back.length))
  else none

def entry? (line : List Char) : Option String :=
  (between? entryFront.toList entryBack.toList line).map String.ofList

/-- The names entered up to the line `local:`, behind which the fixed end must stand. -/
def readEntries : List (List Char) → Option (List String)
  | [] => none
  | line :: rest =>
    if line = localLine.toList then
      if rest = [wildcardLine.toList, closeLine.toList] then some [] else none
    else
      match entry? line, readEntries rest with
      | some name, some names => some (name :: names)
      | _, _ => none

def readBody (body : List (List Char)) : Option (List String) :=
  if body = [wildcardLine.toList, closeLine.toList] then some [] else readEntries body

def read? (text : String) : Option VersionScript :=
  match lines text.toList with
  | head :: opened :: global :: body =>
    if opened = openLine.toList ∧ global = globalLine.toList then
      match between? headFront.toList headBack.toList head, readBody body with
      | some tool, some exports => some ⟨String.ofList tool, exports⟩
      | _, _ => none
    else none
  | _ => none

/-- Neither the tool nor any name holds a newline. -/
structure FitsLines (script : VersionScript) : Prop where
  tool : '\n' ∉ script.tool.toList
  exports : ∀ name ∈ script.exports, '\n' ∉ name.toList

def headLine (tool : String) : List Char := headFront.toList ++ tool.toList ++ headBack.toList

def entryLine (name : String) : List Char :=
  entryFront.toList ++ name.toList ++ entryBack.toList

/-- The lines of a script that exports everything. -/
def wildcardRows (tool : String) : List (List Char) :=
  [headLine tool, openLine.toList, globalLine.toList, wildcardLine.toList, closeLine.toList]

/-- The lines of a script that lists names. -/
def entryRows (tool : String) (names : List String) : List (List Char) :=
  [headLine tool, openLine.toList, globalLine.toList] ++ names.map entryLine ++
    [localLine.toList, wildcardLine.toList, closeLine.toList]

def rows (script : VersionScript) : List (List Char) :=
  if script.exports = [] then wildcardRows script.tool
  else entryRows script.tool script.exports

theorem toList_render (script : VersionScript) : script.render.toList = script.rows.flatten := by
  obtain ⟨tool, exports⟩ := script
  rw [render, String.toList_join]
  cases exports with
  | nil => simp [pieces, exportsAll, rows, wildcardRows, headLine]
  | cons first rest =>
    have entries : ∀ names : List String,
        (names.flatMap fun name => [entryFront, name, entryBack]).flatMap String.toList =
          (names.map entryLine).flatten := by
      intro names
      induction names with
      | nil => rfl
      | cons name names ih => simp [entryLine, ih]
    have listed := entries (first :: rest)
    simp only [pieces, exportsAll, rows, entryRows, headLine, List.isEmpty_cons,
      Bool.false_eq_true, if_false, List.flatMap_append, List.flatten_append, listed, reduceCtorEq]
    simp

theorem isRow_headLine {tool : String} (h : '\n' ∉ tool.toList) :
    IsRow (· == '\n') (headLine tool) := by
  have body : headLine tool =
      (headFront.toList ++ tool.toList ++ " - DO NOT EDIT".toList) ++ ['\n'] := by
    simp [headLine, headBack]
  rw [body]
  apply isRow_append_newline
  simp [headFront, h]

theorem isRow_entryLine {name : String} (h : '\n' ∉ name.toList) :
    IsRow (· == '\n') (entryLine name) := by
  have body : entryLine name = (entryFront.toList ++ name.toList ++ [';']) ++ ['\n'] := by
    simp [entryLine, entryBack]
  rw [body]
  apply isRow_append_newline
  simp [entryFront, h]

theorem isLines_render {script : VersionScript} (h : script.FitsLines) :
    IsLines (· == '\n') script.render.toList script.rows := by
  have opened : IsRow (· == '\n') openLine.toList := isRow_of_getLast? (by decide) (by decide)
  have global : IsRow (· == '\n') globalLine.toList := isRow_of_getLast? (by decide) (by decide)
  have hidden : IsRow (· == '\n') localLine.toList := isRow_of_getLast? (by decide) (by decide)
  have wildcard : IsRow (· == '\n') wildcardLine.toList :=
    isRow_of_getLast? (by decide) (by decide)
  have closed : IsRow (· == '\n') closeLine.toList := isRow_of_getLast? (by decide) (by decide)
  rw [toList_render]
  apply isLines_flatten
  intro row member
  rw [rows] at member
  split at member
  · simp only [wildcardRows, List.mem_cons, List.not_mem_nil, or_false] at member
    rcases member with rfl | rfl | rfl | rfl | rfl
    exacts [isRow_headLine h.tool, opened, global, wildcard, closed]
  · simp only [entryRows, List.mem_append, List.mem_cons, List.not_mem_nil, or_false,
      List.mem_map] at member
    rcases member with ((rfl | rfl | rfl) | ⟨name, listed, rfl⟩) | rfl | rfl | rfl
    exacts [isRow_headLine h.tool, opened, global, isRow_entryLine (h.exports name listed), hidden,
      wildcard, closed]

theorem lines_render {script : VersionScript} (h : script.FitsLines) :
    lines script.render.toList = script.rows :=
  (isLines_iff.mp (isLines_render h)).symm

/-! Reading. -/

theorem between?_append (front inner back : List Char) :
    between? front back (front ++ inner ++ back) = some inner := by
  have begins : front.isPrefixOf (front ++ inner ++ back) = true := by
    simp [List.append_assoc]
  have ends : back.isSuffixOf (inner ++ back) = true := by simp
  have drop : (front ++ inner ++ back).drop front.length = inner ++ back := by
    rw [List.append_assoc, List.drop_left]
  simp only [between?, drop, begins, ends, Bool.and_self, if_true]
  rw [List.length_append, Nat.add_sub_cancel, List.take_left]

theorem entry?_entryLine (name : String) : entry? (entryLine name) = some name := by
  unfold entry? entryLine
  rw [between?_append, Option.map_some, String.ofList_toList]

/-- An entry is indented, so no name is taken for the line `local:`. -/
theorem entryLine_ne_localLine (name : String) : entryLine name ≠ localLine.toList := by
  intro same
  have first := congrArg List.head? same
  simp [entryLine, entryFront, localLine] at first

theorem readEntries_entries (names : List String) :
    readEntries (names.map entryLine ++
      [localLine.toList, wildcardLine.toList, closeLine.toList]) = some names := by
  induction names with
  | nil => rfl
  | cons name names ih =>
    rw [List.map_cons, List.cons_append, readEntries, if_neg (entryLine_ne_localLine name),
      entry?_entryLine, ih]

theorem readBody_entries (names : List String) :
    readBody (names.map entryLine ++
      [localLine.toList, wildcardLine.toList, closeLine.toList]) = some names := by
  have longer : names.map entryLine ++
      [localLine.toList, wildcardLine.toList, closeLine.toList] ≠
        [wildcardLine.toList, closeLine.toList] := by
    intro same
    have length := congrArg List.length same
    simp at length
  rw [readBody, if_neg longer, readEntries_entries]

theorem read?_of_rows {text : String} {tool : String} {body : List (List Char)}
    {names : List String}
    (h : lines text.toList = headLine tool :: openLine.toList :: globalLine.toList :: body)
    (listed : readBody body = some names) : read? text = some ⟨tool, names⟩ := by
  have head : between? headFront.toList headBack.toList (headLine tool) = some tool.toList :=
    between?_append _ _ _
  simp only [read?, h, and_self, if_true, head, listed, String.ofList_toList]

theorem read?_render {script : VersionScript} (h : script.FitsLines) :
    read? script.render = some script := by
  have cut := lines_render h
  rw [rows] at cut
  split at cut
  · next empty =>
    have nothing : readBody [wildcardLine.toList, closeLine.toList] = some [] := rfl
    have read := read?_of_rows cut nothing
    rw [read, ← empty]
  · exact read?_of_rows cut (readBody_entries _)

/-! Scripts that are delivered. -/

theorem count_localLine_entryRows (tool : String) (names : List String) :
    (entryRows tool names).count localLine.toList = 1 := by
  have head : headLine tool ≠ localLine.toList := by
    intro same
    have first := congrArg List.head? same
    simp [headLine, headFront, localLine] at first
  have entries : (names.map entryLine).count localLine.toList = 0 := by
    rw [List.count_eq_zero, List.mem_map]
    rintro ⟨name, -, same⟩
    exact entryLine_ne_localLine name same
  have start : [headLine tool, openLine.toList, globalLine.toList].count localLine.toList = 0 := by
    rw [List.count_cons_of_ne head]
    decide
  rw [entryRows, List.count_append, List.count_append, entries, start]
  decide

theorem localLine_notMem_wildcardRows (tool : String) :
    localLine.toList ∉ wildcardRows tool := by
  intro member
  rcases List.mem_cons.mp member with same | fixed
  · have first := congrArg List.head? same
    simp [headLine, headFront, localLine] at first
  · revert fixed
    decide

end VersionScript

theorem fitsLines_ofSummary {config : Config} (valid : config.check = .ok ()) (text : String) :
    (VersionScript.ofSummary (config.criteria.scanText text) config).FitsLines := by
  obtain ⟨-, -, -, extras, tool⟩ := Config.check_eq_ok_iff.mp valid
  constructor
  · rw [VersionScript.tool_ofSummary]
    exact tool
  · intro name member
    apply Config.newline_notMem_of_inks
    rcases VersionScript.mem_exports_ofSummary.mp member with accepted | extra
    · exact inks_of_accepted valid accepted
    · exact Config.inks_of_isEntryName (extras name extra)

namespace VersionScript

theorem rows_eq_wildcardRows_iff {script : VersionScript} :
    script.rows = wildcardRows script.tool ∧ localLine.toList ∉ script.rows ↔
      script.exports = [] := by
  constructor
  · intro everything
    by_contra listed
    have entries : script.rows = entryRows script.tool script.exports := if_neg listed
    have once := count_localLine_entryRows script.tool script.exports
    rw [entries, ← List.count_eq_zero, once] at everything
    exact absurd everything.2 Nat.one_ne_zero
  · intro empty
    have fixed : script.rows = wildcardRows script.tool := if_pos empty
    rw [fixed]
    exact ⟨rfl, localLine_notMem_wildcardRows _⟩

theorem rows_of_exports_ne_nil {script : VersionScript} (listed : script.exports ≠ []) :
    script.rows = entryRows script.tool script.exports ∧
      script.rows.count localLine.toList = 1 := by
  have entries : script.rows = entryRows script.tool script.exports := if_neg listed
  rw [entries]
  exact ⟨rfl, count_localLine_entryRows _ _⟩

end VersionScript

open VersionScript in
/-- Reading the text of a script gives the script, so no other script has this text. Delivered
scripts can be read: they are the five lines that export everything when there is no name, and
otherwise have one line for each entry and one line `local:`. -/
theorem script_reads_back :
    (∀ script : VersionScript, script.FitsLines → read? script.render = some script) ∧
    (∀ script other : VersionScript, script.FitsLines → other.FitsLines →
      script.render = other.render → script = other) ∧
    ∀ (config : Config) (engine : PatternEngine) (source : Source), config.check = .ok () →
      engine.Builds config.apiPrefix → source.failure = none →
      ∃ summary output rows, (deliver config source {} engine).result = .ok summary ∧
        (deliver config source {} engine).sink.accepted.toList = Text.utf8 output ∧
        (ofSummary summary config).FitsLines ∧ Text.IsLines (· == '\n') output.toList rows ∧
        read? output = some ⟨config.tool, (ofSummary summary config).exports⟩ ∧
        (rows = wildcardRows config.tool ∧ localLine.toList ∉ rows ↔
          summary.accepted = [] ∧ config.extraNames = []) ∧
        (¬ (summary.accepted = [] ∧ config.extraNames = []) →
          rows = entryRows config.tool (ofSummary summary config).exports ∧
          rows.count localLine.toList = 1) := by
  refine ⟨fun script fits => read?_render fits, ?_, ?_⟩
  · intro script other fits otherFits same
    have read := read?_render fits
    rw [same, read?_render otherFits] at read
    exact (Option.some.inj read).symm
  · intro config engine source valid builds ends
    obtain ⟨delivered, written⟩ := deliver_of_ends valid ends
    rw [deliver_of_builds builds]
    have fits := fitsLines_ofSummary valid source.text
    have tool := tool_ofSummary (config.criteria.scanText source.text) config
    refine ⟨_, _, _, delivered, written, fits, isLines_render fits, ?_, ?_, ?_⟩
    · rw [read?_render fits, ← tool]
    · rw [← exports_ofSummary_eq_nil_iff, ← rows_eq_wildcardRows_iff, tool]
    · rw [← exports_ofSummary_eq_nil_iff, ← tool]
      exact rows_of_exports_ne_nil

def keywordSource : Source := ⟨[Text.utf8 "int serdes_a(int x); ", [255, 10]], none⟩

open VersionScript in
/-- Names that look like the fixed lines are told apart from them. -/
theorem script_reads_back_of_keywords :
    (⟨"lds-gen", ["local:", "*", "", "*"]⟩ : VersionScript).FitsLines ∧
      read? (⟨"lds-gen", ["local:", "*", "", "*"]⟩ : VersionScript).render =
        some ⟨"lds-gen", ["local:", "*", "", "*"]⟩ ∧
      ({} : Config).check = .ok () ∧ PatternEngine.bounded.Builds ({} : Config).apiPrefix ∧
      ∃ summary output rows,
        (deliver {} keywordSource {} .bounded).result = .ok summary ∧
        (deliver {} keywordSource {} .bounded).sink.accepted.toList = Text.utf8 output ∧
        (ofSummary summary {}).FitsLines ∧ Text.IsLines (· == '\n') output.toList rows ∧
        read? output = some ⟨({} : Config).tool, (ofSummary summary {}).exports⟩ := by
  have fits : (⟨"lds-gen", ["local:", "*", "", "*"]⟩ : VersionScript).FitsLines :=
    ⟨by decide, by decide⟩
  have builds : PatternEngine.bounded.Builds ({} : Config).apiPrefix :=
    PatternEngine.builds_bounded (by decide +kernel)
  obtain ⟨reads, -, delivers⟩ := script_reads_back
  obtain ⟨summary, output, rows, result, written, inside, cut, read, -⟩ :=
    delivers {} .bounded keywordSource Config.check_default builds rfl
  exact ⟨fits, reads _ fits, Config.check_default, builds, summary, output, rows, result, written,
    inside, cut, read⟩

end LinkerExports
