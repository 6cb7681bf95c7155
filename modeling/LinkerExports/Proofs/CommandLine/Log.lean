import LinkerExports.Proofs.CommandLine.Filter
import LinkerExports.Proofs.CommandLine.Outcome
import LinkerExports.Proofs.Scan.Events
import LinkerExports.Proofs.Text.Quoted
import Std.Data.String.ToNat

/-! The log has one line for each event, and the events tell what the summary does. A filter
leaves lines out and changes none. No value gets a newline into its line: a name has no blank, a
checked prefix has none either, and a marker is quoted. So a line that reports a declaration can
be read in one way only. -/
namespace LinkerExports

/-! Rows. -/

namespace LogLine

/-- The text of a line with its newline. -/
def row (line : LogLine) : List Char := (line.render ++ "\n").toList

structure IsInline (line : LogLine) : Prop where
  target : '\n' ∉ line.target.toList
  message : '\n' ∉ line.message.toList
  names : ∀ value ∈ line.values, '\n' ∉ value.1.toList
  values : ∀ value ∈ line.values, '\n' ∉ value.2.toList

theorem isRow_row {line : LogLine} (h : line.IsInline) : Text.IsRow (· == '\n') line.row := by
  have label : '\n' ∉ line.level.label.toList := by cases line.level <;> decide
  rw [row, String.toList_append]
  apply Text.isRow_append_newline
  simp only [render, String.toList_append, String.toList_join, List.mem_append, List.mem_flatMap,
    List.mem_map, not_or, not_exists, not_and]
  refine ⟨⟨⟨⟨⟨label, by decide⟩, h.target⟩, by decide⟩, h.message⟩, ?_⟩
  rintro _ ⟨value, member, rfl⟩
  simp only [String.toList_append, List.mem_append, not_or]
  exact ⟨⟨⟨by decide, h.names value member⟩, by decide⟩, h.values value member⟩

end LogLine

def Event.name? : Event → Option String
  | accepted name _ => some name
  | suppressed entry => some entry.name
  | repeated name => some name
  | completed _ => none

namespace Event

/-- The line of an event, without its newline. -/
def text : Event → String
  | accepted name line =>
    "DEBUG lds_gen::scanner::extract: accepted symbol symbol=" ++ name ++ " line=" ++ toString line
  | suppressed entry =>
    "DEBUG lds_gen::scanner::extract: suppressed unused symbol symbol=" ++ entry.name ++
      " line=" ++ toString entry.line ++ " marker=" ++ Text.quoted entry.marker
  | repeated name =>
    "DEBUG lds_gen::scanner::extract: symbol declared more than once symbol=" ++ name
  | completed summary =>
    " INFO lds_gen::scanner::extract: scan complete lines=" ++ toString summary.lineCount ++
      " matched=" ++ toString summary.declarationCount ++
      " accepted=" ++ toString summary.accepted.length ++
      " suppressed=" ++ toString summary.suppressed.length ++
      " duplicates=" ++ toString summary.repeated.length

end Event

namespace LogLine

end LogLine

/-! What a filter lets through. -/

namespace LogFilter

variable {filter : LogFilter}

theorem isLines_render {lines : List LogLine} (h : ∀ line ∈ lines, line.IsInline) :
    Text.IsLines (· == '\n') (filter.render lines).toList
      ((lines.filter filter.allows).map LogLine.row) := by
  have text : (filter.render lines).toList =
      ((lines.filter filter.allows).map LogLine.row).flatten := by
    rw [render, String.toList_join, List.flatMap_map]
    rfl
  rw [text]
  apply Text.isLines_flatten
  intro row member
  obtain ⟨line, passes, rfl⟩ := List.mem_map.mp member
  exact LogLine.isRow_row (h line (List.mem_of_mem_filter passes))

/-- The filter lets through all that a run logs: every line of the program down to those for
debugging. -/
structure IsFull (filter : LogFilter) (target : String) (level : Level) : Prop where
  passes : filter.IsUpTo target (some level)
  target : target.toList <+: LogLine.runTarget.toList
  level : Level.debug.rank ≤ level.rank

variable {target : String} {level : Level}

theorem IsFull.allows (h : filter.IsFull target level) {line : LogLine}
    (begins : LogLine.runTarget.toList <+: line.target.toList)
    (low : line.level.rank ≤ Level.debug.rank) : filter.allows line = true :=
  (h.passes line).mpr ⟨h.target.trans begins, level, rfl, Nat.le_trans low h.level⟩

end LogFilter

/-- The events report the declarations of the lines one by one, each with its line, and with
verdicts that the summary lists in the same order. -/
structure Summary.IsToldBy (summary : Summary) (config : Config) (lines : List (List Char))
    (events : List Event) : Prop where
  declarations : events.map Event.declaration? =
    (config.criteria.declarations 1 lines).map some
  ascending : (config.criteria.declarations 1 lines).Pairwise fun upper lower => upper.2 < lower.2
  accepted : events.filterMap Event.accepted? = summary.accepted
  suppressed : events.filterMap Event.suppressed? = summary.suppressed
  length : events.length = summary.declarationCount

namespace Summary.IsToldBy

variable {summary : Summary} {config : Config} {lines : List (List Char)} {events : List Event}

theorem declares (told : summary.IsToldBy config lines events) {event : Event}
    (member : event ∈ events) : event.declaration?.isSome = true := by
  have reported : event.declaration? ∈ events.map Event.declaration? := List.mem_map_of_mem member
  rw [told.declarations, List.mem_map] at reported
  obtain ⟨declaration, -, same⟩ := reported
  rw [← same]
  rfl

end Summary.IsToldBy

namespace Config

variable {config : Config}

end Config

end LinkerExports
