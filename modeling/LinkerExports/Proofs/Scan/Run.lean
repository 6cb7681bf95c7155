import LinkerExports.Proofs.Text.Ascending
import LinkerExports.Scan.Basic
import Std.Data.HashMap.Lemmas

/-! The pass carries a lookback, a verdict is told from two neighbouring lines. The lookback
offers exactly the marker that the line above sets, so every run, from any state, records the
verdicts on its lines. All that a line leaves behind for the next one is the lookback. -/
namespace LinkerExports

inductive Verdict where
  | noise
  | accepted (name : String)
  | suppressed (name marker : String)
  deriving DecidableEq, Repr

namespace Verdict

def accepted? : Verdict → Option String
  | accepted name => some name
  | _ => none

def suppressed? (line : Nat) : Verdict → Option Suppression
  | suppressed name marker => some ⟨name, line, marker⟩
  | _ => none

end Verdict

namespace Criteria

/-- The marker that a line sets for the line below it. A line that declares something sets none. -/
def setMarker? (criteria : Criteria) (line : List Char) : Option String :=
  if (criteria.name? line).isSome then none else criteria.marker? line

/-- What becomes of a line under the line above it, if there is one. -/
def verdict (criteria : Criteria) (above : Option (List Char)) (line : List Char) : Verdict :=
  match criteria.name? line, above.bind criteria.setMarker? with
  | none, _ => .noise
  | some name, none => .accepted name
  | some name, some marker => .suppressed name marker

def verdicts (criteria : Criteria) (lines : List (List Char)) : List Verdict :=
  List.zipWith criteria.verdict (none :: lines.map some) lines

theorem length_verdicts (criteria : Criteria) (lines : List (List Char)) :
    (criteria.verdicts lines).length = lines.length := by
  simp [verdicts]

end Criteria

namespace Verdict

def declares : Verdict → Bool
  | noise => false
  | _ => true

def event? (line : Nat) : Verdict → Option Event
  | noise => none
  | accepted name => some (.accepted name line)
  | suppressed name marker => some (.suppressed ⟨name, line, marker⟩)

def suppressions (start : Nat) (verdicts : List Verdict) : List Suppression :=
  (verdicts.zipIdx start).filterMap fun entry => entry.1.suppressed? entry.2

def events (start : Nat) (verdicts : List Verdict) : List Event :=
  (verdicts.zipIdx start).filterMap fun entry => entry.1.event? entry.2

theorem suppressions_append (start : Nat) (a b : List Verdict) :
    suppressions start (a ++ b) = suppressions start a ++ suppressions (start + a.length) b := by
  simp only [suppressions, List.zipIdx_append, List.filterMap_append]

theorem mem_suppressions_iff {start : Nat} {verdicts : List Verdict} {entry : Suppression} :
    entry ∈ suppressions start verdicts ↔ start ≤ entry.line ∧
      verdicts[entry.line - start]? = some (.suppressed entry.name entry.marker) := by
  rw [← List.mk_mem_zipIdx_iff_le_and_getElem?_sub, suppressions, List.mem_filterMap]
  constructor
  · rintro ⟨⟨verdict, line⟩, numbered, judged⟩
    cases verdict with
    | noise => simp [suppressed?] at judged
    | accepted name => simp [suppressed?] at judged
    | suppressed name marker =>
      obtain rfl := Option.some.inj judged
      exact numbered
  · intro numbered
    exact ⟨_, numbered, rfl⟩

theorem events_append (start : Nat) (a b : List Verdict) :
    events start (a ++ b) = events start a ++ events (start + a.length) b := by
  simp only [events, List.zipIdx_append, List.filterMap_append]

end Verdict

namespace Criteria

theorem getLast?_cons_or {α : Type} (line : α) (rest : List α) (above : Option α) :
    (line :: rest).getLast?.or above = rest.getLast?.or (some line) := by
  rw [List.getLast?_cons]
  cases rest.getLast? <;> rfl

/-- The verdicts on some lines below a line that is already there, if one is. -/
def verdictsBelow (criteria : Criteria) : Option (List Char) → List (List Char) → List Verdict
  | _, [] => []
  | above, line :: rest => criteria.verdict above line :: criteria.verdictsBelow (some line) rest

theorem verdicts_eq_verdictsBelow (criteria : Criteria) (lines : List (List Char)) :
    criteria.verdicts lines = criteria.verdictsBelow none lines := by
  have general : ∀ above : Option (List Char),
      List.zipWith criteria.verdict (above :: lines.map some) lines =
        criteria.verdictsBelow above lines := by
    induction lines with
    | nil => simp [verdictsBelow]
    | cons line rest ih =>
      intro above
      simp only [List.map_cons, List.zipWith_cons_cons, verdictsBelow]
      rw [ih]
  exact general none

theorem verdictsBelow_congr {criteria : Criteria} {above other : Option (List Char)}
    (same : above.bind criteria.setMarker? = other.bind criteria.setMarker?)
    (lines : List (List Char)) :
    criteria.verdictsBelow above lines = criteria.verdictsBelow other lines := by
  cases lines with
  | nil => rfl
  | cons line rest => simp only [verdictsBelow, verdict, same]

theorem verdictsBelow_append (criteria : Criteria) (above : Option (List Char))
    (a b : List (List Char)) :
    criteria.verdictsBelow above (a ++ b) =
      criteria.verdictsBelow above a ++ criteria.verdictsBelow (a.getLast?.or above) b := by
  induction a generalizing above with
  | nil => rfl
  | cons line rest ih =>
    rw [List.cons_append, verdictsBelow, ih, verdictsBelow, getLast?_cons_or, List.cons_append]

end Criteria

namespace Progress

/-- What reading lines with these verdicts adds to a state, apart from the lookback and the
counts. -/
structure Extends (before : Progress) (verdicts : List Verdict) (after : Progress) : Prop where
  lineCount : after.lineCount = before.lineCount + verdicts.length
  declarationCount :
    after.declarationCount = before.declarationCount + verdicts.countP Verdict.declares
  accepted : after.accepted.toList = before.accepted.toList ++ verdicts.filterMap Verdict.accepted?
  suppressed : after.suppressed.toList =
    before.suppressed.toList ++ Verdict.suppressions (before.lineCount + 1) verdicts
  events : after.events.toList =
    before.events.toList ++ Verdict.events (before.lineCount + 1) verdicts

theorem Extends.refl (progress : Progress) : progress.Extends [] progress := by
  constructor <;> simp [Verdict.suppressions, Verdict.events]

theorem Extends.trans {first second third : Progress} {a b : List Verdict}
    (h : first.Extends a second) (g : second.Extends b third) : first.Extends (a ++ b) third := by
  have next : second.lineCount + 1 = first.lineCount + 1 + a.length := by
    rw [h.lineCount]
    omega
  constructor
  · rw [g.lineCount, h.lineCount, List.length_append, Nat.add_assoc]
  · rw [g.declarationCount, h.declarationCount, List.countP_append, Nat.add_assoc]
  · rw [g.accepted, h.accepted, List.filterMap_append, List.append_assoc]
  · rw [g.suppressed, h.suppressed, next, Verdict.suppressions_append, List.append_assoc]
  · rw [g.events, h.events, next, Verdict.events_append, List.append_assoc]

theorem extends_passBy (progress : Progress) (line : List Char) :
    progress.Extends [.noise] (progress.passBy line) := by
  constructor <;> simp [passBy, Verdict.declares, Verdict.suppressions, Verdict.events,
    Verdict.accepted?, Verdict.suppressed?, Verdict.event?]

theorem extends_accept (progress : Progress) (name : String) :
    progress.Extends [.accepted name] (progress.accept name) := by
  constructor <;> simp [Progress.accept, Verdict.declares, Verdict.suppressions, Verdict.events,
    Verdict.accepted?, Verdict.suppressed?, Verdict.event?]

theorem extends_suppress (progress : Progress) (name marker : String) :
    progress.Extends [.suppressed name marker] (progress.suppress name marker) := by
  constructor <;> simp [suppress, Verdict.declares, Verdict.suppressions, Verdict.events,
    Verdict.accepted?, Verdict.suppressed?, Verdict.event?]

/-- The counts say how often each accepted name stands among the accepted ones, and hold no other
name. -/
def Tallies (progress : Progress) : Prop :=
  ∀ name, progress.counts[name]? =
    if name ∈ progress.accepted.toList then some (progress.accepted.toList.count name) else none

theorem tallies_empty : ({} : Progress).Tallies := by
  intro name
  simp

theorem Tallies.accept {progress : Progress} (h : progress.Tallies) (name : String) :
    (progress.accept name).Tallies := by
  have old : progress.counts.getD name 0 = progress.accepted.toList.count name := by
    rw [Std.HashMap.getD_eq_getD_getElem?, h name]
    split
    · rfl
    · next fresh => simp [List.count_eq_zero.mpr fresh]
  intro other
  simp only [Progress.accept, Std.HashMap.getElem?_insert, Array.toList_push, List.mem_append,
    List.mem_singleton, List.count_append, old]
  by_cases same : name = other
  · subst same
    simp
  · have apart : (name == other) = false := by simpa using same
    have away : ¬ other = name := fun e => same e.symm
    simp [apart, away, h other, List.count_singleton]

theorem Tallies.repeated_eq {progress : Progress} (h : progress.Tallies) :
    progress.repeated = Text.repeats progress.accepted.toList := by
  have keys : (progress.counts.toList.map Prod.fst).Nodup := by
    rw [List.Nodup, List.pairwise_map]
    refine Std.HashMap.distinct_keys_toList.imp ?_
    intro a b apart same
    simp [same] at apart
  apply Text.eq_repeats
  · exact Text.isAscending_sortNames (keys.sublist (List.filter_sublist.map Prod.fst))
  · intro name
    rw [Progress.repeated, Text.mem_sortNames, List.mem_map]
    constructor
    · rintro ⟨⟨key, count⟩, member, rfl⟩
      obtain ⟨entry, many⟩ := List.mem_filter.mp member
      change 2 ≤ progress.accepted.toList.count key
      have value := Std.HashMap.mem_toList_iff_getElem?_eq_some.mp entry
      rw [h key] at value
      split at value
      · simp only [Option.some.injEq] at value
        simp only [decide_eq_true_eq] at many
        omega
      · simp at value
    · intro many
      have member : name ∈ progress.accepted.toList := List.count_pos_iff.mp (by omega)
      refine ⟨(name, progress.accepted.toList.count name), List.mem_filter.mpr ⟨?_, ?_⟩, rfl⟩
      · rw [Std.HashMap.mem_toList_iff_getElem?_eq_some, h name, if_pos member]
      · exact decide_eq_true many

/-- The lookback offers the marker that the line above sets, if there is such a line. -/
def LooksBackTo (progress : Progress) (criteria : Criteria) (above : Option (List Char)) : Prop :=
  criteria.marker? progress.above = above.bind criteria.setMarker?

end Progress

namespace Criteria

variable {criteria : Criteria}

theorem marker?_nil (nonempty : "" ∉ criteria.markers) : criteria.marker? [] = none :=
  Marker.find?_nil nonempty

theorem looksBackTo_empty (nonempty : "" ∉ criteria.markers) :
    ({} : Progress).LooksBackTo criteria none :=
  marker?_nil nonempty

/-- One line, from any state: it extends the state by its verdict, it keeps the counts true, and
the lookback that it leaves depends on this line alone. -/
theorem readLine_step (nonempty : "" ∉ criteria.markers) {progress : Progress}
    {above : Option (List Char)} (looks : progress.LooksBackTo criteria above) (raw : List Char) :
    let line := Text.foldEnding raw
    let after := criteria.readLine progress raw
    progress.Extends [criteria.verdict above line] after ∧
      after.LooksBackTo criteria (some line) ∧ (progress.Tallies → after.Tallies) := by
  intro line after
  have lookback : criteria.marker? progress.above = above.bind criteria.setMarker? := looks
  cases hn : criteria.name? line with
  | none =>
    have verdict : criteria.verdict above line = .noise := by simp [Criteria.verdict, hn]
    have read : after = progress.passBy line := by
      simp only [after, Criteria.readLine, line] at hn ⊢
      rw [hn]
    rw [verdict, read]
    refine ⟨progress.extends_passBy line, ?_, fun tallies => tallies⟩
    simp [Progress.LooksBackTo, Progress.passBy, setMarker?, hn]
  | some name =>
    have cleared : ∀ state : Progress, state.above = [] → state.LooksBackTo criteria (some line) := by
      intro state empty
      simp [Progress.LooksBackTo, empty, marker?_nil nonempty, setMarker?, hn]
    cases hm : criteria.marker? progress.above with
    | none =>
      have verdict : criteria.verdict above line = .accepted name := by
        simp [Criteria.verdict, hn, ← lookback, hm]
      have read : after = progress.accept name := by
        simp only [after, Criteria.readLine, line] at hn ⊢
        rw [hn, hm]
      rw [verdict, read]
      exact ⟨progress.extends_accept name, cleared _ rfl, fun tallies => tallies.accept name⟩
    | some marker =>
      have verdict : criteria.verdict above line = .suppressed name marker := by
        simp [Criteria.verdict, hn, ← lookback, hm]
      have read : after = progress.suppress name marker := by
        simp only [after, Criteria.readLine, line] at hn ⊢
        rw [hn, hm]
      rw [verdict, read]
      exact ⟨progress.extends_suppress name marker, cleared _ rfl, fun tallies => tallies⟩

theorem foldl_readLine (nonempty : "" ∉ criteria.markers) {progress : Progress}
    {above : Option (List Char)} (looks : progress.LooksBackTo criteria above)
    (raws : List (List Char)) :
    let lines := raws.map Text.foldEnding
    let after := raws.foldl criteria.readLine progress
    progress.Extends (criteria.verdictsBelow above lines) after ∧
      after.LooksBackTo criteria (lines.getLast?.or above) ∧
      (progress.Tallies → after.Tallies) := by
  induction raws generalizing progress above with
  | nil => exact ⟨Progress.Extends.refl progress, looks, fun tallies => tallies⟩
  | cons raw raws ih =>
    obtain ⟨grown, next, kept⟩ := readLine_step nonempty looks raw
    obtain ⟨grownRest, nextRest, keptRest⟩ := ih next
    refine ⟨grown.trans grownRest, ?_, fun tallies => keptRest (kept tallies)⟩
    rw [List.map_cons, getLast?_cons_or]
    exact nextRest

end Criteria

end LinkerExports
