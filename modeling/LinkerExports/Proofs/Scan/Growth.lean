import LinkerExports.Proofs.Declaration.Comparison
import LinkerExports.Proofs.Scan.Events
import LinkerExports.Proofs.Scan.Seam

/-! A scan of a text that goes on finds what it found before. Only the unfinished line is read
again when it is completed: if it declared something it still does, under the same line above it,
and the name has moved to the right or grown. -/
namespace LinkerExports

namespace Verdict

def on (name : String) : Option String → Verdict
  | none => .accepted name
  | some marker => .suppressed name marker

@[simp] theorem declares_on (name : String) (hidden : Option String) :
    (on name hidden).declares = true := by
  cases hidden <;> rfl

@[simp] theorem accepted?_on_none (name : String) : (on name none).accepted? = some name := rfl

@[simp] theorem accepted?_on_some (name marker : String) :
    (on name (some marker)).accepted? = none := rfl

@[simp] theorem suppressed?_on_none (name : String) (line : Nat) :
    (on name none).suppressed? line = none := rfl

@[simp] theorem suppressed?_on_some (name marker : String) (line : Nat) :
    (on name (some marker)).suppressed? line = some ⟨name, line, marker⟩ := rfl

end Verdict

namespace Summary

/-- No number of the early summary is above that of the late one. -/
structure CountsUpTo (early late : Summary) : Prop where
  lineCount : early.lineCount ≤ late.lineCount
  declarationCount : early.declarationCount ≤ late.declarationCount
  accepted : early.accepted.length ≤ late.accepted.length
  suppressed : early.suppressed.length ≤ late.suppressed.length

structure IsFrontOf (front whole : Summary) : Prop where
  accepted : front.accepted <+: whole.accepted
  suppressed : front.suppressed <+: whole.suppressed

/-- The line below those of `front` got the verdict in `whole`. -/
structure GoesOn (front : Summary) (verdict : Verdict) (whole : Summary) : Prop where
  accepted : front.accepted ++ verdict.accepted?.toList <+: whole.accepted
  suppressed :
    front.suppressed ++ (verdict.suppressed? (front.lineCount + 1)).toList <+: whole.suppressed
  decided : ∀ entry ∈ whole.suppressed, entry.line = front.lineCount + 1 →
    verdict.suppressed? entry.line = some entry

theorem filterMap_append_cons {α β : Type} (f : α → Option β) (front : List α) (a : α)
    (rest : List α) : (front ++ a :: rest).filterMap f =
      front.filterMap f ++ (f a).toList ++ rest.filterMap f := by
  rw [List.filterMap_append, List.filterMap_cons]
  cases f a <;> simp

theorem suppressions_append_cons (front : List Verdict) (verdict : Verdict) (rest : List Verdict) :
    Verdict.suppressions 1 (front ++ verdict :: rest) =
      Verdict.suppressions 1 front ++ (verdict.suppressed? (front.length + 1)).toList ++
        Verdict.suppressions (front.length + 2) rest := by
  rw [Verdict.suppressions_append, Verdict.suppressions_cons, ← List.append_assoc, Nat.add_comm 1,
    Nat.add_assoc]

theorem isFrontOf_append (front rest : List Verdict) :
    (ofVerdicts front).IsFrontOf (ofVerdicts (front ++ rest)) where
  accepted := by
    rw [accepted_ofVerdicts_append]
    exact List.prefix_append _ _
  suppressed := by
    rw [suppressed_ofVerdicts_append]
    exact List.prefix_append _ _

theorem goesOn_append (front : List Verdict) (verdict : Verdict) (rest : List Verdict) :
    (ofVerdicts front).GoesOn verdict (ofVerdicts (front ++ verdict :: rest)) where
  accepted := by
    simp only [ofVerdicts, filterMap_append_cons]
    exact List.prefix_append _ _
  suppressed := by
    simp only [ofVerdicts, suppressions_append_cons]
    exact List.prefix_append _ _
  decided := by
    rintro ⟨name, line, marker⟩ member here
    obtain ⟨-, judged⟩ := Verdict.mem_suppressions_iff.mp member
    simp only [ofVerdicts] at here
    have index : line - 1 = front.length := by omega
    simp only [index, List.getElem?_append_right (Nat.le_refl _), Nat.sub_self,
      List.getElem?_cons_zero, Option.some.injEq] at judged
    rw [judged]
    rfl

theorem countsUpTo_append (front rest : List Verdict) :
    (ofVerdicts front).CountsUpTo (ofVerdicts (front ++ rest)) where
  lineCount := by simp [ofVerdicts]
  declarationCount := by simp [ofVerdicts, List.countP_append]
  accepted := (isFrontOf_append front rest).accepted.length_le
  suppressed := (isFrontOf_append front rest).suppressed.length_le

theorem CountsUpTo.trans {first second third : Summary} (h : first.CountsUpTo second)
    (g : second.CountsUpTo third) : first.CountsUpTo third where
  lineCount := h.lineCount.trans g.lineCount
  declarationCount := h.declarationCount.trans g.declarationCount
  accepted := h.accepted.trans g.accepted
  suppressed := h.suppressed.trans g.suppressed

theorem CountsUpTo.append_left {a b : List Verdict}
    (h : (ofVerdicts a).CountsUpTo (ofVerdicts b)) (front : List Verdict) :
    (ofVerdicts (front ++ a)).CountsUpTo (ofVerdicts (front ++ b)) where
  lineCount := by simpa [ofVerdicts] using h.lineCount
  declarationCount := by simpa [ofVerdicts] using h.declarationCount
  accepted := by simpa [accepted_ofVerdicts_append] using h.accepted
  suppressed := by simpa [suppressed_ofVerdicts_append] using h.suppressed

theorem countsUpTo_of_noise (verdict : Verdict) :
    (ofVerdicts [.noise]).CountsUpTo (ofVerdicts [verdict]) where
  lineCount := Nat.le_refl _
  declarationCount := Nat.zero_le _
  accepted := Nat.zero_le _
  suppressed := Nat.zero_le _

theorem countsUpTo_on (name word : String) (hidden : Option String) :
    (ofVerdicts [.on name hidden]).CountsUpTo (ofVerdicts [.on word hidden]) := by
  cases hidden <;> constructor <;> exact Nat.le_refl _

end Summary

namespace Criteria

variable {criteria : Criteria}

theorem verdict_eq_on {line : List Char} {name : String}
    (declares : criteria.name? line = some name) (above : Option (List Char)) :
    criteria.verdict above line = .on name (above.bind criteria.setMarker?) := by
  simp only [verdict, declares]
  cases above.bind criteria.setMarker? <;> rfl

end Criteria

theorem Declaration.find?_nil (apiPrefix : String) : find? apiPrefix [] = none := by
  cases found : find? apiPrefix [] with
  | none => rfl
  | some declaration =>
    obtain ⟨before, name, behind, split, occurs, -, -⟩ := longest_of_find? found
    have longer := length_lt_of_isNamed occurs.2.1
    have lengths := congrArg List.length split
    simp only [List.length_append, List.length_nil] at lengths
    omega

theorem Config.exists_verdict_complete (config : Config) {opened : List Char}
    (inline : '\n' ∉ opened) (tail : List Char) (above : Option (List Char)) :
    let line := Text.foldEnding (opened ++ tail)
    (Summary.ofVerdicts [config.criteria.verdict above opened]).CountsUpTo
        (Summary.ofVerdicts [config.criteria.verdict above line]) ∧
      ∀ declaration, Declaration.find? config.apiPrefix opened = some declaration →
        ∃ completed hidden, Declaration.find? config.apiPrefix line = some completed ∧
          declaration.GrowsTo completed ∧
          config.criteria.verdict above opened = .on declaration.name hidden ∧
          config.criteria.verdict above line = .on completed.name hidden := by
  intro line
  cases found : Declaration.find? config.apiPrefix opened with
  | none =>
    have silent : config.criteria.name? opened = none := by
      rw [name?_criteria, Declaration.name?, found, Option.map_none]
    refine ⟨?_, by simp⟩
    rw [Criteria.verdict_of_name?_eq_none silent]
    exact Summary.countsUpTo_of_noise _
  | some declaration =>
    obtain ⟨completed, foundLate, grows⟩ := Declaration.grows_of_complete inline found tail
    have early : config.criteria.name? opened = some declaration.name :=
      Declaration.name?_of_find? found
    have late : config.criteria.name? line = some completed.name :=
      Declaration.name?_of_find? foundLate
    rw [Criteria.verdict_eq_on early, Criteria.verdict_eq_on late]
    refine ⟨Summary.countsUpTo_on _ _ _, ?_⟩
    intro same here
    obtain rfl := Option.some.inj here
    exact ⟨completed, _, foundLate, grows, rfl, rfl⟩

theorem Config.completes_below (config : Config) (upper rest : List (List Char))
    {opened : List Char} (inline : '\n' ∉ opened) (tail : List Char) :
    let line := Text.foldEnding (opened ++ tail)
    let front := Summary.ofVerdicts (config.criteria.verdicts upper)
    let early := Summary.ofVerdicts (config.criteria.verdicts (upper ++ [opened]))
    let late := Summary.ofVerdicts (config.criteria.verdicts (upper ++ line :: rest))
    early.CountsUpTo late ∧ front.IsFrontOf early ∧ front.IsFrontOf late ∧
      ∀ declaration, Declaration.find? config.apiPrefix opened = some declaration →
        ∃ completed hidden, Declaration.find? config.apiPrefix line = some completed ∧
          declaration.GrowsTo completed ∧ front.GoesOn (.on declaration.name hidden) early ∧
          front.GoesOn (.on completed.name hidden) late := by
  intro line front early late
  obtain ⟨counts, kept⟩ := config.exists_verdict_complete inline tail upper.getLast?
  have earlyEq : early = Summary.ofVerdicts (config.criteria.verdicts upper ++
      [config.criteria.verdict upper.getLast? opened]) := by
    simp only [early, Criteria.verdicts_append, Criteria.verdictsBelow]
  have lateEq : late = Summary.ofVerdicts (config.criteria.verdicts upper ++
      config.criteria.verdict upper.getLast? line ::
        config.criteria.verdictsBelow (some line) rest) := by
    simp only [late, Criteria.verdicts_append, Criteria.verdictsBelow]
  rw [earlyEq, lateEq]
  refine ⟨?_, Summary.isFrontOf_append _ _, Summary.isFrontOf_append _ _, ?_⟩
  · have more := Summary.countsUpTo_append (config.criteria.verdicts upper ++
      [config.criteria.verdict upper.getLast? line])
      (config.criteria.verdictsBelow (some line) rest)
    rw [List.append_assoc, List.singleton_append] at more
    exact (counts.append_left _).trans more
  · intro declaration found
    obtain ⟨completed, hidden, foundLate, grows, earlyOn, lateOn⟩ := kept declaration found
    refine ⟨completed, hidden, foundLate, grows, ?_, ?_⟩
    · rw [earlyOn]
      exact Summary.goesOn_append _ _ _
    · rw [lateOn]
      exact Summary.goesOn_append _ _ _

/-- A text is cut into its complete lines and an unfinished one. Whatever is put behind the text, no
number falls, what was found on the complete lines stays in front, and a declaration on the
unfinished line stays one, decided as before. -/
theorem scanText_grows {config : Config} (valid : config.check = .ok ()) (text more : String) :
    ∃ criteria closed opened, Criteria.ofConfig config = .ok criteria ∧ text = closed ++ opened ∧
      Text.IsClosed (· == '\n') closed.toList ∧ '\n' ∉ opened.toList ∧
      let upper := criteria.scanText closed
      let early := criteria.scanText text
      let late := criteria.scanText (text ++ more)
      early.CountsUpTo late ∧ upper.IsFrontOf early ∧ upper.IsFrontOf late ∧
      ∀ declaration, Declaration.find? config.apiPrefix opened.toList = some declaration →
        ∃ rows row line completed hidden, Text.IsLines (· == '\n') (text ++ more).toList rows ∧
          rows[upper.lineCount]? = some row ∧ opened.toList <+: row ∧ Text.FoldsTo row line ∧
          Declaration.find? config.apiPrefix line = some completed ∧
          declaration.GrowsTo completed ∧
          upper.GoesOn (.on declaration.name hidden) early ∧
          upper.GoesOn (.on completed.name hidden) late := by
  obtain ⟨closed, opened, split, ends, free⟩ := Text.exists_closed_append (· == '\n') text.toList
  have inline : '\n' ∉ opened := Text.free_iff.mp free
  have cut : ∀ rest : List Char,
      Text.lines (closed ++ rest) = Text.lines closed ++ Text.lines rest :=
    Text.splitLines_append ends
  refine ⟨_, String.ofList closed, String.ofList opened, Config.ofConfig_eq_criteria valid, ?_⟩
  have joined : text = String.ofList closed ++ String.ofList opened := by
    rw [← String.toList_inj, split, String.toList_append, String.toList_ofList,
      String.toList_ofList]
  simp only [Config.scanText_criteria valid, String.toList_append, String.toList_ofList, split,
    List.append_assoc, cut, List.map_append]
  refine ⟨joined, ends, inline, ?_⟩
  by_cases nonempty : opened = []
  · subst nonempty
    have none : Text.lines ([] : List Char) = [] := rfl
    simp only [none, List.map_nil, List.append_nil, List.nil_append, Criteria.verdicts_append,
      Declaration.find?_nil]
    exact ⟨Summary.countsUpTo_append _ _, ⟨List.prefix_refl _, List.prefix_refl _⟩,
      Summary.isFrontOf_append _ _, by simp⟩
  · obtain ⟨tail, rows, first⟩ := Text.exists_splitLines_append_of_free nonempty free more.toList
    have alone : Text.lines opened = [opened] := Text.splitLines_of_free nonempty free
    have whole : Text.lines (opened ++ more.toList) = (opened ++ tail) :: rows := first
    have completes := config.completes_below ((Text.lines closed).map Text.foldEnding)
      (rows.map Text.foldEnding) inline tail
    simp only [whole, alone, List.map_cons, List.map_nil, Text.foldEnding_of_inline inline]
    obtain ⟨counts, early, late, kept⟩ := completes
    refine ⟨counts, early, late, ?_⟩
    intro declaration found
    obtain ⟨completed, hidden, foundLate, grows, goesOn, goesOnLate⟩ := kept declaration found
    refine ⟨Text.lines closed ++ (opened ++ tail) :: rows, opened ++ tail, _, completed, hidden, ?_,
      ?_, List.prefix_append _ _, Text.foldsTo_foldEnding _, foundLate, grows, goesOn, goesOnLate⟩
    · rw [Text.isLines_iff, ← whole, ← cut]
      rfl
    · simp [Summary.ofVerdicts, Criteria.length_verdicts]

def unfinishedText : String := "SERDES_UNUSED\nint serdes_each(int"

def completingText : String := " (*visit)(int x));\n"

/-- The completed line declares a longer name, which is suppressed like the short one. -/
theorem scanText_grows_of_unfinished :
    ({} : Config).check = .ok () ∧
      ∃ criteria, Criteria.ofConfig {} = .ok criteria ∧
        (criteria.scanText unfinishedText).CountsUpTo
          (criteria.scanText (unfinishedText ++ completingText)) ∧
        (criteria.scanText unfinishedText).suppressed = [⟨"serdes_each", 2, "SERDES_UNUSED"⟩] ∧
        (criteria.scanText (unfinishedText ++ completingText)).suppressed =
          [⟨"serdes_each(int", 2, "SERDES_UNUSED"⟩] := by
  obtain ⟨criteria, -, -, built, -, -, -, counts, -⟩ :=
    scanText_grows Config.check_default unfinishedText completingText
  obtain ⟨-, -, rfl⟩ := Criteria.ofConfig_eq_ok_iff.mp built
  refine ⟨Config.check_default, _, built, counts, ?_, ?_⟩
  · decide +kernel
  · decide +kernel

end LinkerExports
