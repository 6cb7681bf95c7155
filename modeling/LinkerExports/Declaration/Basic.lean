import LinkerExports.Text.Characters
import LinkerExports.Text.Findings

/-! A line declares a function of the library when it reads as an optional return type, a name
that begins with the public prefix, and an opening parenthesis with a character other than a
closing one behind it. `search` states this with its order of preference, `find?` runs it over
all positions of the line together, and `patternText` is the same as the text of a pattern. An
engine is asked to build that before any line is read, and may refuse to. -/
namespace LinkerExports

/-- A declared name and the number of characters in front of it. -/
structure Declaration where
  column : Nat
  name : String
  deriving DecidableEq, Repr

namespace Declaration

open Text

def isInk (c : Char) : Bool := !isBlank c

def opening : Search Unit :=
  Search.one (· == '(') (Search.one (· != ')') fun _ => some ())

def parameters : Search Unit := Search.many isBlank opening

/-- A name with the given beginning, at least one character longer than it. Finds the text at the
name together with the text behind it. -/
def named (apiPrefix : List Char) : Search (List Char × List Char × Unit) :=
  (Search.literal apiPrefix (Search.atLeastOne isInk parameters.marked)).marked

/-- A return type, with the blanks and stars that part it from the name. -/
def typed {α : Type} (next : Search α) : Search α :=
  Search.atLeastOne isInk
    (Search.many (· != '\n') (Search.atLeastOne isBlank (Search.many (· == '*') next)))

def search (apiPrefix : List Char) : Search (List Char × List Char × Unit) :=
  (typed (named apiPrefix)).orElse (named apiPrefix)

/-- The declaration of a line, given the text at its name and the text behind the name. -/
def ofTexts (line fromName behindName : List Char) : Declaration where
  column := line.length - fromName.length
  name := String.ofList (fromName.take (fromName.length - behindName.length))

def findings (apiPrefix line : List Char) : List (Option (List Char × List Char × Unit)) :=
  let parameters := Findings.many isBlank line (opening.findings line)
  let named := Findings.marked line
    (Findings.literal apiPrefix line
      (Findings.atLeastOne isInk line (Findings.marked line parameters)))
  let typed := Findings.atLeastOne isInk line
    (Findings.many (· != '\n') line
      (Findings.atLeastOne isBlank line (Findings.many (· == '*') line named)))
  Findings.orElse typed named

def find? (apiPrefix : String) (line : List Char) : Option Declaration :=
  (Findings.front (findings apiPrefix.toList line)).map fun found =>
    ofTexts line found.1 found.2.1

def name? (apiPrefix : String) (line : List Char) : Option String :=
  (find? apiPrefix line).map Declaration.name

def isSpecial (c : Char) : Bool := c ∈ "\\.+*?()|[]\x7b\x7d^$#&-~".toList

def escape (text : String) : String :=
  String.ofList (text.toList.flatMap fun c => if isSpecial c then ['\\', c] else [c])

def patternText (apiPrefix : String) : String :=
  "^(\\S+.*\\s+\\**)?(" ++ escape apiPrefix ++ "\\S+)\\s*\\([^)]"

example : patternText "a.b_" = "^(\\S+.*\\s+\\**)?(a\\.b_\\S+)\\s*\\([^)]" := by decide +kernel

theorem findings_eq (apiPrefix line : List Char) :
    findings apiPrefix line = (search apiPrefix).findings line := by
  simp [findings, search, typed, named, parameters]

theorem find?_eq_search (apiPrefix : String) (line : List Char) :
    find? apiPrefix line = (search apiPrefix.toList line).map fun found =>
      ofTexts line found.1 found.2.1 := by
  rw [find?, findings_eq, Search.front_findings]

end Declaration

/-- An engine builds patterns from their text, or says why it cannot. What a pattern finds, once it
is built, is `Declaration.find?`. -/
structure PatternEngine where
  build : String → Except String Unit

namespace PatternEngine

def unlimited : PatternEngine := ⟨fun _ => .ok ()⟩

/-- The pattern of the declarations with this prefix is not refused. -/
def Builds (engine : PatternEngine) (apiPrefix : String) : Prop :=
  engine.build (Declaration.patternText apiPrefix) = .ok ()

end PatternEngine

end LinkerExports
