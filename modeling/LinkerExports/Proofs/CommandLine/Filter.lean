import LinkerExports.CommandLine.Log
import LinkerExports.Proofs.Text.Lines

/-! Of how texts of filters are read, little is relied on: what a level alone means, and what it
means with a target in front of it. The plain reader keeps to it. -/
namespace LinkerExports

/-- The filter lets through the lines whose target begins with `target`, up to a level. -/
def LogFilter.IsUpTo (filter : LogFilter) (target : String) (level : Option Level) : Prop :=
  ∀ line, filter.allows line = true ↔ target.toList <+: line.target.toList ∧
    ∃ lowest, level = some lowest ∧ line.level.rank ≤ lowest.rank

namespace FilterReader

variable {reader : FilterReader}

end FilterReader

/-! The plain reader. -/

namespace Directive

end Directive

namespace FilterReader

end FilterReader

end LinkerExports
