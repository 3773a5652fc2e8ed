/-
Which words in the id of a rule lead to standards.

The table names standards by patterns, each of which is one or two words with
gaps around them (`of_rulePattern`). A gap does not cross a line feed, so such a
pattern occurs in an id just if its words occur on one line of it, in order and
apart from one another (`rulePattern_occursIn_iff`). That is all the id of a
rule is asked for.
-/
import SourceAudit.Proofs.Pattern.Words
import SourceAudit.Standard.Mapping
import SourceAudit.Text.Search

namespace SourceAudit.Standard

/-- The words of a pattern of the table: what stands between its gaps. -/
def patternWords (pattern : String) : List String :=
  (Text.splitBy ".*" pattern).filter fun w => !w.isEmpty

/-- Words occur in a stretch of a text that has no line feed, in order and apart
from one another. -/
def OnOneLine (words : List String) (text : String) : Prop :=
  ∃ stretch, stretch <:+: text.toList ∧ '\n' ∉ stretch ∧
    Pattern.InTurn (words.map String.toList) stretch

/-- The patterns of the table are words with gaps around them. -/
theorem of_rulePattern : ∀ e ∈ byRulePattern,
    Pattern.of e.1
      = ⟨false, Pattern.inTurn ((patternWords e.1).map String.toList)⟩ := by
  decide +kernel

theorem unbroken_patternWords : ∀ e ∈ byRulePattern,
    ∀ w ∈ (patternWords e.1).map String.toList, '\n' ∉ w := by
  decide +kernel

/-- A pattern of the table occurs in a text just if its words occur on one
line. -/
theorem rulePattern_occursIn_iff {e : String × List String}
    (he : e ∈ byRulePattern) (text : String) :
    (Pattern.of e.1).occursIn text = true ↔
      OnOneLine (patternWords e.1) text := by
  rw [of_rulePattern e he,
    Pattern.occursIn_iff_reads (Pattern.isPlain_inTurn _)]
  simp only [Pattern.reads_inTurn (unbroken_patternWords e he)]
  constructor
  · rintro ⟨stretch, ⟨hline, hturn⟩, hpart⟩
    exact ⟨stretch, hpart, hline, hturn⟩
  · rintro ⟨stretch, hpart, hline, hturn⟩
    exact ⟨stretch, ⟨hline, hturn⟩, hpart⟩

open Classical in
/-- The ids of the standards for a rule are those of the patterns, in the order
of the table, whose words occur on one line of the rule's id in small letters,
in order and apart from one another. -/
theorem rule_standards_by_words (rule : String) :
    byRulePattern.map (fun e => patternWords e.1)
        = [["hardcoded", "secret"], ["sql", "injection"], ["xss"],
          ["authentication"], ["authorization"], ["encryption"], ["logging"],
          ["ai", "ml"], ["privacy"], ["bias"]] ∧
      forRule rule
        = byRulePattern.flatMap fun e =>
            if OnOneLine (patternWords e.1)
              (Text.lower rule) then e.2 else [] := by
  refine ⟨by decide +kernel, List.flatMap_congr fun e he => ?_⟩
  simp only [rulePattern_occursIn_iff he]

end SourceAudit.Standard
