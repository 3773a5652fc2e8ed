/-
Rules that look at each line on its own are compositional: what they find in two
texts put together is what they find in the first and, further down, what they
find in the second.

The argument has three parts. A text that ends a line can be followed by another
without changing the lines of either (`Reading.lines_append`). Numbering the
lines of the second part from where the first one stops moves its remarks down
by the lines of the first (`remarksFrom_add`). And a finding keeps all of its
remark but the line number (`finding_movedDown`). Which rules these are is read
off the catalogue (`withId_lineLocal`).
-/
import SourceAudit.Proofs.Rule.Reporting
import SourceAudit.Proofs.Text.Encoding
import SourceAudit.Proofs.Text.Lines
import SourceAudit.Rule.Catalogue

namespace SourceAudit

-- ============================================================= sources

/-- The file that holds a text. -/
def Source.ofText (s : String) : Source := ⟨Text.encode s⟩

/-- A text without carriage returns is the text of the file that holds it. -/
theorem Source.text_ofText {s : String} (h : '\r' ∉ s.toList) :
    (Source.ofText s).text = s :=
  Text.decodeLenient_encode h

/-- The texts of two files put together are the text of a file. -/
theorem Source.exists_text_append (first second : Source) :
    ∃ whole : Source, whole.text = first.text ++ second.text := by
  refine ⟨Source.ofText (first.text ++ second.text), Source.text_ofText ?_⟩
  rw [String.toList_append, List.mem_append, not_or]
  exact ⟨Text.decodeLenient_noReturn _, Text.decodeLenient_noReturn _⟩

/-- Either way of reading lines, a text that ends a line keeps its lines when
another text follows. -/
theorem Reading.lines_append (reading : Reading) {a : String}
    (h : Text.EndsLine a) (b : String) :
    reading.lines (a ++ b) = reading.lines a ++ reading.lines b := by
  cases reading with
  | fileLines => exact Text.readLines_append h b
  | textLines => exact Text.splitLines_append h b

-- ============================================================= remarks

/-- A remark so many lines further down. -/
def Remark.movedDown (lines : Nat) (r : Remark) : Remark :=
  { r with line := r.line + lines }

/-- The number of a line only shows in the line number of its remarks. -/
theorem lineRemarks_add (look : String → List Note) (number lines : Nat)
    (line : String) :
    lineRemarks look (number + lines) line
      = (lineRemarks look number line).map (Remark.movedDown lines) := by
  unfold lineRemarks
  rw [List.map_map]
  rfl

/-- Lines numbered from further on have their remarks further down. -/
theorem remarksFrom_add (look : String → List Note) (lines : Nat)
    (ls : List String) :
    ∀ number, remarksFrom look (number + lines) ls
      = (remarksFrom look number ls).map (Remark.movedDown lines) := by
  induction ls with
  | nil => intro number; rfl
  | cons line ls ih =>
      intro number
      rw [remarksFrom, remarksFrom, List.map_append, lineRemarks_add, ← ih,
        Nat.add_right_comm number lines 1]

/-- The remarks on lines put together. -/
theorem remarksFrom_append (look : String → List Note) (xs ys : List String) :
    ∀ number, remarksFrom look number (xs ++ ys)
      = remarksFrom look number xs ++
        remarksFrom look (number + xs.length) ys := by
  induction xs with
  | nil => intro number; rfl
  | cons line xs ih =>
      intro number
      rw [List.cons_append, remarksFrom, remarksFrom, ih, List.append_assoc,
        List.length_cons, Nat.add_assoc number 1, Nat.add_comm 1]

-- ============================================================ findings

/-- A finding so many lines further down; one without a line number stays as it
is. -/
def Finding.movedDown (lines : Nat) (f : Finding) : Finding :=
  match f.line with
  | .int n => { f with line := .int (n + lines) }
  | _ => f

namespace Rule

/-- A remark further down is a finding further down, the same in all else. -/
theorem finding_movedDown (rule : Rule) (path : String) (lines : Nat)
    (r : Remark) :
    rule.finding path (r.movedDown lines)
      = (rule.finding path r).movedDown lines := rfl

/-- A rule that looks at each line on its own finds in two texts what it finds
in either, the second one's findings moved down. -/
theorem check_append_of_perLine {rule : Rule} {reading : Reading}
    {look : String → List Note}
    (hrule : rule.inspection = .perLine reading look) (columns : Bool)
    (path : String) {first second whole : Source}
    (hend : Text.EndsLine first.text)
    (hwhole : whole.text = first.text ++ second.text) :
    rule.check columns path (some whole)
      = rule.check columns path (some first) ++
        (rule.check columns path (some second)).map
          (Finding.movedDown (reading.lines first.text).length) := by
  cases columns with
  | false => simp only [check_columnless, List.map_nil, List.append_nil]
  | true =>
      simp only [check_eq_map, hrule, Inspection.remarks]
      rw [hwhole, reading.lines_append hend, remarksFrom_append,
        List.map_append, remarksFrom_add, List.map_map, List.map_map]
      exact congrArg _ (List.map_congr_left fun r _ =>
        finding_movedDown rule path _ r)

-- =========================================================== catalogue

/-- The rules that look at each line on its own, with how they read lines. -/
def lineLocal : List (String × Reading) :=
  [("security.hardcoded_secrets", .fileLines),
   ("security.sql_injection", .fileLines),
   ("security.insecure_random", .textLines),
   ("quality.todo_comments", .fileLines), ("ai_ml.data_privacy", .fileLines),
   ("ai_ml.model_security", .fileLines), ("ai_ml.bias_detection", .fileLines),
   ("django.security", .textLines), ("flask.security", .textLines),
   ("tensorflow.security", .textLines), ("pytorch.security", .textLines),
   ("react.security", .textLines), ("sqlalchemy.security", .textLines),
   ("nodejs.hardcoded_secrets", .fileLines),
   ("express.security_misconfiguration", .textLines),
   ("nodejs.logging_security", .fileLines),
   ("nodejs.authentication", .textLines)]

/-- Each of them is in the catalogue and looks at lines the way said. -/
theorem withId_lineLocal :
    ∀ e ∈ lineLocal, ∃ rule look,
      withId e.1 = .ok rule ∧ rule.inspection = .perLine e.2 look := by
  unfold lineLocal
  simp only [List.forall_mem_cons]
  refine ⟨⟨hardcodedSecrets, _, rfl, rfl⟩, ⟨sqlInjection, _, rfl, rfl⟩,
    ⟨insecureRandom, _, rfl, rfl⟩, ⟨todoComments, _, rfl, rfl⟩,
    ⟨dataPrivacy, _, rfl, rfl⟩, ⟨modelSecurity, _, rfl, rfl⟩,
    ⟨biasDetection, _, rfl, rfl⟩, ⟨django.rule, _, rfl, rfl⟩,
    ⟨flask.rule, _, rfl, rfl⟩, ⟨tensorflow.rule, _, rfl, rfl⟩,
    ⟨pytorch.rule, _, rfl, rfl⟩, ⟨react.rule, _, rfl, rfl⟩,
    ⟨sqlalchemy.rule, _, rfl, rfl⟩, ⟨nodeSecrets, _, rfl, rfl⟩,
    ⟨expressMisconfiguration, _, rfl, rfl⟩, ⟨loggingSecurity, _, rfl, rfl⟩,
    ⟨nodeAuthentication, _, rfl, rfl⟩, ?_⟩
  exact fun e he => absurd he List.not_mem_nil

/-- Line-local rules are compositional. Of two texts, the first of which ends a
line, the findings in both together are those in the first, followed by those in
the second moved down by the lines the rule itself sees in the first. -/
theorem lineLocal_check_append {id : String} {reading : Reading}
    (hid : (id, reading) ∈ lineLocal) :
    ∃ rule look, withId id = .ok rule ∧
      rule.inspection = .perLine reading look ∧
      ∀ (columns : Bool) (path : String) (first second : Source),
        Text.EndsLine first.text →
        (∃ whole : Source, whole.text = first.text ++ second.text) ∧
        ∀ whole : Source, whole.text = first.text ++ second.text →
          rule.check columns path (some whole)
            = rule.check columns path (some first) ++
              (rule.check columns path (some second)).map
                (Finding.movedDown (reading.lines first.text).length) := by
  obtain ⟨rule, look, hrule, hlook⟩ := withId_lineLocal _ hid
  refine ⟨rule, look, hrule, hlook,
    fun columns path first second hend => ⟨?_, ?_⟩⟩
  · exact Source.exists_text_append first second
  · intro whole hwhole
    exact check_append_of_perLine hlook columns path hend hwhole

/-- A form feed breaks the first text into two lines, so what is found in the
second text moves down by two. -/
theorem lineLocal_check_append_formFeed :
    ∃ rule, withId "security.insecure_random" = .ok rule ∧
      rule.check true "f.py"
        (some (.ofText "import os\x0cimport random\nrandom.random()"))
        = rule.check true "f.py"
          (some (.ofText "import os\x0cimport random\n")) ++
          (rule.check true "f.py" (some (.ofText "random.random()"))).map
            (Finding.movedDown 2) ∧
      (rule.check true "f.py" (some (.ofText "random.random()"))).map
        (fun f => f.line.asInt?) = [some 1] := by
  have hid : ("security.insecure_random", Reading.textLines) ∈ lineLocal := by
    decide
  obtain ⟨rule, look, hrule, -, happend⟩ := lineLocal_check_append hid
  have hsame : rule = insecureRandom := (Except.ok.inj hrule).symm
  refine ⟨rule, hrule, ?_, ?_⟩
  · have hfirst : (Source.ofText "import os\x0cimport random\n").text
        = "import os\x0cimport random\n" := Source.text_ofText (by decide)
    have hend :
        Text.EndsLine (Source.ofText "import os\x0cimport random\n").text := by
      rw [hfirst]
      exact Or.inr (by decide)
    have htwo : 2 = (Reading.textLines.lines
        (Source.ofText "import os\x0cimport random\n").text).length := by
      rw [hfirst]
      decide +kernel
    rw [htwo]
    refine (happend true "f.py" _ (.ofText "random.random()") hend).2
      (.ofText "import os\x0cimport random\nrandom.random()") ?_
    rw [hfirst, Source.text_ofText (by decide), Source.text_ofText (by decide)]
    rfl
  · rw [hsame]
    decide +kernel

end Rule

end SourceAudit
