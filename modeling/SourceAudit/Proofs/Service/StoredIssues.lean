/-
Findings that were stored and read back are answered like findings that never
left memory.

There are two ways from a finding to a message. One writes a row, keeps it in
the store and makes the message of its columns; the other makes the message of
the finding. They come to the same outcome, message or refusal, on every finding
whose standards have been looked up (`storedIssue_issueRow`): the row has every
column the message is made of, a standard loses only a description that no
message shows (`storedStandard_standardRecord`), and further data that count as
absent are left out on both ways. For a list the rows are written with one call,
in order, and a store that hands them back hands them to the answer.
-/
import SourceAudit.Proofs.Rule.Reporting
import SourceAudit.Proofs.Schema.Fitting
import SourceAudit.Proofs.Store.Calls
import SourceAudit.Service.Account
import Mathlib.Data.List.Forall2

namespace SourceAudit

/-- A finding whose standards and compliance frameworks have been looked up. -/
structure Finding.LookedUp (f : Finding) : Prop where
  standards : f.standards.isSome
  frameworks : f.frameworks.isSome

namespace AccountService

open Store Store.Service

-- =========================================================== one issue

/-- A stored standard is answered like the standard itself. -/
theorem storedStandard_standardRecord (s : Standard) :
    storedStandard (standardRecord s) = Schema.ofStandard s := by
  unfold storedStandard standardRecord Schema.ofStandard Schema.make
    Schema.standard
  simp only [Schema.fit_fields]
  -- the columns a message has are the same; the description is not among them
  rw [Schema.fitFields_congr]
  simp only [List.forall_mem_cons, List.not_mem_nil, false_implies,
    implies_true, and_true]
  exact ⟨rfl, rfl, rfl, rfl, rfl⟩

/-- A finding whose standards have been looked up has a row. -/
theorem issueRow_ok {f : Finding} {ids names : List String}
    (hids : f.standards = some ids) (hnames : f.frameworks = some names)
    (scan : Value) :
    issueRow true scan f = .ok (issueRecord scan f ids names) := by
  unfold issueRow
  rw [hids, hnames]
  rfl

/-- What is read of a row: every column the message is made of is there. -/
theorem storedIssue_columns (scan : Value) (f : Finding)
    (ids names : List String) :
    storedIssue (issueRecord scan f ids names) = (do
      let severity ← Severity.ofValue "SeverityModel" (.text f.severity.name)
      let standards ← ((ids.filterMap Standard.withId?).map standardRecord).mapM
        storedStandard
      Schema.make Schema.issue
        [("rule_id", f.rule), ("severity", .text severity.name),
         ("message", f.message), ("file_path", .text f.file.shown),
         ("line_number", f.line), ("column_number", f.column),
         ("code_snippet", f.snippet), ("remediation", f.remediation),
         ("category", f.category), ("confidence", f.confidence),
         ("metadata", orValue f.metadata (.record [])),
         ("standards", .list standards),
         ("compliance_frameworks", Value.texts names)]) :=
  rfl

/-- The message made of a finding's row is the message made of the finding. -/
theorem storedIssue_issueRecord {f : Finding} {ids names : List String}
    (hids : f.standards = some ids) (hnames : f.frameworks = some names)
    (scan : Value) :
    storedIssue (issueRecord scan f ids names) = Schema.ofFinding true f := by
  have hstandards :
    ((ids.filterMap Standard.withId?).map standardRecord).mapM storedStandard
      = (ids.filterMap Standard.withId?).mapM Schema.ofStandard := by
    rw [List.mapM_map]
    exact congrArg (List.mapM · _) (funext storedStandard_standardRecord)
  rw [storedIssue_columns, Severity.ofValue_name, hstandards]
  unfold Schema.ofFinding
  rw [hids, hnames]
  rfl

/-- A finding whose standards have been looked up has a row, which is answered
like the finding itself. -/
theorem exists_issueRow {f : Finding} (h : f.LookedUp) (scan : Value) :
    ∃ row, issueRow true scan f = .ok row ∧
      storedIssue row = Schema.ofFinding true f := by
  obtain ⟨ids, hids⟩ := Option.isSome_iff_exists.1 h.standards
  obtain ⟨names, hnames⟩ := Option.isSome_iff_exists.1 h.frameworks
  exact ⟨_, issueRow_ok hids hnames scan,
    storedIssue_issueRecord hids hnames scan⟩

-- ========================================================= many issues

/-- So do several findings, row by row. -/
theorem exists_issueRows {findings : List Finding}
    (h : ∀ f ∈ findings, f.LookedUp) (scan : Value) :
    ∃ rows, findings.mapM (issueRow true scan) = .ok rows ∧
      List.Forall₂ (fun row f => storedIssue row
        = Schema.ofFinding true f) rows findings := by
  induction findings with
  | nil => exact ⟨[], rfl, .nil⟩
  | cons f rest ih =>
      obtain ⟨row, hrow, hsame⟩ := exists_issueRow (h f List.mem_cons_self) scan
      obtain ⟨rows, hrows, hagree⟩ := ih fun g hg =>
        h g (List.mem_cons_of_mem f hg)
      refine ⟨row :: rows, ?_, .cons hsame hagree⟩
      rw [List.mapM_cons, hrow, hrows]
      rfl

theorem mapM_of_forall₂ {α β γ : Type} {f : α → Outcome γ} {g : β → Outcome γ}
    {xs : List α} {ys : List β}
    (h : List.Forall₂ (fun x y => f x = g y) xs ys) :
    xs.mapM f = ys.mapM g := by
  induction h with
  | nil => rfl
  | cons hxy _ ih => rw [List.mapM_cons, List.mapM_cons, hxy, ih]

/-- The call that enters the rows of findings, if there are any and each can be
written. -/
def savingCalls (columns : Bool) (scan : Value) (findings : List Finding) :
    List Call :=
  match findings.mapM (issueRow columns scan) with
  | .ok (row :: rest) =>
      [.query ((Query.table "issues").insert (.list (row :: rest)))]
  | _ => []

/-- Saving findings never fails, and what it asks of the store does not depend
on what the store answers. -/
theorem run_saveIssues (columns : Bool) (scan : Value) (findings : List Finding)
    (l : Ledger) :
    ∃ count, (saveIssues columns scan findings).run.run l
      = (.ok count, l.afterAll (savingCalls columns scan findings)) := by
  unfold saveIssues savingCalls
  rw [Action.run_orElse, run_bind, Action.run_ofOutcome]
  cases findings.mapM (issueRow columns scan) with
  | error why => exact ⟨_, rfl⟩
  | ok rows =>
      cases rows with
      | nil => exact ⟨_, rfl⟩
      | cons row rest =>
          simp only [List.isEmpty_cons, Bool.false_eq_true, if_false, run_bind,
            Action.run_rows]
          cases l.next.rows with
          | error why => exact ⟨_, rfl⟩
          | ok data =>
              -- counting the rows of the reply may fail, but asks nothing more
              dsimp only
              by_cases hany : data.isTruthy = true
              · rw [if_pos hany, Action.run_ofOutcome]
                cases size data <;> exact ⟨_, rfl⟩
              · rw [if_neg hany]
                exact ⟨_, rfl⟩

/-- What saving findings asks of the store: one call that enters all rows, if
there are any. -/
theorem calls_saveIssues {findings : List Finding} {scan : Value}
    {rows : List Value} (h : findings.mapM (issueRow true scan) = .ok rows)
    (l : Ledger) :
    ((saveIssues true scan findings).run.run l).2.calls
      = (if rows.isEmpty then []
        else [.query ((Query.table "issues").insert (.list rows))])
        ++ l.calls := by
  obtain ⟨count, hrun⟩ := run_saveIssues true scan findings l
  rw [hrun, savingCalls, h, Ledger.calls_afterAll]
  cases rows <;> rfl

/-- What reading a scan gives if the store knows it and hands its issues
back. -/
theorem run_scanResults {l : Ledger} {scan user entry : Value}
    {others rows : List Value} {rest : List Reply}
    {error₁ user₁ error₂ user₂ : Value}
    (h : l.replies = .answers (.list (entry :: others)) error₁ user₁ ::
      .answers (.list rows) error₂ user₂ :: rest) :
    ((scanResults scan user).run.run l).1
      = .ok (.record [("scan", entry), ("issues", .list rows)]) := by
  obtain ⟨replies, calls⟩ := l
  subst h
  cases rows <;> rfl

/-- The answer made of a scan and its rows. -/
theorem storedResults_rows (id : String) (entry : Value) (rows : List Value) :
    storedResults id (.record [("scan", entry), ("issues", .list rows)])
      = rows.mapM storedIssue >>= storedAnswer id entry :=
  rfl

/-- Rows that are written for findings and handed back by the store are answered
like the findings themselves. All rows are entered with one call; a store that
knows the scan and hands them back gives them to the answer as they are; and
each is answered, or refused, like the finding it was written for, so that the
answers come out in the order of the findings, as many as there are. -/
theorem stored_issues_agree {findings : List Finding}
    (h : ∀ f ∈ findings, f.LookedUp) (scan : Value) (writing : Ledger) :
    ∃ rows,
      ((saveIssues true scan findings).run.run writing).2.calls
        = (if rows.isEmpty then []
          else [.query ((Query.table "issues").insert (.list rows))])
          ++ writing.calls ∧
      (∀ user entry others rest error₁ user₁ error₂ user₂ calls,
        ((scanResults scan user).run.run
          ⟨.answers (.list (entry :: others)) error₁ user₁ ::
            .answers (.list rows) error₂ user₂ :: rest, calls⟩).1
          = .ok (.record [("scan", entry), ("issues", .list rows)])) ∧
      rows.length = findings.length ∧
      List.Forall₂ (fun row f => storedIssue row
        = Schema.ofFinding true f) rows findings ∧
      (∀ id entry,
        storedResults id (.record [("scan", entry), ("issues", .list rows)])
          = findings.mapM (Schema.ofFinding true) >>=
            storedAnswer id entry) := by
  obtain ⟨rows, hrows, hagree⟩ := exists_issueRows h scan
  refine ⟨rows, calls_saveIssues hrows writing, ?_, hagree.length_eq,
    hagree, ?_⟩
  · intro user entry others rest error₁ user₁ error₂ user₂ calls
    exact run_scanResults rfl
  · intro id entry
    rw [storedResults_rows, mapM_of_forall₂ hagree]

/-- A finding with a section of a standard, a column and no further data. -/
def storedSample : Finding where
  rule := .text "security.injection"
  severity := .high
  category := .text "security"
  message := .text "Injection"
  file := .text "a.py"
  line := .int 3
  column := .int 7
  snippet := .null
  remediation := .text "Use parameters"
  confidence := .real 0.5
  metadata := .null
  standards := some ["nist_800_53_ac"]
  frameworks := some ["PCI DSS"]

/-- Two such findings are written with one call, and their rows come back as
they are answered. -/
theorem stored_issues_agree_sample :
    (∀ f ∈ [storedSample, storedSample], f.LookedUp) ∧
      (Schema.ofFinding true storedSample).toOption.isSome ∧
      ∃ rows,
        ((saveIssues true (.int 1) [storedSample, storedSample]).run.run
          (.ofReplies [])).2.calls
          = [.query ((Query.table "issues").insert (.list rows))] ∧
        rows.length = 2 ∧
        List.Forall₂ (fun row f => storedIssue row
          = Schema.ofFinding true f) rows
          [storedSample, storedSample] := by
  have hsample : storedSample.LookedUp := ⟨rfl, rfl⟩
  have hboth : ∀ f ∈ [storedSample, storedSample], f.LookedUp := by
    simpa using hsample
  obtain ⟨rows, hcalls, -, hlength, hagree, -⟩ :=
    stored_issues_agree hboth (.int 1) (.ofReplies [])
  refine ⟨hboth, by decide +kernel, rows, ?_, hlength, hagree⟩
  rw [hcalls, if_neg]
  · rfl
  · rw [List.isEmpty_iff, ← List.length_eq_zero_iff, hlength]
    decide

end AccountService

end SourceAudit
