/-
Which rules run, and which rules count as enabled.

Both are told from two lists of ids. A rule counts as enabled if the second list
does not name it and, unless the first is empty, the first does
(`isEnabled_naming`). The rules that run are chosen by this as long as the first
list is empty; where it names rules those run, and the second list is not read
(`rules_naming`). So a rule that counts as enabled always runs, and the rules
that run in spite of it are those that both lists name
(`rules_enabled_iff_lists_apart`).
-/
import SourceAudit.Settings.Audit

namespace SourceAudit

-- =============================================================== lists

namespace Value

@[simp] theorem isTruthy_texts (xs : List String) :
    (Value.texts xs).isTruthy = !xs.isEmpty := by
  simp [Value.texts, isTruthy]

/-- A list of texts holds the texts in it. -/
@[simp] theorem holds_texts (xs : List String) (s : String) :
    (Value.texts xs).holds s = .ok (decide (s ∈ xs)) := by
  have hmember : (Value.text s).memberOf (xs.map .text) = decide (s ∈ xs) := by
    rw [Bool.eq_iff_iff]
    simp [memberOf, same]
  rw [Value.texts, holds, hmember]

end Value

namespace AuditSettings

/-- Of rules of which a condition can be told by their ids, those are kept that
meet it. -/
theorem filterRules_eq_filter {p : String → Outcome Bool}
    {meets : String → Bool} (h : ∀ id, p id = .ok (meets id))
    (rules : List Rule) :
    filterRules p rules = .ok (rules.filter fun rule => meets rule.id) := by
  induction rules with
  | nil => rfl
  | cons rule rest ih =>
      rw [filterRules, h, ih, List.filter_cons]
      cases meets rule.id with
      | true => rfl
      | false => rfl

-- =============================================================== rules

/-- Settings with rules enabled and disabled by their ids. -/
def naming (c : AuditSettings) (enabled disabled : List String) :
    AuditSettings :=
  { c with
    enabledRules := Value.texts enabled
    disabledRules := Value.texts disabled }

/-- The rules of the catalogue that count as enabled. -/
def catalogueEnabled (c : AuditSettings) : List Rule :=
  Rule.all.filter fun rule => (c.isEnabled rule.id).toOption == some true

variable (c : AuditSettings) (enabled disabled : List String)

/-- What is disabled is not enabled, whatever else is said of it. -/
theorem isEnabled_naming (id : String) :
    (c.naming enabled disabled).isEnabled id
      = .ok (decide (id ∉ disabled ∧ (enabled = [] ∨ id ∈ enabled))) := by
  unfold isEnabled naming
  simp only [Value.isTruthy_texts, Value.holds_texts]
  cases disabled with
  | nil => cases enabled <;> simp [pure, Except.pure]
  | cons d ds =>
      by_cases hdisabled : id ∈ d :: ds
      · simp [hdisabled, bind, Except.bind, pure, Except.pure]
      · cases enabled <;> simp [hdisabled, bind, Except.bind, pure, Except.pure]

/-- Where rules are enabled by their ids, those run; what is disabled counts
only where none are. -/
theorem rules_naming :
    (c.naming enabled disabled).rules
      = .ok (Rule.all.filter fun rule =>
          if enabled = [] then rule.id ∉ disabled else rule.id ∈ enabled) := by
  unfold rules
  cases enabled with
  | nil =>
      rw [if_neg (by simp [naming]),
        filterRules_eq_filter (isEnabled_naming c [] disabled)]
      simp
  | cons e es =>
      have hnamed : (c.naming (e :: es) disabled).enabledRules
          = Value.texts (e :: es) := rfl
      rw [hnamed, if_pos (by simp),
        filterRules_eq_filter (Value.holds_texts (e :: es))]
      simp

/-- Of the rules that run, those count as enabled that are not disabled. -/
theorem catalogueEnabled_naming :
    (c.naming enabled disabled).catalogueEnabled
      = (Rule.all.filter fun rule =>
          if enabled = [] then rule.id ∉ disabled else rule.id ∈ enabled).filter
            fun rule => rule.id ∉ disabled := by
  rw [catalogueEnabled, List.filter_filter]
  refine List.filter_congr fun rule _ => ?_
  by_cases hnone : enabled = []
  · simp [isEnabled_naming, Except.toOption, hnone]
  · simp [isEnabled_naming, Except.toOption, hnone]

/-- The rules that run and those that count as enabled. Every list of ids to
enable and to disable gives rules to run, and what counts as enabled can be told
of every id. The rules of the catalogue that count as enabled are those that run
and are not disabled; so the two are the same just if no rule of the catalogue
is both enabled and disabled by its id. -/
theorem rules_enabled_iff_lists_apart :
    ∃ run, (c.naming enabled disabled).rules = .ok run ∧
      run = Rule.all.filter (fun rule =>
        if enabled = [] then rule.id ∉ disabled else rule.id ∈ enabled) ∧
      (∀ id, (c.naming enabled disabled).isEnabled id
        = .ok (decide (id ∉ disabled ∧ (enabled = [] ∨ id ∈ enabled)))) ∧
      (c.naming enabled disabled).catalogueEnabled
        = run.filter (fun rule => rule.id ∉ disabled) ∧
      (run = (c.naming enabled disabled).catalogueEnabled
        ↔ ∀ rule ∈ Rule.all, ¬(rule.id ∈ enabled ∧ rule.id ∈ disabled)) := by
  refine ⟨_, rules_naming c enabled disabled, rfl,
    isEnabled_naming c enabled disabled,
    catalogueEnabled_naming c enabled disabled, ?_⟩
  rw [catalogueEnabled_naming, eq_comm, List.filter_eq_self]
  simp only [List.mem_filter, decide_eq_true_eq, and_imp]
  refine forall₂_congr fun rule _ => ?_
  by_cases hnone : enabled = []
  · simp [hnone]
  · simp [hnone]

/-- A rule that is enabled and disabled by its id runs, although it does not
count as enabled and nor does any other. -/
theorem disabled_rule_runs :
    let both := usual.naming ["quality.todo_comments"] ["quality.todo_comments"]
    both.rules = .ok [Rule.todoComments] ∧
      both.isEnabled Rule.todoComments.id = .ok false ∧
      both.catalogueEnabled = [] :=
  ⟨rfl, rfl, rfl⟩

end AuditSettings

end SourceAudit
