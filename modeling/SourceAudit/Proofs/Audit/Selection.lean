/-
Which rules the findings of an audit come from, and how severe they may be.

The settings choose rules when the auditor is made; an audit adds the rules of
the frameworks it detects and asks the settings no more. So a finding comes of a
rule that is enabled, or that is enabled by its name although it is disabled, or
that belongs to a framework detected in the project. The least severity that the
settings name is read by no step of an audit: of the settings it reads the
patterns for files and the limit alone (`auditWith_congr`).
-/
import SourceAudit.Proofs.Audit.Findings
import SourceAudit.Proofs.Finding.Levels
import SourceAudit.Proofs.Framework.Evidence

namespace SourceAudit

namespace AuditSettings

/-- Whether a rule is among those enabled by name. -/
def EnablesByName (c : AuditSettings) (id : String) : Prop :=
  c.enabledRules.isTruthy = true ∧ c.enabledRules.holds id = .ok true

/-- A finding that keeps to the settings: its rule is enabled, and it is at
least as severe as they ask. -/
def Admits (c : AuditSettings) (f : Finding) : Prop :=
  (∃ id, f.rule = .text id ∧ c.isEnabled id = .ok true) ∧
    ∃ least, c.minSeverity.asText?.bind Severity.ofName? = some least ∧
      least.rank ≤ f.severity.rank

theorem holds_of_mem_filterRules {p : String → Outcome Bool}
    {rules kept : List Rule} (h : filterRules p rules = .ok kept) {rule : Rule}
    (hrule : rule ∈ kept) : p rule.id = .ok true := by
  induction rules generalizing kept with
  | nil =>
      obtain rfl := Except.ok.inj h
      exact absurd hrule List.not_mem_nil
  | cons first rest ih =>
      obtain ⟨b, more, hb, hmore, rfl⟩ := Auditor.filterRules_cons_eq_ok h
      cases b with
      | true =>
          rcases List.mem_cons.1 hrule with rfl | hlater
          · exact hb
          · exact ih hmore hlater
      | false => exact ih hmore hrule

/-- The rules of the settings are those enabled by name or, where none are,
those enabled. -/
theorem enabled_of_mem_rules {c : AuditSettings} {rules : List Rule}
    (h : c.rules = .ok rules) {rule : Rule} (hrule : rule ∈ rules) :
    c.isEnabled rule.id = .ok true ∨ c.EnablesByName rule.id := by
  unfold AuditSettings.rules at h
  split at h
  · rename_i hnamed
    exact .inr ⟨hnamed, holds_of_mem_filterRules h hrule⟩
  · exact .inl (holds_of_mem_filterRules h hrule)

end AuditSettings

namespace Auditor

-- =============================================================== rules

theorem rules_ofSettings {c : AuditSettings} {a : Auditor}
    (h : ofSettings c = .ok a) : c.rules = .ok a.rules := by
  obtain ⟨rules, hrules, hmade⟩ := Outcome.bind_eq_ok h
  rw [hrules, ← Except.ok.inj hmade]

/-- Whatever the limit, it adds no finding. -/
theorem mem_of_limitTo {limit : Value} {findings kept : List Finding}
    (h : limitTo limit findings = .ok kept) {f : Finding} (hf : f ∈ kept) :
    f ∈ findings := by
  obtain ⟨exceeds, -, hkept⟩ := Outcome.bind_eq_ok h
  cases exceeds with
  | false =>
      rw [← Except.ok.inj hkept] at hf
      exact hf
  | true =>
      cases hwhole : limit.asWhole? with
      | none => simp [hwhole] at hkept
      | some k =>
          simp only [hwhole, if_true] at hkept
          rw [← Except.ok.inj hkept] at hf
          exact List.mem_of_mem_take hf

/-- What is found in a file comes of one of the auditor's rules. -/
theorem mem_foundIn_of_scanFile {a : Auditor} {tree : FileTree} {path : String}
    {findings : List Finding} (h : a.scanFile true tree path = .ok findings)
    {f : Finding} (hf : f ∈ findings) : f ∈ foundIn a.rules tree path := by
  unfold scanFile at h
  split at h
  · rw [← Except.ok.inj h] at hf
    exact absurd hf List.not_mem_nil
  · exact mem_of_limitTo h hf

theorem mem_foundIn_of_scanFiles {a : Auditor} {tree : FileTree}
    {paths : List String} {f : Finding} (hf : f ∈ (a.scanFiles tree paths).1) :
    ∃ path, f ∈ foundIn a.rules tree path := by
  induction paths with
  | nil => exact absurd hf List.not_mem_nil
  | cons path rest ih =>
      rw [scanFiles] at hf
      cases hscan : a.scanFile true tree path with
      | error why =>
          rw [hscan] at hf
          exact ih hf
      | ok findings =>
          rw [hscan] at hf
          rcases List.mem_append.1 hf with hhere | hlater
          · exact ⟨path, mem_foundIn_of_scanFile hscan hhere⟩
          · exact ih hlater

/-- An audit that gives a result has scanned some files and mapped what it found
there. -/
theorem auditWith_eq_ok {a : Auditor} {tree : FileTree} {target : String}
    {found : Framework.Detections} {result : Audit}
    (h : a.auditWith true tree target found = .ok result) :
    ∃ files, withCompliance (a.scanFiles tree files).1 = .ok (result.findings,
      result.summary) ∧
      result.frameworks = found := by
  rw [auditWith_eq] at h
  obtain ⟨files, -, h⟩ := Outcome.bind_eq_ok h
  obtain ⟨mapped, hmapped, h⟩ := Outcome.bind_eq_ok h
  rw [← Except.ok.inj h]
  exact ⟨files, hmapped, rfl⟩

/-- What an audit reports comes of one of the auditor's rules, and is as severe
as the rule is. -/
theorem rule_of_mem_findings {a : Auditor} (hrules : a.Catalogued)
    {tree : FileTree} {target : String} {found : Framework.Detections}
    {result : Audit} (h : a.auditWith true tree target found = .ok result)
    {f : Finding} (hf : f ∈ result.findings) :
    ∃ rule ∈ a.rules, f.rule = .text rule.id ∧ f.severity = rule.severity := by
  obtain ⟨files, hcompliance, -⟩ := auditWith_eq_ok h
  have hmappable : ∀ g ∈ (a.scanFiles tree files).1, g.Mappable := by
    intro g hg
    obtain ⟨path, hpath⟩ := mem_foundIn_of_scanFiles hg
    exact mappable_of_mem_foundIn hrules hpath
  obtain ⟨mapped, summary, hmapped, hsame⟩ := withCompliance_ok hmappable
  obtain ⟨rfl, -⟩ :=
    Prod.mk.inj (Except.ok.inj (hmapped.symm.trans hcompliance))
  have hbare : f.unmapped ∈ (a.scanFiles tree files).1.map Finding.unmapped :=
    hsame ▸ List.mem_map_of_mem hf
  obtain ⟨g, hg, heq⟩ := List.mem_map.1 hbare
  obtain ⟨path, hpath⟩ := mem_foundIn_of_scanFiles hg
  obtain ⟨rule, hrule, hcheck⟩ := List.mem_flatMap.1 hpath
  obtain ⟨source, remark, -, rfl⟩ := Rule.remark_of_mem_check hcheck
  have hid : f.rule = .text rule.id := congrArg Finding.rule heq.symm
  have hlevel : f.severity = rule.severity := congrArg Finding.severity heq.symm
  exact ⟨rule, (List.mem_filter.1 hrule).1, hid, hlevel⟩

-- ============================================================ settings

/-- A file is scanned with the rules and the limit, and with nothing else. -/
theorem scanFiles_congr {a b : Auditor} (hrules : a.rules = b.rules)
    (hmost : a.settings.maxPerFile = b.settings.maxPerFile) (tree : FileTree)
    (paths : List String) :
    a.scanFiles tree paths = b.scanFiles tree paths := by
  induction paths with
  | nil => rfl
  | cons path rest ih =>
      rw [scanFiles, scanFiles, ih, scanFile, scanFile, hrules, hmost]

/-- Of the settings an audit reads which files to scan and the limit alone. -/
theorem auditWith_congr {a b : Auditor} (hrules : a.rules = b.rules)
    (hexclude : a.settings.excludePatterns = b.settings.excludePatterns)
    (hinclude : a.settings.includePatterns = b.settings.includePatterns)
    (hmost : a.settings.maxPerFile = b.settings.maxPerFile) (gathers : Bool)
    (tree : FileTree) (target : String) (found : Framework.Detections) :
    a.auditWith gathers tree target found
      = b.auditWith gathers tree target found := by
  have hscans : a.settings.scansFile = b.settings.scansFile := by
    funext path
    rw [AuditSettings.scansFile, AuditSettings.scansFile, hexclude, hinclude]
  simp only [auditWith, filesOf, hscans, scanFiles_congr hrules hmost]

/-- The least severity makes no difference: with any other, the auditor that is
made gives the same result. -/
theorem audit_of_minSeverity {c : AuditSettings} {fresh : Auditor}
    (h : ofSettings c = .ok fresh) (least : Value) (gathers : Bool)
    (tree : FileTree) (target : String) :
    ∃ other, ofSettings { c with minSeverity := least } = .ok other ∧
      (other.audit gathers tree target).1
        = (fresh.audit gathers tree target).1 := by
  have hrules := rules_ofSettings h
  obtain ⟨rfl, -⟩ := catalogued_ofSettings h
  refine ⟨⟨{ fresh.settings with minSeverity := least }, fresh.rules⟩, ?_, ?_⟩
  · have hsame :
        ({ fresh.settings with minSeverity := least } : AuditSettings).rules
        = .ok fresh.rules := hrules
    rw [ofSettings, hsame]
    rfl
  · rw [auditor_audit, auditor_audit]
    apply auditWith_congr
    · rfl
    · rfl
    · rfl
    · rfl

/-- Where the findings of an audit come from. Each is a remark of a rule, as
severe as that rule; the rule is enabled, or enabled by its name whatever is
disabled, or it belongs to a framework that was detected. Findings keep to the
settings where no rule that is enabled by name is disabled, the rules of
detected frameworks are enabled, and no enabled rule is less severe than asked.
The least severity itself makes no difference to the result. -/
theorem audit_findings_origin {c : AuditSettings} {fresh : Auditor}
    (hfresh : ofSettings c = .ok fresh) {tree : FileTree} {target : String}
    {result : Audit} (hresult : (fresh.audit true tree target).1 = .ok result) :
    (∀ f ∈ result.findings, ∃ rule ∈ Rule.all,
      f.rule = .text rule.id ∧ f.severity = rule.severity ∧
        (c.isEnabled rule.id = .ok true ∨ c.EnablesByName rule.id ∨
          rule ∈ Rule.forFrameworks (result.frameworks.map Prod.fst))) ∧
    (∀ least, c.minSeverity.asText?.bind Severity.ofName? = some least →
      (∀ rule ∈ Rule.all, c.EnablesByName rule.id →
        c.isEnabled rule.id = .ok true) →
      (∀ rule ∈ Rule.forFrameworks (result.frameworks.map Prod.fst),
        c.isEnabled rule.id = .ok true) →
      (∀ rule ∈ Rule.all, c.isEnabled rule.id = .ok true →
        least.rank ≤ rule.severity.rank) →
      ∀ f ∈ result.findings, c.Admits f) ∧
    ∀ least, ∃ other, ofSettings { c with minSeverity := least } = .ok other ∧
      (other.audit true tree target).1 = .ok result := by
  have hcatalogued := (catalogued_ofSettings hfresh).2
  have horigin : ∀ f ∈ result.findings, ∃ rule ∈ Rule.all,
      f.rule = .text rule.id ∧ f.severity = rule.severity ∧
        (c.isEnabled rule.id = .ok true ∨ c.EnablesByName rule.id ∨
          rule ∈ Rule.forFrameworks (result.frameworks.map Prod.fst)) := by
    intro f hf
    rw [auditor_audit] at hresult
    have hlearned := hcatalogued.learn (Framework.detect tree target)
    obtain ⟨-, -, hframeworks⟩ := auditWith_eq_ok hresult
    obtain ⟨rule, hrule, hid, hlevel⟩ :=
      rule_of_mem_findings hlearned hresult hf
    refine ⟨rule, hlearned rule hrule, hid, hlevel, ?_⟩
    rw [hframeworks]
    rcases List.mem_append.1 hrule with hold | hnew
    · rcases AuditSettings.enabled_of_mem_rules
        (rules_ofSettings hfresh) hold with h | h
      · exact .inl h
      · exact .inr (.inl h)
    · exact .inr (.inr hnew)
  refine ⟨horigin, fun least hleast hnamed hframework hsevere f hf => ?_,
    fun least => ?_⟩
  · obtain ⟨rule, hrule, hid, hlevel, hsource⟩ := horigin f hf
    have henabled : c.isEnabled rule.id = .ok true := by
      rcases hsource with h | h | h
      · exact h
      · exact hnamed rule hrule h
      · exact hframework rule h
    exact ⟨⟨rule.id, hid, henabled⟩, least, hleast,
      hlevel ▸ hsevere rule hrule henabled⟩
  · obtain ⟨other, hother, hsame⟩ :=
      audit_of_minSeverity hfresh least true tree target
    exact ⟨other, hother, hsame.trans hresult⟩

/-- Settings that ask for notes to do and for the rules of frameworks, for one
finding a file, and for findings of every level. -/
def everyLevel : AuditSettings :=
  { AuditSettings.usual with
    minSeverity := .text "low"
    enabledRules :=
      Value.texts ("quality.todo_comments" :: Rule.frameworkRules.map Rule.id)
    maxPerFile := .int 1 }

/-- A note to do is reported where such notes are asked for. -/
theorem audit_findings_origin_note :
    ∃ fresh result, ofSettings everyLevel = .ok fresh ∧
      (fresh.audit true brokenFolder ".").1 = .ok result ∧
      result.findings ≠ [] ∧ ∀ f ∈ result.findings, everyLevel.Admits f := by
  have hfresh : ofSettings everyLevel
      = .ok ⟨everyLevel, Rule.todoComments :: Rule.frameworkRules⟩ := rfl
  have hfolder : brokenFolder.isFile "." = false := by decide
  have hmost : everyLevel.maxPerFile.asWhole? = some ((1 : Nat) : Int) := rfl
  have hscans :=
    AuditSettings.scansFile_ok (c := everyLevel)
      AuditSettings.areUsable_usual.1 AuditSettings.areUsable_usual.2
  have hlearned :=
    (catalogued_ofSettings hfresh).2.learn (Framework.detect brokenFolder ".")
  obtain ⟨result, hresult, hfindings, -⟩ :=
    auditWith_folder hlearned hmost hscans hfolder
    (Framework.detect brokenFolder ".")
  have haudit :
    ((Auditor.mk everyLevel (Rule.todoComments :: Rule.frameworkRules)).audit
      true brokenFolder ".").1 = .ok result := by
    rw [auditor_audit, hresult]
  refine ⟨_, result, hfresh, haudit, ?_, ?_⟩
  · intro hnone
    have hscanned : scannedIn everyLevel brokenFolder "." = ["a.py"] := by
      rw [scannedIn, filesBelow_brokenFolder]
      decide
    have hnote : foundIn [Rule.todoComments] brokenFolder "a.py" ≠ [] := by
      intro hempty
      have hnotes := foundIn_brokenFolder
      rw [hempty] at hnotes
      cases hnotes
    have hrules : (Rule.todoComments :: Rule.frameworkRules)
        ++ Rule.forFrameworks ((Framework.detect brokenFolder ".").map Prod.fst)
        = [Rule.todoComments] ++ (Rule.frameworkRules
          ++ Rule.forFrameworks
            ((Framework.detect brokenFolder ".").map Prod.fst)) := rfl
    obtain ⟨note, more, hcons⟩ := List.exists_cons_of_ne_nil hnote
    rw [hnone, learn, hrules] at hfindings
    simp only [hscanned, List.flatMap_cons, List.flatMap_nil, List.append_nil,
      foundIn_append, hcons] at hfindings
    cases hfindings
  · have henabled : ∀ rule ∈ Rule.frameworkRules, everyLevel.isEnabled rule.id
        = .ok true := by
      intro rule hrule
      have hlisted : ∀ id ∈ Rule.frameworkRules.map Rule.id,
          (Value.text id).memberOf
            (("quality.todo_comments" :: Rule.frameworkRules.map Rule.id).map
              .text) = true := by
        decide
      exact congrArg Except.ok (hlisted rule.id (List.mem_map_of_mem hrule))
    refine (audit_findings_origin hfresh haudit).2.1 .low rfl ?_ ?_ ?_
    · intro rule _ hnamed
      exact hnamed.2
    · intro rule hrule
      exact henabled rule (List.mem_filter.1 hrule).1
    · intro rule _ _
      exact Nat.zero_le _

/-- A page of an interface, in the folder where such pages are kept, with a call
that the rule for its framework warns of and a note to do. -/
def page : FileTree :=
  FileTree.empty.withFile "src/a.jsx" (Text.encode "eval(#TODO")

/-- The pattern of such pages is usable. -/
theorem areUsable_pages : AuditSettings.AreUsable (Value.texts ["*.jsx"]) :=
  ⟨_, rfl, by decide⟩

theorem filesBelow_page : page.filesBelow "." = ["src/a.jsx"] := by
  have hbelow : page.below "."
      = [("src", .folder), ("src/a.jsx", .file (Text.encode "eval(#TODO"))] :=
    FileTree.below_eq rfl rfl (by decide)
  rw [FileTree.filesBelow, hbelow]
  rfl

theorem react_mem_detect_page :
    "react" ∈ (Framework.detect page ".").map Prod.fst := by
  have hprofile : ∃ p ∈ Framework.profiles, p.name = "react" ∧
      "src" ∈ p.folders := by decide
  exact Framework.mem_detect_of_folder rfl hprofile rfl

/-- Of the rules of frameworks two look at such a page. -/
theorem foundIn_forFrameworks_page {names : List String} (h : "react" ∈ names) :
    foundIn (Rule.forFrameworks names) page "src/a.jsx"
      = Rule.react.rule.check true "src/a.jsx" (sourceAt page "src/a.jsx")
        ++ if "nodejs" ∈ names then
            Rule.nodeSecrets.check true "src/a.jsx" (sourceAt page "src/a.jsx")
          else [] := by
  have happly : Rule.frameworkRules.filter (Rule.appliesTo · "src/a.jsx")
      = [Rule.react.rule, Rule.nodeSecrets] := rfl
  have hreact : Rule.react.rule.framework = some "react" := rfl
  have hnode : Rule.nodeSecrets.framework = some "nodejs" := rfl
  unfold foundIn
  rw [Rule.forFrameworks, List.filter_comm, happly]
  by_cases hnodejs : "nodejs" ∈ names
  · simp [hreact, hnode, h, hnodejs]
  · simp [hreact, hnode, h, hnodejs]

theorem sourceAt_page :
    sourceAt page "src/a.jsx" = some ⟨Text.encode "eval(#TODO"⟩ := rfl

/-- The page is one line, in whatever way it is read. -/
theorem lines_page (reading : Reading) :
    reading.lines (Source.mk (Text.encode "eval(#TODO")).text
      = ["eval(#TODO"] := by
  cases reading <;> decide +kernel

theorem check_react_page :
    (Rule.react.rule.check true "src/a.jsx" (sourceAt page "src/a.jsx")).map
      (fun f => (f.rule.asText?, f.severity))
        = [(some "react.security", .medium)] := by
  rw [sourceAt_page, Rule.check_of_lines rfl (lines_page _)]
  decide +kernel

/-- The note to do on the page is found. -/
theorem foundIn_todo_page :
    (foundIn [Rule.todoComments] page "src/a.jsx").map
        (fun f => (f.rule.asText?, f.severity, f.file.asText?))
      = [(some "quality.todo_comments", .low, some "src/a.jsx")] := by
  rw [foundIn_single rfl, sourceAt_page, Rule.check_of_lines rfl (lines_page _)]
  decide +kernel

/-- Settings that enable one rule, disable the same, and ask for the highest
level. -/
def contradictory : AuditSettings :=
  { AuditSettings.usual with
    minSeverity := .text "critical"
    enabledRules := Value.texts ["quality.todo_comments"]
    disabledRules := Value.texts ["quality.todo_comments"]
    includePatterns := Value.texts ["*.jsx"]
    maxPerFile := .int 2 }

/-- Findings that the settings rule out: a note below the level asked for, of a
rule that is disabled, and a remark of a rule that is not among those
enabled. -/
theorem audit_not_admitted :
    ∃ fresh result, ofSettings contradictory = .ok fresh ∧
      (fresh.audit true page ".").1 = .ok result ∧
      result.findings.map (fun f => (f.rule.asText?, f.severity))
        = [(some "quality.todo_comments", .low),
          (some "react.security", .medium)] ∧
      ∀ f ∈ result.findings, ¬contradictory.Admits f := by
  have hfresh : ofSettings contradictory
      = .ok ⟨contradictory, [Rule.todoComments]⟩ := rfl
  have hfolder : page.isFile "." = false := rfl
  have hmost : contradictory.maxPerFile.asWhole? = some ((2 : Nat) : Int) := rfl
  have hscans :=
    AuditSettings.scansFile_ok (c := contradictory)
      AuditSettings.areUsable_usual.1 areUsable_pages
  have hlearned := (catalogued_ofSettings hfresh).2.learn
    (Framework.detect page ".")
  obtain ⟨result, hresult, hfindings, -⟩ :=
    auditWith_folder hlearned hmost hscans hfolder
    (Framework.detect page ".")
  have hscanned : scannedIn contradictory page "." = ["src/a.jsx"] := by
    rw [scannedIn, filesBelow_page]
    decide
  have hsaid : result.findings.map (fun f => (f.rule.asText?, f.severity))
      = [(some "quality.todo_comments", .low),
        (some "react.security", .medium)] := by
    have hnote : (foundIn [Rule.todoComments] page "src/a.jsx").map
        (fun f => (f.rule.asText?, f.severity))
          = [(some "quality.todo_comments", .low)] := by
      simpa using congrArg (List.map fun told =>
        (told.1, told.2.1)) foundIn_todo_page
    rw [Finding.map_of_unmapped (fun _ => rfl) hfindings]
    simp only [learn, hscanned, List.flatMap_cons, List.flatMap_nil,
      List.append_nil, foundIn_append,
      foundIn_forFrameworks_page react_mem_detect_page, List.map_take,
      List.map_append, hnote, check_react_page]
    rfl
  refine ⟨_, result, hfresh, ?_, hsaid, fun f hf hadmits => ?_⟩
  · rw [auditor_audit, hresult]
  · obtain ⟨⟨id, hid, henabled⟩, -⟩ := hadmits
    have hmem : (f.rule.asText?, f.severity) ∈
        [(some "quality.todo_comments", Severity.low),
          (some "react.security", .medium)] :=
      hsaid ▸ List.mem_map_of_mem hf
    rw [hid] at hmem
    simp only [Value.asText?, List.mem_cons, Prod.mk.injEq, Option.some.injEq,
      List.not_mem_nil, or_false] at hmem
    rcases hmem with ⟨rfl, -⟩ | ⟨rfl, -⟩
    · cases henabled
    · cases henabled

end Auditor

end SourceAudit
