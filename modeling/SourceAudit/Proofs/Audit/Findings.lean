/-
What an audit of a folder finds: file by file in the order of the walk, and in
each file rule by rule, the first findings up to the limit.

Nothing that files hold can make an audit fail or leave a file out. Where
patterns are texts with parts, each path can be compared with them
(`AuditSettings.scansFile_ok`); where the limit is a whole number, cutting
findings off at it cannot fail (`limitTo_whole`); so every file gives its
findings and none gives an error (`scanFiles_eq`). Mapping findings to standards
cannot fail either, because an auditor has rules of the catalogue only, however
many audits it has been through (`catalogued_afterAudits`), and it changes
nothing that a rule has said (`Finding.MapsTo.unmapped`).

All of this takes findings to have columns. Where they have none no rule can
report anything, and every file is as if it were clean (`scanFile_columnless`).
-/
import SourceAudit.Audit.Basic
import SourceAudit.Proofs.FileTree
import SourceAudit.Proofs.Rule.Keyed

namespace SourceAudit

/-- Steps one after another succeed only if each does. -/
theorem Outcome.bind_eq_ok {α β : Type} {x : Outcome α}
    {next : α → Outcome β} {b : β} (h : x >>= next = .ok b) :
    ∃ a, x = .ok a ∧ next a = .ok b := by
  cases x with
  | error why => cases h
  | ok a => exact ⟨a, rfl, h⟩

/-- Several steps succeed if each does. -/
theorem Outcome.exists_mapM {α β : Type} {step : α → Outcome β} {xs : List α}
    (h : ∀ x ∈ xs, ∃ y, step x = .ok y) : ∃ ys, xs.mapM step = .ok ys := by
  induction xs with
  | nil => exact ⟨[], rfl⟩
  | cons x rest ih =>
      rw [List.forall_mem_cons] at h
      obtain ⟨y, hy⟩ := h.1
      obtain ⟨ys, hys⟩ := ih h.2
      exact ⟨y :: ys, by rw [List.mapM_cons, hy, hys]; rfl⟩

/-- Whatever several steps give, one of them gives. -/
theorem Outcome.exists_of_mem_mapM {α β : Type} {step : α → Outcome β}
    {xs : List α} {ys : List β} (h : xs.mapM step = .ok ys) {y : β}
    (hy : y ∈ ys) : ∃ x ∈ xs, step x = .ok y := by
  induction xs generalizing ys with
  | nil =>
      obtain rfl := Except.ok.inj h
      cases hy
  | cons x rest ih =>
      rw [List.mapM_cons] at h
      obtain ⟨first, hfirst, h⟩ := Outcome.bind_eq_ok h
      obtain ⟨others, hothers, h⟩ := Outcome.bind_eq_ok h
      obtain rfl := Except.ok.inj h
      rcases List.mem_cons.1 hy with rfl | hy
      · exact ⟨x, List.mem_cons_self, hfirst⟩
      · obtain ⟨x', hx', hstep⟩ := ih hothers hy
        exact ⟨x', List.mem_cons_of_mem x hx', hstep⟩

-- ============================================================ settings

namespace AuditSettings

/-- Patterns that every path can be compared with: texts, none of them without
parts. -/
def AreUsable (patterns : Value) : Prop :=
  ∃ texts : List String, patterns = Value.texts texts ∧ ∀ p ∈ texts,
    Path.parts p ≠ []

theorem fits_ok {pattern : String} (h : Path.parts pattern ≠ [])
    (path : String) : ∃ b, Path.fits pattern path = .ok b := by
  unfold Path.fits
  split
  · rename_i hparts
    exact absurd hparts h
  · simp only
    split
    · exact ⟨_, rfl⟩
    · exact ⟨_, rfl⟩

theorem fitsAny_ok {texts : List String} (h : ∀ p ∈ texts, Path.parts p ≠ [])
    (path : String) : ∃ b, fitsAny path (texts.map .text) = .ok b := by
  induction texts with
  | nil => exact ⟨false, rfl⟩
  | cons p rest ih =>
      obtain ⟨b, hb⟩ := fits_ok (h p List.mem_cons_self) path
      obtain ⟨later, hlater⟩ := ih fun q hq => h q (List.mem_cons_of_mem p hq)
      have hpattern : fitsPattern path (.text p) = .ok b := hb
      rw [List.map_cons, fitsAny, hpattern, hlater]
      cases b with
      | true => exact ⟨true, rfl⟩
      | false => exact ⟨later, rfl⟩

/-- Whether a file is scanned can be told of every path. -/
theorem scansFile_ok {c : AuditSettings}
    (hexclude : AreUsable c.excludePatterns)
    (hinclude : AreUsable c.includePatterns) (path : String) :
    ∃ b, c.scansFile path = .ok b := by
  obtain ⟨excluded, hexcluded, hpartsE⟩ := hexclude
  obtain ⟨included, hincluded, hpartsI⟩ := hinclude
  obtain ⟨out, hout⟩ := fitsAny_ok hpartsE path
  obtain ⟨within, hwithin⟩ := fitsAny_ok hpartsI path
  unfold scansFile
  rw [hexcluded, hincluded]
  simp only [Value.texts, Value.each, hout, hwithin, bind, Except.bind]
  cases out with
  | true => exact ⟨false, rfl⟩
  | false =>
      simp only [Bool.false_eq_true, if_false]
      split
      · exact ⟨within, rfl⟩
      · exact ⟨true, rfl⟩

/-- The usual patterns are usable. -/
theorem areUsable_usual : AreUsable usual.excludePatterns ∧
    AreUsable usual.includePatterns :=
  ⟨⟨_, rfl, by decide⟩, ⟨_, rfl, by decide⟩⟩

end AuditSettings

-- ============================================================= mapping

namespace Finding

/-- A finding without the standards and labels that were attached to it. -/
def unmapped (f : Finding) : Finding :=
  { f with standards := none, frameworks := none }

/-- Attaching standards changes nothing that the rule has said. -/
theorem MapsTo.unmapped {f m : Finding} (h : f.MapsTo m) :
    m.unmapped = f.unmapped := by
  obtain ⟨standards, -, rfl⟩ := h
  rfl

/-- What is told of findings without their standards is told of them with
these. -/
theorem map_of_unmapped {α : Type} {told : Finding → α}
    (h : ∀ f, told f.unmapped = told f) {findings bare : List Finding}
    (hbare : findings.map unmapped = bare) :
    findings.map told = bare.map told := by
  rw [← hbare, List.map_map]
  exact List.map_congr_left fun f _ => (h f).symm

end Finding

/-- Findings whose standards can be looked up are mapped one by one, and
counted. -/
theorem withCompliance_ok {findings : List Finding}
    (h : ∀ f ∈ findings, f.Mappable) :
    ∃ mapped summary, withCompliance findings = .ok (mapped, summary) ∧
      mapped.map Finding.unmapped = findings.map Finding.unmapped := by
  obtain ⟨mapped, hmapM, hmapped⟩ := mapM_withStandards h
  obtain ⟨summary, hcount, -⟩ :=
    ComplianceSummary.summarises_nil.foldlM_countFinding h hmapped
  refine ⟨mapped, summary, ?_, ?_⟩
  · simp [withCompliance, ComplianceSummary.ofFindings, hmapM, hcount, bind,
      Except.bind, pure, Except.pure]
  · clear hmapM hcount h
    induction hmapped with
    | nil => rfl
    | cons hm _ ih => rw [List.map_cons, List.map_cons, hm.unmapped, ih]

namespace Auditor

-- =============================================================== files

/-- Paths about which a condition can always be told. -/
theorem filterPaths_ok {p : String → Outcome Bool} {paths : List String}
    (h : ∀ path ∈ paths, ∃ b, p path = .ok b) :
    filterPaths p paths
      = .ok (paths.filter fun path => (p path).toOption == some true) := by
  induction paths with
  | nil => rfl
  | cons path rest ih =>
      obtain ⟨b, hb⟩ := h path List.mem_cons_self
      rw [filterPaths, hb, ih fun q hq => h q (List.mem_cons_of_mem path hq)]
      cases b with
      | true => simp [hb, Except.toOption, bind, Except.bind, pure, Except.pure]
      | false => simp [hb, Except.toOption, bind, Except.bind]

/-- A limit that is a whole number cuts findings off there. -/
theorem limitTo_whole {limit : Value} {most : Nat}
    (h : limit.asWhole? = some (most : Int)) (findings : List Finding) :
    limitTo limit findings = .ok (findings.take most) := by
  have hover : isOver findings.length limit
      = .ok (decide (most < findings.length)) := by
    cases limit with
    | bool b => simp [isOver, h]
    | int n => simp [isOver, h]
    | _ => simp [Value.asWhole?] at h
  unfold limitTo
  rw [hover, h]
  by_cases hmore : most < findings.length
  · simp [hmore, bind, Except.bind, pure, Except.pure]
  · have hall : findings.take most = findings :=
      List.take_of_length_le (by omega)
    simp [hmore, hall, bind, Except.bind, pure, Except.pure]

/-- What rules find in a file: rule by rule, of those that apply to it. -/
def foundIn (rules : List Rule) (tree : FileTree) (path : String) :
    List Finding :=
  (rules.filter (Rule.appliesTo · path)).flatMap fun rule =>
    rule.check true path (sourceAt tree path)

theorem foundIn_append (rules more : List Rule) (tree : FileTree)
    (path : String) :
    foundIn (rules ++ more) tree path = foundIn rules tree path ++
      foundIn more tree path := by
  simp only [foundIn, List.filter_append, List.flatMap_append]

theorem foundIn_single {rule : Rule} {path : String}
    (h : rule.appliesTo path = true) (tree : FileTree) :
    foundIn [rule] tree path = rule.check true path (sourceAt tree path) := by
  simp only [foundIn, List.filter_singleton, h, cond_true,
    List.flatMap_singleton]

theorem scanFile_eq {a : Auditor} {most : Nat}
    (h : a.settings.maxPerFile.asWhole? = some (most : Int)) (tree : FileTree)
    (path : String) :
    a.scanFile true tree path
      = .ok (if (Language.ofPath? path).isSome then
        (foundIn a.rules tree path).take most else []) := by
  unfold scanFile
  rw [limitTo_whole h]
  cases Language.ofPath? path <;> rfl

/-- Every file gives its first findings, and none gives an error. -/
theorem scanFiles_eq {a : Auditor} {most : Nat}
    (h : a.settings.maxPerFile.asWhole? = some (most : Int)) (tree : FileTree)
    (paths : List String) :
    a.scanFiles tree paths
      = ((paths.filter fun path => (Language.ofPath? path).isSome).flatMap
          fun path => (foundIn a.rules tree path).take most, []) := by
  induction paths with
  | nil => rfl
  | cons path rest ih =>
      rw [scanFiles, scanFile_eq h, ih, List.filter_cons]
      by_cases hlanguage : (Language.ofPath? path).isSome = true
      · rw [if_pos hlanguage, if_pos hlanguage, List.flatMap_cons, gather]
      · rw [if_neg hlanguage, if_neg hlanguage, gather, List.nil_append]

-- =============================================================== rules

/-- An auditor with rules of the catalogue only. -/
def Catalogued (a : Auditor) : Prop := ∀ rule ∈ a.rules, rule ∈ Rule.all

/-- Of rules of which a condition can be told, those are kept that meet it. -/
theorem filterRules_cons_eq_ok {p : String → Outcome Bool} {rule : Rule}
    {rest kept : List Rule}
    (h : AuditSettings.filterRules p (rule :: rest) = .ok kept) :
    ∃ b more, p rule.id = .ok b ∧ AuditSettings.filterRules p rest = .ok more ∧
      kept = if b then rule :: more else more := by
  rw [AuditSettings.filterRules] at h
  obtain ⟨b, hb, h⟩ := Outcome.bind_eq_ok h
  cases b with
  | true =>
      obtain ⟨more, hmore, hkept⟩ := Outcome.bind_eq_ok h
      exact ⟨true, more, hb, hmore, (Except.ok.inj hkept).symm⟩
  | false => exact ⟨false, kept, hb, h, rfl⟩

theorem sublist_of_filterRules {p : String → Outcome Bool}
    {rules kept : List Rule}
    (h : AuditSettings.filterRules p rules = .ok kept) :
    kept.Sublist rules := by
  induction rules generalizing kept with
  | nil =>
      obtain rfl := Except.ok.inj h
      exact List.Sublist.refl []
  | cons rule rest ih =>
      obtain ⟨b, more, -, hmore, rfl⟩ := filterRules_cons_eq_ok h
      cases b with
      | true => exact (ih hmore).cons_cons rule
      | false => exact (ih hmore).cons rule

/-- A new auditor has its settings, and rules of the catalogue. -/
theorem catalogued_ofSettings {c : AuditSettings} {a : Auditor}
    (h : ofSettings c = .ok a) : a.settings = c ∧ a.Catalogued := by
  unfold ofSettings at h
  cases hrules : c.rules with
  | error why => simp [hrules, bind, Except.bind] at h
  | ok rules =>
      obtain rfl : ⟨c, rules⟩ = a := by
        simpa [hrules, bind, Except.bind, pure, Except.pure] using h
      refine ⟨rfl, fun rule hrule => ?_⟩
      unfold AuditSettings.rules at hrules
      split at hrules
      · exact (sublist_of_filterRules hrules).subset hrule
      · exact (sublist_of_filterRules hrules).subset hrule

theorem mem_all_of_mem_forFrameworks {names : List String} {rule : Rule}
    (h : rule ∈ Rule.forFrameworks names) : rule ∈ Rule.all :=
  List.mem_append_right _ (List.mem_filter.1 h).1

theorem Catalogued.learn {a : Auditor} (h : a.Catalogued)
    (found : Framework.Detections) : (a.learn found).Catalogued := by
  intro rule hrule
  rcases List.mem_append.1 hrule with hold | hnew
  · exact h rule hold
  · exact mem_all_of_mem_forFrameworks hnew

/-- An audit adds the rules of the frameworks it detects; none are added for
none. -/
theorem auditor_audit (a : Auditor) (gathers : Bool) (tree : FileTree)
    (target : String) :
    a.audit gathers tree target
      = ((a.learn (Framework.detect tree target)).auditWith gathers tree target
          (Framework.detect tree target),
          a.learn (Framework.detect tree target)) := by
  have hlearn : (if (Framework.detect tree target).isEmpty then a
      else a.learn (Framework.detect tree target))
        = a.learn (Framework.detect tree target) := by
    cases hfound : Framework.detect tree target with
    | nil =>
        have hnone : Rule.forFrameworks [] = [] := by
          refine List.filter_eq_nil_iff.2 fun rule _ => ?_
          cases rule.framework <;> simp
        simp [learn, hnone]
    | cons d rest => rfl
  unfold audit
  simp only [hlearn]

/-- The auditor after audits, one after another. -/
def afterAudits (a : Auditor) (targets : List (FileTree × String)) : Auditor :=
  targets.foldl (fun a t => (a.audit true t.1 t.2).2) a

/-- However many audits an auditor has been through, it keeps its settings and
has rules of the catalogue only. -/
theorem catalogued_afterAudits {a : Auditor} (h : a.Catalogued)
    (targets : List (FileTree × String)) :
    (a.afterAudits targets).settings = a.settings ∧
      (a.afterAudits targets).Catalogued := by
  induction targets generalizing a with
  | nil => exact ⟨rfl, h⟩
  | cons t rest ih =>
      have hafter : (a.afterAudits (t :: rest))
          = (a.audit true t.1 t.2).2.afterAudits rest := rfl
      rw [hafter, auditor_audit]
      exact ih (h.learn (Framework.detect t.1 t.2))

-- ============================================================== audits

theorem mappable_of_mem_foundIn {rules : List Rule}
    (h : ∀ rule ∈ rules, rule ∈ Rule.all) {tree : FileTree} {path : String}
    {f : Finding} (hf : f ∈ foundIn rules tree path) : f.Mappable := by
  obtain ⟨rule, hrule, hcheck⟩ := List.mem_flatMap.1 hf
  exact Rule.mappable_of_mem_check (h rule (List.mem_filter.1 hrule).1) hcheck

theorem unmapped_of_mem_foundIn {rules : List Rule} {tree : FileTree}
    {path : String} {f : Finding} (hf : f ∈ foundIn rules tree path) :
    f.unmapped = f ∧ f.file.asText? = some path := by
  obtain ⟨rule, -, hcheck⟩ := List.mem_flatMap.1 hf
  obtain ⟨s, r, -, rfl⟩ := Rule.remark_of_mem_check hcheck
  exact ⟨rfl, rfl⟩

/-- The files of a folder that are scanned: those the settings let through, in a
known language. -/
def scannedIn (c : AuditSettings) (tree : FileTree) (folder : String) :
    List String :=
  (tree.filesBelow folder).filter fun path =>
    (c.scansFile path).toOption == some true && (Language.ofPath? path).isSome

/-- The files a target has to be scanned: itself if it is a file in a known
language, or those of a folder. -/
def scannedAt (c : AuditSettings) (tree : FileTree) (target : String) :
    List String :=
  if tree.isFile target then [target].filter fun path =>
    (Language.ofPath? path).isSome
  else scannedIn c tree target

/-- The paths an audit goes through. -/
def filesToScan (a : Auditor) (tree : FileTree) (target : String) :
    Outcome (List String) :=
  if tree.isFile target then .ok [target] else a.filesOf tree target

theorem filesToScan_ok {a : Auditor}
    (hscans : ∀ path, ∃ b, a.settings.scansFile path = .ok b) (tree : FileTree)
    (target : String) :
    ∃ files, a.filesToScan tree target = .ok files ∧
      files.filter (fun path => (Language.ofPath? path).isSome)
        = scannedAt a.settings tree target := by
  unfold filesToScan scannedAt
  split
  · exact ⟨[target], rfl, rfl⟩
  · refine ⟨_, filterPaths_ok fun path _ => hscans path, ?_⟩
    rw [List.filter_filter]
    exact List.filter_congr fun path _ => Bool.and_comm _ _

/-- The steps of an audit where results can be gathered. -/
theorem auditWith_eq (a : Auditor) (tree : FileTree) (target : String)
    (found : Framework.Detections) :
    a.auditWith true tree target found
      = a.filesToScan tree target >>= fun files =>
        withCompliance (a.scanFiles tree files).1 >>= fun mapped =>
          .ok ⟨found, mapped.1, (a.scanFiles tree files).2, mapped.2⟩ := by
  unfold auditWith filesToScan
  simp only [Bool.not_true, Bool.false_and, Bool.false_eq_true, if_false]
  split
  · rfl
  · rfl

/-- An audit gives its findings and no errors. -/
theorem auditWith_ok {a : Auditor} (hrules : a.Catalogued) {most : Nat}
    (hmost : a.settings.maxPerFile.asWhole? = some (most : Int))
    (hscans : ∀ path, ∃ b, a.settings.scansFile path = .ok b) (tree : FileTree)
    (target : String) (found : Framework.Detections) :
    ∃ result, a.auditWith true tree target found = .ok result ∧
      result.findings.map Finding.unmapped
        = (scannedAt a.settings tree target).flatMap
            (fun path => (foundIn a.rules tree path).take most) ∧
      result.errors = [] := by
  obtain ⟨files, hfiles, hscanned⟩ := filesToScan_ok hscans tree target
  have hscan := scanFiles_eq hmost tree files
  rw [hscanned] at hscan
  have hmember : ∀ f ∈ (scannedAt a.settings tree target).flatMap
      (fun path => (foundIn a.rules tree path).take most),
      ∃ path, f ∈ foundIn a.rules tree path := by
    intro f hf
    obtain ⟨path, -, htaken⟩ := List.mem_flatMap.1 hf
    exact ⟨path, List.mem_of_mem_take htaken⟩
  obtain ⟨mapped, summary, hmapped, hsaid⟩ :=
    withCompliance_ok fun f hf => by
      obtain ⟨path, hfound⟩ := hmember f hf
      exact mappable_of_mem_foundIn hrules hfound
  refine ⟨⟨found, mapped, [], summary⟩, ?_, ?_, rfl⟩
  · simp [auditWith_eq, hfiles, hscan, hmapped, bind, Except.bind]
  · have hbare : ∀ f ∈ (scannedAt a.settings tree target).flatMap
        (fun path => (foundIn a.rules tree path).take most), f.unmapped
          = id f := by
      intro f hf
      obtain ⟨path, hfound⟩ := hmember f hf
      exact (unmapped_of_mem_foundIn hfound).1
    rw [hsaid, List.map_congr_left hbare, List.map_id]

/-- An audit of a folder gives its findings and no errors. -/
theorem auditWith_folder {a : Auditor} (hrules : a.Catalogued) {most : Nat}
    (hmost : a.settings.maxPerFile.asWhole? = some (most : Int))
    (hscans : ∀ path, ∃ b, a.settings.scansFile path = .ok b) {tree : FileTree}
    {folder : String} (hfolder : tree.isFile folder = false)
    (found : Framework.Detections) :
    ∃ result, a.auditWith true tree folder found = .ok result ∧
      result.findings.map Finding.unmapped
        = (scannedIn a.settings tree folder).flatMap
            (fun path => (foundIn a.rules tree path).take most) ∧
      result.errors = [] := by
  have hscanned : scannedAt a.settings tree folder
      = scannedIn a.settings tree folder := by
    rw [scannedAt, hfolder]
    rfl
  rw [← hscanned]
  exact auditWith_ok hrules hmost hscans tree folder found

/-- Of blocks of findings, one for each file met and none of them over the
limit, those about a file are at most as many as the limit allows for each time
it is met. -/
theorem countP_blocks_le {files : List String} {block : String → List Finding}
    {most : Nat} (hlength : ∀ file, (block file).length ≤ most)
    (habout : ∀ file, ∀ f ∈ block file, f.file.asText? = some file)
    (path : String) :
    (files.flatMap block).countP (fun f => f.file.asText? == some path)
      ≤ most * files.count path := by
  induction files with
  | nil => simp
  | cons file rest ih =>
      rw [List.flatMap_cons, List.countP_append, List.count_cons]
      by_cases hfile : file = path
      · have hblock : (block file).countP (fun f => f.file.asText? == some path)
            ≤ most :=
          Nat.le_trans List.countP_le_length (hlength file)
        rw [if_pos (beq_iff_eq.2 hfile), Nat.mul_add, Nat.mul_one]
        omega
      · have hblock : (block file).countP (fun f => f.file.asText? == some path)
            = 0 := by
          refine List.countP_eq_zero.2 fun f hf => ?_
          simpa [habout file f hf] using hfile
        rw [if_neg (mt beq_iff_eq.1 hfile), hblock, Nat.zero_add]
        exact ih

/-- What an audit of a folder finds. However often the auditor has been used,
its rules grow by those of the frameworks detected in the folder; the findings
are, file by file in the order of the walk, the first ones up to the limit of
what these rules find, rule by rule; no file is an error; and no file has more
findings than the limit. -/
theorem audit_folder_findings {c : AuditSettings} {fresh : Auditor}
    (hfresh : ofSettings c = .ok fresh) {most : Nat}
    (hmost : c.maxPerFile.asWhole? = some (most : Int))
    (hexclude : AuditSettings.AreUsable c.excludePatterns)
    (hinclude : AuditSettings.AreUsable c.includePatterns)
    (earlier : List (FileTree × String)) {tree : FileTree} {folder : String}
    (hfolder : tree.isFile folder = false) :
    ∃ result rules,
      (fresh.afterAudits earlier).audit true tree folder = (.ok result,
        ⟨c, rules⟩) ∧
      rules = (fresh.afterAudits earlier).rules
        ++ Rule.forFrameworks ((Framework.detect tree folder).map Prod.fst) ∧
      result.findings.map Finding.unmapped
        = (scannedIn c tree folder).flatMap (fun path =>
          (foundIn rules tree path).take most) ∧
      result.errors = [] ∧
      (tree.Proper → ∀ path,
        result.findings.countP (fun f => f.file.asText? == some path)
          ≤ most) := by
  obtain ⟨hsettings, hcatalogued⟩ := catalogued_ofSettings hfresh
  obtain ⟨hsame, hrules⟩ := catalogued_afterAudits hcatalogued earlier
  rw [hsettings] at hsame
  have hlearned :
    (fresh.afterAudits earlier).learn (Framework.detect tree folder)
      = ⟨c, (fresh.afterAudits earlier).rules
          ++ Rule.forFrameworks
            ((Framework.detect tree folder).map Prod.fst)⟩ := by
    rw [learn, hsame]
  have hlearnedRules := hrules.learn (Framework.detect tree folder)
  rw [hlearned] at hlearnedRules
  obtain ⟨result, hresult, hfindings, herrors⟩ :=
    auditWith_folder hlearnedRules hmost
    (AuditSettings.scansFile_ok hexclude hinclude) hfolder
      (Framework.detect tree folder)
  refine ⟨result, _, ?_, rfl, hfindings, herrors, fun hproper path => ?_⟩
  · rw [auditor_audit, hlearned, hresult]
  · -- what a finding is about does not change when standards are attached
    have hcount : result.findings.countP (fun f => f.file.asText? == some path)
        = (result.findings.map Finding.unmapped).countP
            (fun f => f.file.asText? == some path) := by
      rw [List.countP_map]
      rfl
    have honce : (scannedIn c tree folder).count path ≤ 1 :=
      List.nodup_iff_count_le_one.1
        ((hproper.nodup_filesBelow folder).filter _) path
    rw [hcount, hfindings]
    refine Nat.le_trans (countP_blocks_le (fun file =>
      List.length_take_le most _) (fun file f hf => ?_) path) ?_
    · exact (unmapped_of_mem_foundIn (List.mem_of_mem_take hf)).2
    · calc most * (scannedIn c tree folder).count path
          ≤ most * 1 := Nat.mul_le_mul_left most honce
        _ = most := Nat.mul_one most

/-- A folder with a file that is neither text nor code, and one in no known
language. -/
def brokenFolder : FileTree :=
  (FileTree.empty.withFile "a.py" (Text.encode "(\x00\n# TODO\n# BUG\n" ++
    [0xFF])).withFile
    "b.md" (Text.encode "# TODO\n")

/-- Settings that ask for one rule, and for one finding a file. -/
def oneNote : AuditSettings :=
  { AuditSettings.usual with
    enabledRules := Value.texts ["quality.todo_comments"]
    maxPerFile := .int 1 }

theorem filesBelow_brokenFolder : brokenFolder.filesBelow "."
    = ["a.py", "b.md"] := by
  have hbelow : brokenFolder.below "."
      = [("a.py", .file (Text.encode "(\x00\n# TODO\n# BUG\n" ++ [0xFF])),
         ("b.md", .file (Text.encode "# TODO\n"))] :=
    FileTree.below_eq rfl rfl (by decide)
  rw [FileTree.filesBelow, hbelow]
  rfl

theorem proper_brokenFolder : brokenFolder.Proper := by
  refine ⟨by decide, ?_⟩
  have hplaces : brokenFolder.entries.map Prod.fst
      = [["work", "a.py"], ["work", "b.md"]] := rfl
  have hnames : Path.IsName "work" ∧ Path.IsName "a.py" ∧ Path.IsName "b.md" :=
    ⟨⟨by decide, by decide, by decide⟩, ⟨by decide, by decide, by decide⟩,
      ⟨by decide, by decide, by decide⟩⟩
  intro e he n hn
  have hplace : e.1 ∈ [["work", "a.py"], ["work", "b.md"]] :=
    hplaces ▸ List.mem_map_of_mem he
  aesop

/-- Both notes to do in the broken file are found. -/
theorem foundIn_brokenFolder :
    (foundIn [Rule.todoComments] brokenFolder "a.py").map
        (fun f => (f.rule.asText?, f.line.asInt?))
      = [(some "quality.todo_comments", some 2),
        (some "quality.todo_comments", some 3)] := by
  have hsource : sourceAt brokenFolder "a.py"
      = some ⟨Text.encode "(\x00\n# TODO\n# BUG\n" ++ [0xFF]⟩ := rfl
  have hlines : Reading.fileLines.lines
      (Source.mk (Text.encode "(\x00\n# TODO\n# BUG\n" ++ [0xFF])).text
        = ["(\x00\n", "# TODO\n", "# BUG\n"] := by
    decide +kernel
  rw [foundIn_single rfl, hsource, Rule.check_of_lines rfl hlines]
  decide +kernel

/-- The broken file is scanned like any other: its first note to do is found and
the second is over the limit. -/
theorem audit_folder_findings_broken :
    ofSettings oneNote = .ok ⟨oneNote, [Rule.todoComments]⟩ ∧
      brokenFolder.isFile "." = false ∧
      ∃ result after,
        (Auditor.mk oneNote [Rule.todoComments]).audit true brokenFolder "."
          = (.ok result, after) ∧
        result.findings.map (fun f => (f.rule.asText?, f.line.asInt?))
          = [(some "quality.todo_comments", some 2)] ∧
        result.errors = [] ∧
        ∀ path,
          result.findings.countP (fun f => f.file.asText? == some path)
            ≤ 1 := by
  have hfresh : ofSettings oneNote = .ok ⟨oneNote, [Rule.todoComments]⟩ := rfl
  have hfolder : brokenFolder.isFile "." = false := by decide
  have hone : oneNote.maxPerFile.asWhole? = some ((1 : Nat) : Int) := rfl
  obtain ⟨result, rules, haudit, hrules, hfindings, herrors, hfew⟩ :=
    audit_folder_findings hfresh hone ⟨_, rfl, by decide +kernel⟩
      ⟨_, rfl, by decide +kernel⟩ [] hfolder
  refine ⟨hfresh, hfolder, result, _, haudit, ?_, herrors,
    hfew proper_brokenFolder⟩
  have hscanned : scannedIn oneNote brokenFolder "." = ["a.py"] := by
    rw [scannedIn, filesBelow_brokenFolder]
    decide +kernel
  have hfirst : (Auditor.afterAudits ⟨oneNote, [Rule.todoComments]⟩ []).rules
      = [Rule.todoComments] := rfl
  rw [Finding.map_of_unmapped (fun _ => rfl) hfindings, hscanned,
    hrules, hfirst, List.flatMap_singleton, List.map_take, foundIn_append,
    List.map_append, foundIn_brokenFolder]
  rfl

-- ===================================================== without columns

/-- Rules that cannot report anything find nothing in any file. -/
theorem scanFile_columnless {a : Auditor} {most : Nat}
    (h : a.settings.maxPerFile.asWhole? = some (most : Int)) (tree : FileTree)
    (path : String) : a.scanFile false tree path = .ok [] := by
  have hnone : ((a.rules.filter (Rule.appliesTo · path)).flatMap fun rule =>
      rule.check false path (sourceAt tree path)) = [] := by
    simp only [Rule.check_columnless, List.flatMap_eq_nil_iff, implies_true]
  unfold scanFile
  rw [hnone, limitTo_whole h, List.take_nil]
  split <;> rfl

/-- Where findings have no columns, nothing is ever reported. A rule that would
report something fails at the first thing it has to say, on the column it hands
over, and one that would not does not fail; either way its check gives nothing,
and so does every file that an auditor scans. -/
theorem nothing_reported_without_columns :
    (∀ (rule : Rule) (path : String) (source : Source),
      rule.attempt false path source
        = ([], if rule.check true path (some source) = [] then none
            else some (.unknownEntry "Issue.__init__" "column_number"))) ∧
    (∀ (rule : Rule) (path : String) (source : Option Source),
      rule.check false path source = []) ∧
    ∀ (a : Auditor) (most : Nat),
      a.settings.maxPerFile.asWhole? = some (most : Int) →
      ∀ (tree : FileTree) (path : String),
        a.scanFile false tree path = .ok [] := by
  refine ⟨fun rule path source => ?_, fun rule path source =>
    rule.check_columnless path source, fun a most hmost tree path =>
      scanFile_columnless hmost tree path⟩
  rw [Rule.attempt_columnless, Rule.check_eq_map]
  simp only [List.isEmpty_iff, List.map_eq_nil_iff]

/-- The notes to do in the broken file are found if findings have columns, and
lost otherwise. -/
theorem nothing_reported_without_columns_notes :
    (Rule.todoComments.check true "a.py"
      (sourceAt brokenFolder "a.py")).length = 2 ∧
      Rule.todoComments.check false "a.py" (sourceAt brokenFolder "a.py") = [] ∧
      (∃ source, sourceAt brokenFolder "a.py" = some source ∧
        (Rule.todoComments.attempt false "a.py" source).2.map Fault.message
          = some
            "Issue.__init__() got an unexpected keyword argument 'column_number'") ∧
      (Auditor.mk oneNote [Rule.todoComments]).scanFile false brokenFolder
        "a.py" = .ok [] := by
  obtain ⟨hattempt, hcheck, hscan⟩ := nothing_reported_without_columns
  have hfound :
      (Rule.todoComments.check true "a.py"
        (sourceAt brokenFolder "a.py")).length = 2 := by
    have hnotes := congrArg List.length foundIn_brokenFolder
    rw [List.length_map, foundIn_single rfl] at hnotes
    exact hnotes
  refine ⟨hfound, hcheck _ _ _, ⟨_, rfl, ?_⟩, hscan _ 1 rfl _ _⟩
  rw [hattempt, if_neg]
  · decide
  · intro hempty
    have hzero := congrArg List.length hempty
    exact absurd (hfound.symm.trans hzero) (by decide)

end Auditor

end SourceAudit
