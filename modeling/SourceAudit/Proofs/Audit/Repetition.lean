/-
One auditor that audits the same project again and again.

Each audit adds the rules of the frameworks it detects, whether the auditor has
them or not (`afterRepeats_eq`). No rule stands twice among the first ones, so
the ids stay apart exactly as long as nothing is added, or what is added once is
new. What the rules find in a file grows with them: the findings before the
limit are those of the first rules and then, once for each audit, those of the
added ones (`foundIn_repeats`). So a later audit reports what the first did
exactly if in each file the added rules find nothing or the limit is reached at
the first audit.
-/
import SourceAudit.Proofs.Audit.Selection

namespace SourceAudit

-- =============================================================== lists

namespace Repeats

variable {α β : Type}

/-- A list and copies of another have no member twice exactly if the other is
empty, or there is one copy and its members are new. -/
theorem nodup_append_copies_iff {xs ys : List α} (hxs : xs.Nodup)
    (hys : ys.Nodup) (n : Nat) :
    (xs ++ (List.replicate (n + 1) ys).flatten).Nodup
      ↔ ys = [] ∨ n = 0 ∧ ∀ y ∈ ys, y ∉ xs := by
  rw [List.nodup_append']
  cases n with
  | zero =>
      have hone : (List.replicate (0 + 1) ys).flatten = ys := by simp
      rw [hone]
      constructor
      · rintro ⟨-, -, hnew⟩
        exact .inr ⟨rfl, fun y hy hmem => hnew hmem hy⟩
      · rintro (rfl | ⟨-, hnew⟩)
        · exact ⟨hxs, hys, List.disjoint_nil_right xs⟩
        · exact ⟨hxs, hys, fun y hmem hy => hnew y hy hmem⟩
  | succ n =>
      -- the first two copies share their members
      rw [List.replicate_succ, List.flatten_cons, List.replicate_succ,
        List.flatten_cons]
      constructor
      · rintro ⟨-, hcopies, -⟩
        refine .inl (List.eq_nil_iff_forall_not_mem.2 fun y hy => ?_)
        exact (List.nodup_append'.1 hcopies).2.2 hy (List.mem_append_left _ hy)
      · rintro (rfl | ⟨hzero, -⟩)
        · simpa using hxs
        · cases hzero

/-- More at the end makes no difference within a limit exactly if it is nothing,
or the limit has been reached before. -/
theorem take_append_eq_take_iff (xs ys : List α) (most : Nat) :
    (xs ++ ys).take most = xs.take most ↔ ys = [] ∨ most ≤ xs.length := by
  constructor
  · intro h
    have hlength := congrArg List.length h
    simp only [List.length_take, List.length_append] at hlength
    rw [← List.length_eq_zero_iff]
    omega
  · rintro (rfl | h)
    · rw [List.append_nil]
    · exact List.take_append_of_le_length h

theorem length_flatMap_le {paths : List α} {f g : α → List β}
    (h : ∀ p ∈ paths, (f p).length ≤ (g p).length) :
    (paths.flatMap f).length ≤ (paths.flatMap g).length := by
  induction paths with
  | nil => exact Nat.le_refl _
  | cons p rest ih =>
      have hfirst := h p List.mem_cons_self
      have hrest := ih fun q hq => h q (List.mem_cons_of_mem p hq)
      simp only [List.flatMap_cons, List.length_append]
      omega

/-- Blocks that are no shorter give the same list exactly if each is the
same. -/
theorem flatMap_eq_iff {paths : List α} {f g : α → List β}
    (h : ∀ p ∈ paths, (f p).length ≤ (g p).length) :
    paths.flatMap g = paths.flatMap f ↔ ∀ p ∈ paths, g p = f p := by
  refine ⟨fun heq => ?_, fun heq => List.flatMap_congr heq⟩
  induction paths with
  | nil => exact fun p hp => absurd hp List.not_mem_nil
  | cons p rest ih =>
      have hrest : ∀ q ∈ rest, (f q).length ≤ (g q).length :=
        fun q hq => h q (List.mem_cons_of_mem p hq)
      have hfirst := h p List.mem_cons_self
      have hlater := length_flatMap_le hrest
      rw [List.flatMap_cons, List.flatMap_cons] at heq
      have htotal := congrArg List.length heq
      rw [List.length_append, List.length_append] at htotal
      obtain ⟨hp, hsame⟩ := List.append_inj heq (by omega)
      intro q hq
      rcases List.mem_cons.1 hq with rfl | hq
      · exact hp
      · exact ih hrest hsame q hq

end Repeats

namespace Auditor

-- =============================================================== rules

/-- The rules an audit of a target adds. -/
def addedBy (tree : FileTree) (target : String) : List Rule :=
  Rule.forFrameworks ((Framework.detect tree target).map Prod.fst)

/-- The auditor after so many audits of one target. -/
def afterRepeats (a : Auditor) (tree : FileTree) (target : String) (n : Nat) :
    Auditor :=
  a.afterAudits (List.replicate n (tree, target))

/-- Each audit adds the same rules again. -/
theorem afterRepeats_eq (a : Auditor) (tree : FileTree) (target : String)
    (n : Nat) :
    a.afterRepeats tree target n
      = ⟨a.settings,
        a.rules ++ (List.replicate n (addedBy tree target)).flatten⟩ := by
  induction n generalizing a with
  | zero =>
      rw [List.replicate_zero, List.flatten_nil, List.append_nil]
      rfl
  | succ n ih =>
      have hstep : a.afterRepeats tree target (n + 1)
          = (a.learn (Framework.detect tree target)).afterRepeats tree
            target n := by
        have hfirst : a.afterRepeats tree target (n + 1)
            = (a.audit true tree target).2.afterRepeats tree target n := rfl
        rw [hfirst, auditor_audit]
      rw [hstep, ih, List.replicate_succ, List.flatten_cons,
        ← List.append_assoc]
      rfl

theorem learn_afterRepeats (a : Auditor) (tree : FileTree) (target : String)
    (n : Nat) :
    (a.afterRepeats tree target n).learn (Framework.detect tree target)
      = a.afterRepeats tree target (n + 1) := by
  rw [afterRepeats_eq, afterRepeats_eq, List.replicate_succ',
    List.flatten_append, List.flatten_singleton, ← List.append_assoc]
  rfl

theorem nodup_ids_all : (Rule.all.map Rule.id).Nodup := by
  decide

theorem rules_sublist {c : AuditSettings} {a : Auditor}
    (h : ofSettings c = .ok a) : a.rules.Sublist Rule.all := by
  have hrules := rules_ofSettings h
  unfold AuditSettings.rules at hrules
  split at hrules
  · exact sublist_of_filterRules hrules
  · exact sublist_of_filterRules hrules

theorem addedBy_sublist (tree : FileTree) (target : String) :
    (addedBy tree target).Sublist Rule.all :=
  List.filter_sublist.trans (List.sublist_append_right _ _)

-- ============================================================ findings

/-- What rules find that stand there once and others so many times. -/
theorem foundIn_repeats (rules added : List Rule) (n : Nat) (tree : FileTree)
    (path : String) :
    foundIn (rules ++ (List.replicate n added).flatten) tree path
      = foundIn rules tree path ++
        (List.replicate n (foundIn added tree path)).flatten := by
  rw [foundIn_append]
  congr 1
  induction n with
  | zero => rfl
  | succ n ih =>
      rw [List.replicate_succ, List.flatten_cons, foundIn_append, ih,
        List.replicate_succ, List.flatten_cons]

/-- Further copies of added rules find the same again. -/
theorem foundIn_copies (rules added : List Rule) (n : Nat) (tree : FileTree)
    (path : String) :
    foundIn (rules ++ (List.replicate (n + 2) added).flatten) tree path
      = foundIn (rules ++ added) tree path
        ++ (List.replicate (n + 1) (foundIn added tree path)).flatten := by
  rw [foundIn_repeats, List.replicate_succ, List.flatten_cons,
    ← List.append_assoc, ← foundIn_append]

/-- Within the limit, more copies of rules find no more in a file exactly if
they find nothing there, or the limit is reached with the first. -/
theorem take_foundIn_repeats_iff (rules added : List Rule) (n most : Nat)
    (tree : FileTree) (path : String) :
    (foundIn (rules ++ (List.replicate (n + 2) added).flatten) tree
      path).take most
        = (foundIn (rules ++ added) tree path).take most
      ↔ foundIn added tree path = [] ∨
        most ≤ (foundIn rules tree path).length +
          (foundIn added tree path).length := by
  have hnone : (List.replicate (n + 1) (foundIn added tree path)).flatten = []
      ↔ foundIn added tree path = [] := by
    simp [List.flatten_eq_nil_iff]
  rw [foundIn_copies, Repeats.take_append_eq_take_iff, hnone, foundIn_append,
    List.length_append]

/-- Auditors with the same settings that find the same in each file give the
same result. -/
theorem auditWith_of_same {a b : Auditor} (hsettings : a.settings = b.settings)
    {most : Nat} (hmost : b.settings.maxPerFile.asWhole? = some (most : Int))
    (hscans : ∀ path, ∃ s, b.settings.scansFile path = .ok s) {tree : FileTree}
    {target : String} (hsame : ∀ path ∈ scannedAt b.settings tree target,
      (foundIn a.rules tree path).take most
        = (foundIn b.rules tree path).take most)
    (found : Framework.Detections) :
    a.auditWith true tree target found
      = b.auditWith true tree target found := by
  obtain ⟨files, hfiles, hscanned⟩ := filesToScan_ok hscans tree target
  have hpaths : a.filesToScan tree target = .ok files := by
    rw [filesToScan, filesOf, hsettings]
    exact hfiles
  have hscan : a.scanFiles tree files = b.scanFiles tree files := by
    rw [scanFiles_eq (hsettings ▸ hmost), scanFiles_eq hmost, hscanned,
      List.flatMap_congr hsame]
  rw [auditWith_eq, auditWith_eq, hpaths, hfiles]
  simp only [bind, Except.bind, hscan]

/-- The findings of a later audit and those of the first. -/
theorem findings_repeated_iff {a : Auditor} (hrules : a.Catalogued) {most : Nat}
    (hmost : a.settings.maxPerFile.asWhole? = some (most : Int))
    (hscans : ∀ path, ∃ b, a.settings.scansFile path = .ok b) (tree : FileTree)
    (target : String) (n : Nat) :
    ∃ first later,
      (a.audit true tree target).1 = .ok first ∧
      ((a.afterRepeats tree target (n + 1)).audit true tree target).1
        = .ok later ∧
      (later.findings = first.findings ↔
        ∀ path ∈ scannedAt a.settings tree target,
          foundIn (addedBy tree target) tree path = [] ∨
            most ≤ (foundIn a.rules tree path).length
              + (foundIn (addedBy tree target) tree path).length) := by
  have hfew :
      (⟨a.settings, a.rules ++ addedBy tree target⟩ : Auditor).Catalogued :=
    hrules.learn (Framework.detect tree target)
  have hmany :
    (⟨a.settings,
      a.rules ++ (List.replicate (n + 2) (addedBy tree target)).flatten⟩ :
        Auditor).Catalogued := by
    rw [← afterRepeats_eq]
    exact (catalogued_afterAudits hrules _).2
  obtain ⟨first, hfirst, hfirstSaid, -⟩ :=
    auditWith_ok hfew hmost hscans tree target
    (Framework.detect tree target)
  obtain ⟨later, hlater, hlaterSaid, -⟩ :=
    auditWith_ok hmany hmost hscans tree target
    (Framework.detect tree target)
  refine ⟨first, later, ?_, ?_, ?_⟩
  · rw [auditor_audit]
    exact hfirst
  · rw [auditor_audit, learn_afterRepeats, afterRepeats_eq]
    exact hlater
  -- file by file: within the limit, does a further copy of the added rules find
  -- more?
  simp only [← take_foundIn_repeats_iff a.rules (addedBy tree target) n most]
  constructor
  · intro hsame
    have hblocks :=
      hlaterSaid.symm.trans
        ((congrArg (List.map Finding.unmapped) hsame).trans hfirstSaid)
    refine (Repeats.flatMap_eq_iff fun path _ => ?_).1 hblocks
    simp only [foundIn_copies, List.length_take, List.length_append]
    omega
  · intro hsame
    have hequal := auditWith_of_same
      (a := ⟨a.settings,
        a.rules ++ (List.replicate (n + 2) (addedBy tree target)).flatten⟩)
      (b := ⟨a.settings, a.rules ++ addedBy tree target⟩) rfl hmost hscans hsame
      (Framework.detect tree target)
    rw [hlater, hfirst] at hequal
    rw [Except.ok.inj hequal]

/-- What repeated audits of one project do. The rules grow by those of the
detected frameworks each time. Their ids stay apart after every audit exactly if
none are added, and after the first audit also if those added are new. If none
are added, every audit is the first one again. Otherwise a later audit gives the
findings of the first exactly if in each file the added rules find nothing, or
the limit is reached at the first audit. -/
theorem repeated_audits {c : AuditSettings} {fresh : Auditor}
    (hfresh : ofSettings c = .ok fresh) (tree : FileTree) (target : String) :
    (∀ n, (fresh.afterRepeats tree target n).rules
      = fresh.rules ++ (List.replicate n (addedBy tree target)).flatten) ∧
    (∀ n, ((fresh.afterRepeats tree target (n + 1)).rules.map Rule.id).Nodup
      ↔ addedBy tree target = [] ∨
        n = 0 ∧ ∀ rule ∈ addedBy tree target,
        rule.id ∉ fresh.rules.map Rule.id) ∧
    (addedBy tree target = [] → ∀ n,
      (fresh.afterRepeats tree target n).audit true tree target
        = fresh.audit true tree target) ∧
    ∀ most : Nat, c.maxPerFile.asWhole? = some (most : Int) →
      AuditSettings.AreUsable c.excludePatterns →
      AuditSettings.AreUsable c.includePatterns →
      ∀ n, ∃ first later,
        (fresh.audit true tree target).1 = .ok first ∧
        ((fresh.afterRepeats tree target (n + 1)).audit true tree target).1
          = .ok later ∧
        (later.findings = first.findings ↔
          ∀ path ∈ scannedAt c tree target,
            foundIn (addedBy tree target) tree path = [] ∨
              most ≤ (foundIn fresh.rules tree path).length
                + (foundIn (addedBy tree target) tree path).length) := by
  obtain ⟨rfl, hcatalogued⟩ := catalogued_ofSettings hfresh
  refine ⟨fun n => ?_, fun n => ?_, fun hnone n => ?_,
    fun most hmost hexclude hinclude n => ?_⟩
  · rw [afterRepeats_eq]
  · have hids : ((fresh.afterRepeats tree target (n + 1)).rules).map Rule.id
        = fresh.rules.map Rule.id
          ++ (List.replicate (n + 1)
            ((addedBy tree target).map Rule.id)).flatten := by
      rw [afterRepeats_eq, List.map_append, List.map_flatten,
        List.map_replicate]
    have hfirst := ((rules_sublist hfresh).map Rule.id).nodup nodup_ids_all
    have hadded :=
      ((addedBy_sublist tree target).map Rule.id).nodup nodup_ids_all
    rw [hids, Repeats.nodup_append_copies_iff hfirst hadded,
      List.map_eq_nil_iff]
    simp only [List.forall_mem_map]
  · have hsame : fresh.afterRepeats tree target n = fresh := by
      rw [afterRepeats_eq, hnone]
      simp
    rw [hsame]
  · exact findings_repeated_iff hcatalogued hmost
      (AuditSettings.scansFile_ok hexclude hinclude)
      tree target n

/-- Settings that ask for one rule of a framework. -/
def reactOnly : AuditSettings :=
  { AuditSettings.usual with
    enabledRules := Value.texts ["react.security"]
    includePatterns := Value.texts ["*.jsx"] }

theorem ofSettings_reactOnly :
    ofSettings reactOnly = .ok ⟨reactOnly, [Rule.react.rule]⟩ := rfl

theorem react_mem_addedBy_page : Rule.react.rule ∈ addedBy page "." := by
  refine List.mem_filter.2 ⟨by simp [Rule.frameworkRules], ?_⟩
  exact List.contains_iff_mem.2 react_mem_detect_page

theorem scannedAt_page : scannedAt reactOnly page "." = ["src/a.jsx"] := by
  have hscans : (reactOnly.scansFile "src/a.jsx").toOption
      = some true := by decide
  have hfolder : page.isFile "." = false := rfl
  rw [scannedAt, hfolder, scannedIn, filesBelow_page]
  simp [hscans]
  rfl

/-- The rule that is asked for and the rules that are added have one and the
same remark. -/
theorem foundIn_page :
    (foundIn [Rule.react.rule] page "src/a.jsx").map (fun f => f.rule.asText?)
        = [some "react.security"] ∧
      (foundIn (addedBy page ".") page "src/a.jsx").map
        (fun f => f.rule.asText?) = [some "react.security"] := by
  have hsecrets : (Rule.nodeSecrets.check true "src/a.jsx"
      (sourceAt page "src/a.jsx")).isEmpty = true := by
    rw [sourceAt_page, Rule.check_of_lines rfl (lines_page _)]
    decide +kernel
  have hremark : (Rule.react.rule.check true "src/a.jsx"
      (sourceAt page "src/a.jsx")).map (fun f => f.rule.asText?)
        = [some "react.security"] := by
    simpa using congrArg (List.map Prod.fst) check_react_page
  refine ⟨by rw [foundIn_single rfl, hremark], ?_⟩
  rw [addedBy, foundIn_forFrameworks_page react_mem_detect_page,
    List.map_append, hremark, List.isEmpty_iff.1 hsecrets]
  simp

/-- On a project with a framework the ids clash after every audit, and no later
audit gives the findings of the first. -/
theorem repeated_audits_page :
    ofSettings reactOnly = .ok ⟨reactOnly, [Rule.react.rule]⟩ ∧
      ∀ n,
        ¬(((Auditor.mk reactOnly [Rule.react.rule]).afterRepeats page "."
          (n + 1)).rules.map Rule.id).Nodup ∧
        ∃ first later,
          ((Auditor.mk reactOnly [Rule.react.rule]).audit true page ".").1
            = .ok first ∧
          (((Auditor.mk reactOnly [Rule.react.rule]).afterRepeats page "."
            (n + 1)).audit true page ".").1 = .ok later ∧
          later.findings ≠ first.findings := by
  obtain ⟨-, hids, -, hfindings⟩ :=
    repeated_audits ofSettings_reactOnly page "."
  refine ⟨ofSettings_reactOnly, fun n => ⟨?_, ?_⟩⟩
  · rw [hids]
    rintro (hnone | ⟨-, hnew⟩)
    · have hmem := react_mem_addedBy_page
      rw [hnone] at hmem
      cases hmem
    · exact hnew Rule.react.rule react_mem_addedBy_page (by simp)
  · obtain ⟨first, later, hfirst, hlater, hiff⟩ := hfindings 50 rfl
      AuditSettings.areUsable_usual.1 areUsable_pages n
    refine ⟨first, later, hfirst, hlater, fun hsame => ?_⟩
    have hscanned : "src/a.jsx" ∈ scannedAt reactOnly page "." := by
      rw [scannedAt_page]
      exact List.mem_singleton_self _
    have hlimit := hiff.1 hsame "src/a.jsx" hscanned
    have hone := congrArg List.length foundIn_page.1
    have hadded := congrArg List.length foundIn_page.2
    simp only [List.length_map, List.length_singleton] at hone hadded
    rw [hone, hadded, ← List.length_eq_zero_iff, hadded] at hlimit
    omega

/-- The remark of one rule about one line is reported once more with every
audit, up to the limit, and already twice by the first. -/
theorem repeated_audits_pile_up :
    ∃ fresh, ofSettings reactOnly = .ok fresh ∧ ∀ n,
      (∃ result,
        ((fresh.afterRepeats page "." n).audit true page ".").1 = .ok result ∧
        result.findings.map (fun f => f.rule.asText?)
          = List.replicate (min 50 (n + 2)) (some "react.security")) ∧
      ¬((fresh.afterRepeats page "." (n + 1)).rules.map Rule.id).Nodup := by
  refine ⟨_, ofSettings_reactOnly, fun n => ⟨?_, ?_⟩⟩
  · have hrules := (catalogued_ofSettings ofSettings_reactOnly).2
    have hafter :=
      (catalogued_afterAudits hrules (List.replicate (n + 1) (page, "."))).2
    have hmost : reactOnly.maxPerFile.asWhole? = some ((50 : Nat) : Int) := rfl
    have hscans :=
      AuditSettings.scansFile_ok (c := reactOnly)
        AuditSettings.areUsable_usual.1 areUsable_pages
    rw [← afterRepeats, afterRepeats_eq] at hafter
    obtain ⟨result, hresult, hfindings, -⟩ :=
      auditWith_ok hafter hmost hscans page "."
      (Framework.detect page ".")
    refine ⟨result, ?_, ?_⟩
    · rw [auditor_audit, learn_afterRepeats, afterRepeats_eq]
      exact hresult
    · obtain ⟨hone, hadded⟩ := foundIn_page
      rw [Finding.map_of_unmapped (fun _ => rfl) hfindings, scannedAt_page,
        List.flatMap_singleton, List.map_take, foundIn_repeats, List.map_append,
        hone, List.map_flatten, List.map_replicate, hadded,
        List.flatten_replicate_singleton, List.singleton_append,
        ← List.replicate_succ, List.take_replicate]
  · intro hnodup
    rw [afterRepeats_eq, List.replicate_succ, List.flatten_cons,
      List.singleton_append, List.map_cons, List.nodup_cons] at hnodup
    have hagain : Rule.react.rule ∈ addedBy page "."
        ++ (List.replicate n (addedBy page ".")).flatten :=
      List.mem_append_left _ react_mem_addedBy_page
    exact hnodup.1 (List.mem_map_of_mem hagain)

end Auditor

end SourceAudit
