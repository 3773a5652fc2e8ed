/-
Which files a pattern without a slash leaves out of an audit.

A pattern is compared with the last parts of a path, so one that is a single
name is compared with the last part alone (`Path.fits_of_isName`). The folders
on the way to a file are never asked. Put among the patterns to exclude, such a
pattern turns away the files whose own name matches it and makes no difference
to any other file (`scansFile_insert`); the files of a folder that an audit goes
through are those it would go through without the pattern, less the ones with
such a name (`excludes_by_last_part_alone`). A folder that is to be left out is
scanned (`excluded_folder_scanned`).
-/
import SourceAudit.Proofs.Audit.Selection
import SourceAudit.Proofs.Path.Way

namespace SourceAudit

-- ============================================================ patterns

namespace Path

/-- Whether the last part of a path matches a name pattern. -/
def lastMatches (pattern path : String) : Bool :=
  (parts path).getLast?.any fun part => nameMatches pattern part

/-- A pattern that is one name is compared with the last part of a path. -/
theorem fits_of_isName {pattern : String} (h : IsName pattern) (path : String) :
    fits pattern path = .ok (lastMatches pattern path) := by
  have hparts : parts pattern = [pattern] := by
    simp [parts, root_of_isName h, names_of_isName h]
  unfold fits lastMatches
  simp only [hparts, root_of_isName h]
  rw [← List.head?_reverse]
  cases hgiven : (parts path).reverse with
  | nil => simp [List.reverse_eq_nil_iff.1 hgiven]
  | cons last before =>
      have hlength : 1 ≤ (parts path).length := by
        rw [← List.length_reverse, hgiven]
        simp
      simp [hlength]

theorem nameMatches_empty {name : String} (h : nameMatches "" name = true) :
    name = "" := by
  simpa [nameMatches, readPieces, piecesMatch] using h

theorem nameMatches_dot {name : String} (h : nameMatches "." name = true) :
    name = "." := by
  have hpieces : readPieces (".".length + 1) ".".toList = [.char '.'] := rfl
  unfold nameMatches at h
  rw [hpieces] at h
  rw [← String.toList_inj]
  cases hlist : name.toList with
  | nil => simp [piecesMatch, hlist] at h
  | cons c rest =>
      obtain ⟨hc, hrest⟩ : '.' = c ∧ rest = [] := by
        simpa [piecesMatch, Piece.holds, hlist, Nat.add_comm 1] using h
      rw [← hc, hrest]
      rfl

/-- The parts of a path are neither empty nor a single dot. -/
theorem ne_of_mem_parts {path part : String} (h : part ∈ parts path) :
    part ≠ "" ∧ part ≠ "." := by
  have hname : part ∈ names path → part ≠ "" ∧ part ≠ "." := fun hmem =>
    ⟨(isName_of_mem_names hmem).ne_empty, (isName_of_mem_names hmem).ne_dot⟩
  unfold parts at h
  dsimp only at h
  split at h
  · exact hname h
  · rename_i hroot
    rcases List.mem_cons.1 h with rfl | hmem
    · refine ⟨by simpa using hroot, ?_⟩
      have hroots : ∀ r ∈ roots, r ≠ "." := by decide
      exact hroots _ (root_mem_roots path)
    · exact hname hmem

/-- A pattern without a slash that some part of a path matches is a name. -/
theorem isName_of_nameMatches {pattern path part : String}
    (hslash : '/' ∉ pattern.toList) (hpart : part ∈ parts path)
    (h : nameMatches pattern part = true) : IsName pattern := by
  refine ⟨?_, ?_, hslash⟩
  · rintro rfl
    exact (ne_of_mem_parts hpart).1 (nameMatches_empty h)
  · rintro rfl
    exact (ne_of_mem_parts hpart).2 (nameMatches_dot h)

end Path

-- ============================================================ settings

namespace AuditSettings

/-- Settings with other patterns to exclude. -/
def excluding (c : AuditSettings) (patterns : List Value) : AuditSettings :=
  { c with excludePatterns := .list patterns }

/-- Patterns are tried in order; later ones are tried if none before fits. -/
theorem fitsAny_append (path : String) (before after : List Value) :
    fitsAny path (before ++ after)
      = fitsAny path before >>= fun found => if found then .ok true
        else fitsAny path after := by
  induction before with
  | nil => rfl
  | cons pattern rest ih =>
      rw [List.cons_append, fitsAny, fitsAny, ih]
      cases fitsPattern path pattern with
      | error why => rfl
      | ok b => cases b <;> rfl

/-- What the patterns to exclude leave is asked for as if there were none. -/
theorem scansFile_excluding (c : AuditSettings) (patterns : List Value)
    (path : String) :
    (c.excluding patterns).scansFile path
      = fitsAny path patterns >>= fun out =>
          if out then .ok false else (c.excluding []).scansFile path :=
  rfl

/-- A pattern to exclude that is one name turns a file away by the last part of
its path, unless an earlier pattern is refused; otherwise it makes no
difference. -/
theorem scansFile_insert (c : AuditSettings) {pattern : String}
    (h : Path.IsName pattern) (before after : List Value) (path : String) :
    (c.excluding (before ++ .text pattern :: after)).scansFile path
      = if Path.lastMatches pattern path then
        (fitsAny path before).map fun _ => false
        else (c.excluding (before ++ after)).scansFile path := by
  have hfits : fitsPattern path (.text pattern)
      = .ok (Path.lastMatches pattern path) :=
    Path.fits_of_isName h path
  rw [scansFile_excluding, scansFile_excluding c (before ++ after),
    fitsAny_append, fitsAny_append, fitsAny, hfits]
  cases fitsAny path before with
  | error why => cases Path.lastMatches pattern path <;> rfl
  | ok found => cases found <;> cases Path.lastMatches pattern path <;> rfl

/-- Where it can be told without the pattern whether a file is scanned, it can
be told with it. -/
theorem scansFile_insert_ok {c : AuditSettings} {pattern : String}
    (h : Path.IsName pattern) {before after : List Value} {path : String}
    {b : Bool} (hb : (c.excluding (before ++ after)).scansFile path = .ok b) :
    (c.excluding (before ++ .text pattern :: after)).scansFile path
      = .ok (b && !Path.lastMatches pattern path) := by
  rw [scansFile_insert c h]
  cases hlast : Path.lastMatches pattern path with
  | false => simpa using hb
  | true =>
      rw [scansFile_excluding, fitsAny_append] at hb
      obtain ⟨_, hearlier, -⟩ := Outcome.bind_eq_ok hb
      obtain ⟨found, hfound, -⟩ := Outcome.bind_eq_ok hearlier
      simp [hfound, Except.map]

end AuditSettings

-- ============================================================== audits

namespace Auditor

/-- An auditor with other patterns to exclude. -/
def excluding (a : Auditor) (patterns : List Value) : Auditor :=
  { a with settings := a.settings.excluding patterns }

/-- A condition that asks for more keeps those of the paths that meet it as
well. -/
theorem filterPaths_narrow {p q : String → Outcome Bool} {more : String → Bool}
    (h : ∀ path b, p path = .ok b → q path = .ok (b && more path))
    {paths kept : List String} (hkept : filterPaths p paths = .ok kept) :
    filterPaths q paths = .ok (kept.filter more) := by
  induction paths generalizing kept with
  | nil =>
      obtain rfl := Except.ok.inj hkept
      rfl
  | cons path rest ih =>
      rw [filterPaths] at hkept
      obtain ⟨b, hb, hkept⟩ := Outcome.bind_eq_ok hkept
      rw [filterPaths, h path b hb]
      cases b with
      | false => exact ih hkept
      | true =>
          obtain ⟨later, hlater, hcons⟩ := Outcome.bind_eq_ok hkept
          obtain rfl := Except.ok.inj hcons
          rw [ih hlater, List.filter_cons]
          cases more path <;> rfl

/-- What a pattern to exclude that has no slash does to a path with a part that
matches it, be it a folder or the file itself. If the last part matches, the
file is not scanned (or an earlier pattern without parts is refused). If it does
not, the pattern makes no difference, whatever the folders on the way are
called. So the files of a folder that an audit goes through are those it would
go through without the pattern, less the files whose own name matches it. -/
theorem excludes_by_last_part_alone {pattern path : String}
    (hslash : '/' ∉ pattern.toList)
    (hpart : ∃ part ∈ Path.parts path, Path.nameMatches pattern part = true)
    (a : Auditor) (before after : List Value) :
    ((a.excluding (before ++ .text pattern :: after)).settings.scansFile path
      = if Path.lastMatches pattern path then
          (AuditSettings.fitsAny path before).map fun _ => false
        else (a.excluding (before ++ after)).settings.scansFile path) ∧
    ∀ tree folder files,
      (a.excluding (before ++ after)).filesOf tree folder = .ok files →
      (a.excluding (before ++ .text pattern :: after)).filesOf tree folder
        = .ok (files.filter fun file => !Path.lastMatches pattern file) := by
  obtain ⟨part, hmem, hmatches⟩ := hpart
  have hname : Path.IsName pattern :=
    Path.isName_of_nameMatches hslash hmem hmatches
  refine ⟨a.settings.scansFile_insert hname before after path,
    fun tree folder files hfiles => ?_⟩
  exact filterPaths_narrow (fun file b hb =>
    AuditSettings.scansFile_insert_ok hname hb) hfiles

/-- Settings that ask for notes to do in pages, one a file, and exclude by one
pattern. -/
def pagesExcluding (pattern : String) : AuditSettings :=
  { AuditSettings.usual with
    enabledRules := Value.texts ["quality.todo_comments"]
    excludePatterns := Value.texts [pattern]
    includePatterns := Value.texts ["*.jsx"]
    maxPerFile := .int 1 }

/-- An auditor with such settings. -/
def pageAuditor (pattern : String) : Auditor :=
  ⟨pagesExcluding pattern, [Rule.todoComments]⟩

/-- Both patterns match a part of the page's path. The one that matches its
folder makes no difference, the one that matches its name leaves it out. -/
theorem excludes_by_last_part_alone_page :
    (∀ pattern ∈ ["src", "a.*"], '/' ∉ pattern.toList ∧
      ∃ part ∈ Path.parts "src/a.jsx", Path.nameMatches pattern part = true) ∧
    (pagesExcluding "src").scansFile "src/a.jsx" = .ok true ∧
    (pagesExcluding "a.*").scansFile "src/a.jsx" = .ok false ∧
    (pageAuditor "src").filesOf page "." = .ok ["src/a.jsx"] ∧
    (pageAuditor "a.*").filesOf page "." = .ok [] := by
  have hmatch : ∀ pattern ∈ ["src", "a.*"], '/' ∉ pattern.toList ∧
      ∃ part ∈ Path.parts "src/a.jsx", Path.nameMatches pattern part
        = true := by
    decide
  have hall (pattern : String) :
      ((pageAuditor pattern).excluding ([] ++ [])).filesOf page "."
        = .ok ["src/a.jsx"] := by
    rw [filesOf, filesBelow_page]
    rfl
  obtain ⟨hslash₁, hpart₁⟩ := hmatch "src" (by simp)
  obtain ⟨hslash₂, hpart₂⟩ := hmatch "a.*" (by simp)
  obtain ⟨hscans₁, hfiles₁⟩ :=
    excludes_by_last_part_alone hslash₁ hpart₁ (pageAuditor "src") [] []
  obtain ⟨hscans₂, hfiles₂⟩ :=
    excludes_by_last_part_alone hslash₂ hpart₂ (pageAuditor "a.*") [] []
  exact ⟨hmatch, hscans₁.trans rfl, hscans₂.trans rfl,
    (hfiles₁ _ _ _ (hall "src")).trans rfl,
    (hfiles₂ _ _ _ (hall "a.*")).trans rfl⟩

/-- A file in a folder that the usual settings exclude is scanned, and an audit
that excludes the folder of pages reports what it finds in a page there. -/
theorem excluded_folder_scanned :
    Value.text "node_modules" ∈ AuditSettings.usual.excludePatterns.items ∧
    "node_modules" ∈ Path.parts "node_modules/a.js" ∧
    Path.nameMatches "node_modules" "node_modules" = true ∧
    AuditSettings.usual.scansFile "node_modules/a.js" = .ok true ∧
    ∃ result, ofSettings (pagesExcluding "src") = .ok (pageAuditor "src") ∧
      ((pageAuditor "src").audit true page ".").1 = .ok result ∧
      result.findings.map (fun f => (f.rule.asText?, f.file.asText?))
        = [(some "quality.todo_comments", some "src/a.jsx")] := by
  have hfresh : ofSettings (pagesExcluding "src")
      = .ok (pageAuditor "src") := rfl
  have hfolder : page.isFile "." = false := rfl
  have hmost : (pagesExcluding "src").maxPerFile.asWhole?
      = some ((1 : Nat) : Int) := rfl
  have hscans :=
    AuditSettings.scansFile_ok (c := pagesExcluding "src") ⟨["src"],
        rfl, by decide⟩
    areUsable_pages
  have hlearned :=
    (catalogued_ofSettings hfresh).2.learn (Framework.detect page ".")
  obtain ⟨result, hresult, hfindings, -⟩ :=
    auditWith_folder hlearned hmost hscans hfolder
    (Framework.detect page ".")
  refine ⟨by simp [AuditSettings.usual, Value.texts,
    Value.items], by decide, by decide, rfl, result, hfresh, ?_, ?_⟩
  · rw [auditor_audit, hresult]
  · have hscanned : scannedIn (pagesExcluding "src") page "."
        = ["src/a.jsx"] := by
      rw [scannedIn, filesBelow_page]
      decide
    have hnote : (foundIn [Rule.todoComments] page "src/a.jsx").map
        (fun f => (f.rule.asText?, f.file.asText?))
          = [(some "quality.todo_comments", some "src/a.jsx")] := by
      simpa using congrArg (List.map fun told =>
        (told.1, told.2.2)) foundIn_todo_page
    rw [Finding.map_of_unmapped (fun _ => rfl) hfindings]
    simp only [learn, pageAuditor, hscanned, List.flatMap_cons,
      List.flatMap_nil, List.append_nil, foundIn_append, List.map_take,
      List.map_append, hnote]
    rfl

end Auditor

end SourceAudit
