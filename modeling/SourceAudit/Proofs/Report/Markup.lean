/-
What becomes of the texts that a page is told.

A page could hold each text back from being markup by writing a reference for
every character that is markup (`escape`). References are longer than what they
stand for, so a page of which no text was changed by that had none to change: a
page agrees with its escaped form just if its texts are free of markup
(`text_eq_escaped_iff`). The page of a report is not escaped, and the texts it
is told are those of the findings and errors, each as often as it is there to be
told (`texts_page_perm`). Hence a finding whose text is markup adds that markup
to the page (`page_takes_markup`).
-/
import SourceAudit.Proofs.Entries
import SourceAudit.Report.Html
import Mathlib.Data.List.Dedup

namespace SourceAudit.Report

-- ============================================================ escaping

/-- The characters that are markup, each with the reference that stands for
it. -/
def references : List (Char × String) :=
  [('<', "&lt;"), ('>', "&gt;"), ('&', "&amp;"), ('"', "&#34;"),
    ('\'', "&#39;")]

/-- A character as it is written where it is not to be markup. -/
def escapeChar (c : Char) : List Char :=
  match references.find? fun e => e.1 == c with
  | some e => e.2.toList
  | none => [c]

/-- A text as it is written where nothing of it is to be markup. -/
def escape (s : String) : String :=
  String.ofList (s.toList.flatMap escapeChar)

/-- A text without markup. -/
def IsPlain (s : String) : Prop :=
  ∀ c ∈ s.toList, ∀ e ∈ references, e.1 ≠ c

theorem escapeChar_of_ne {c : Char} (h : ∀ e ∈ references, e.1 ≠ c) :
    escapeChar c = [c] := by
  have hnone : (references.find? fun e => e.1 == c) = none := by
    rw [List.find?_eq_none]
    exact fun e he hc => h e he (beq_iff_eq.1 hc)
  rw [escapeChar, hnone]

/-- A reference is longer than the character it stands for. -/
theorem one_lt_length_escapeChar {e : Char × String} (he : e ∈ references) :
    1 < (escapeChar e.1).length := by
  have hall : ∀ e ∈ references, 1 < (escapeChar e.1).length := by decide
  exact hall e he

theorem one_le_length_escapeChar (c : Char) : 1 ≤ (escapeChar c).length := by
  by_cases h : ∀ e ∈ references, e.1 ≠ c
  · rw [escapeChar_of_ne h]
    exact Nat.le_refl 1
  · push Not at h
    obtain ⟨e, he, rfl⟩ := h
    exact Nat.le_of_lt (one_lt_length_escapeChar he)

theorem length_le_flatMap_escapeChar (cs : List Char) :
    cs.length ≤ (cs.flatMap escapeChar).length := by
  induction cs with
  | nil => exact Nat.le_refl 0
  | cons c cs ih =>
      have hc := one_le_length_escapeChar c
      rw [List.flatMap_cons, List.length_append, List.length_cons]
      omega

theorem length_le_escape (s : String) : s.length ≤ (escape s).length := by
  rw [escape, String.length_ofList, ← String.length_toList]
  exact length_le_flatMap_escapeChar s.toList

/-- A plain text is its own escaped form. -/
theorem escape_of_isPlain {s : String} (h : IsPlain s) : escape s = s := by
  have hchars : s.toList.flatMap escapeChar = s.toList := by
    rw [List.flatMap_congr fun c hc => escapeChar_of_ne (h c hc)]
    simp
  rw [escape, hchars, String.ofList_toList]

/-- A text that is no longer when it is escaped is plain. -/
theorem isPlain_of_length_escape {s : String}
    (h : (escape s).length ≤ s.length) : IsPlain s := by
  rw [escape, String.length_ofList, ← String.length_toList] at h
  unfold IsPlain
  generalize s.toList = cs at h
  induction cs with
  | nil => exact fun _ hc => absurd hc List.not_mem_nil
  | cons c cs ih =>
      rw [List.flatMap_cons, List.length_append, List.length_cons] at h
      have hfirst := one_le_length_escapeChar c
      have hrest := length_le_flatMap_escapeChar cs
      rw [List.forall_mem_cons]
      refine ⟨?_, ih (by omega)⟩
      rintro e he rfl
      have hlong := one_lt_length_escapeChar he
      omega

-- =============================================================== parts

/-- Whether a slot takes a text of a finding or an error; the others take
numbers. -/
def Slot.isOpen : Slot → Bool
  | .total | .line => false
  | _ => true

/-- A part as it would stand in the page if no text were to be markup. -/
def Part.escaped : Part → String
  | .markup text => text
  | .told slot text => if slot.isOpen then escape text else text

/-- The text of a page if no text it is told were to be markup. -/
def escaped (parts : List Part) : String :=
  String.join (parts.map Part.escaped)

/-- The text that a part tells for a slot. -/
def Part.told? (slot : Slot) : Part → Option String
  | .markup _ => none
  | .told s text => if s = slot then some text else none

/-- The texts that a page is told for a slot. -/
def texts (slot : Slot) (parts : List Part) : List String :=
  parts.filterMap (Part.told? slot)

@[simp] theorem text_cons (p : Part) (parts : List Part) :
    text (p :: parts) = p.text ++ text parts := by
  simp [text]

@[simp] theorem escaped_cons (p : Part) (parts : List Part) :
    escaped (p :: parts) = p.escaped ++ escaped parts := by
  simp [escaped]

theorem Part.length_text_le (p : Part) : p.text.length ≤ p.escaped.length := by
  cases p with
  | markup text => exact Nat.le_refl _
  | told slot text =>
      rw [Part.text, Part.escaped]
      split
      · exact length_le_escape text
      · exact Nat.le_refl _

theorem length_text_le (parts : List Part) :
    (text parts).length ≤ (escaped parts).length := by
  induction parts with
  | nil => exact Nat.le_refl 0
  | cons p parts ih =>
      have hp := p.length_text_le
      rw [text_cons, escaped_cons, String.length_append, String.length_append]
      omega

/-- A part whose text, if it takes one of a finding or an error, is free of
markup. -/
def Part.IsPlain : Part → Prop
  | .markup _ => True
  | .told slot text => slot.isOpen = true → Report.IsPlain text

theorem Part.escaped_of_isPlain {p : Part} (h : p.IsPlain) :
    p.escaped = p.text := by
  cases p with
  | markup text => rfl
  | told slot text =>
      rw [Part.escaped, Part.text]
      split
      · exact escape_of_isPlain (h ‹_›)
      · rfl

theorem Part.isPlain_of_length {p : Part}
    (h : p.escaped.length ≤ p.text.length) : p.IsPlain := by
  cases p with
  | markup text => exact trivial
  | told slot text =>
      intro hopen
      rw [Part.escaped, if_pos hopen] at h
      exact isPlain_of_length_escape h

/-- A page is escaped just if all its parts are plain. -/
theorem text_eq_escaped_iff_parts (parts : List Part) :
    text parts = escaped parts ↔ ∀ p ∈ parts, p.IsPlain := by
  constructor
  · intro h
    induction parts with
    | nil => exact fun _ hp => absurd hp List.not_mem_nil
    | cons p parts ih =>
        rw [text_cons, escaped_cons] at h
        -- neither the first part nor the others can have become longer
        have hlength := congrArg String.length h
        rw [String.length_append, String.length_append] at hlength
        have hfirst := p.length_text_le
        have hrest := length_text_le parts
        have hplain : p.IsPlain := Part.isPlain_of_length (by omega)
        rw [Part.escaped_of_isPlain hplain] at h
        rw [List.forall_mem_cons]
        exact ⟨hplain, ih ((String.append_right_inj _).1 h)⟩
  · intro h
    have hmap : parts.map Part.text = parts.map Part.escaped :=
      List.map_congr_left fun p hp => (Part.escaped_of_isPlain (h p hp)).symm
    rw [text, escaped, hmap]

theorem mem_texts {slot : Slot} {s : String} {parts : List Part} :
    s ∈ texts slot parts ↔ Part.told slot s ∈ parts := by
  rw [texts, List.mem_filterMap]
  constructor
  · rintro ⟨p, hp, htold⟩
    cases p with
    | markup text => simp [Part.told?] at htold
    | told slot' text =>
        simp only [Part.told?, Option.ite_none_right_eq_some,
          Option.some.injEq] at htold
        obtain ⟨rfl, rfl⟩ := htold
        exact hp
  · exact fun hp => ⟨_, hp, by simp [Part.told?]⟩

/-- A page is escaped just if all texts of findings and errors that it is told
are plain. -/
theorem text_eq_escaped_iff (parts : List Part) :
    text parts = escaped parts
      ↔ ∀ slot, slot.isOpen = true → ∀ s ∈ texts slot parts, IsPlain s := by
  rw [text_eq_escaped_iff_parts]
  constructor
  · exact fun h slot hopen s hs => h _ (mem_texts.1 hs) hopen
  · intro h p hp
    cases p with
    | markup text => exact trivial
    | told slot text => exact fun hopen => h slot hopen text (mem_texts.2 hp)

/-- What a page is told stands in it as it is. -/
theorem exists_text_of_told {slot : Slot} {s : String} {parts : List Part}
    (h : s ∈ texts slot parts) : ∃ before after, text parts = before ++ s ++
      after := by
  obtain ⟨first, rest, rfl⟩ := List.append_of_mem (mem_texts.1 h)
  refine ⟨text first, text rest, ?_⟩
  simp [text, Part.text, String.append_assoc]

-- =============================================================== texts

@[simp] theorem texts_nil (slot : Slot) : texts slot [] = [] := rfl

@[simp] theorem texts_markup (slot : Slot) (s : String) (parts : List Part) :
    texts slot (.markup s :: parts) = texts slot parts := rfl

@[simp] theorem texts_told (slot slot' : Slot) (s : String)
    (parts : List Part) :
    texts slot (.told slot' s :: parts)
      = if slot' = slot then s :: texts slot parts else texts slot parts := by
  rw [texts, List.filterMap_cons, Part.told?]
  split <;> split <;> simp_all [texts]

@[simp] theorem texts_append (slot : Slot) (first rest : List Part) :
    texts slot (first ++ rest) = texts slot first ++ texts slot rest :=
  List.filterMap_append

theorem texts_flatMap {α : Type} (slot : Slot) (items : List α)
    (block : α → List Part) :
    texts slot (items.flatMap block) = items.flatMap fun a =>
      texts slot (block a) := by
  induction items with
  | nil => rfl
  | cons a items ih =>
      rw [List.flatMap_cons, texts_append, ih, List.flatMap_cons]

/-- The text of a value that is shown only if it is there. -/
def shownIf (v : Value) : List String :=
  if v.isTruthy then [v.shown] else []

theorem texts_partsIf (slot slot' : Slot) (v : Value) (before after : String) :
    texts slot (partsIf slot' v before after) = if slot' = slot then shownIf v
      else [] := by
  unfold partsIf shownIf
  split
  · simp
  · simp

/-- What a finding tells for a slot. -/
def toldBy (f : Finding) : Slot → List String
  | .rule => [f.rule.shown]
  | .line => shownIf f.line
  | .message => [f.message.shown]
  | .snippet => shownIf f.snippet
  | .remediation => shownIf f.remediation
  | .total | .file | .failedFile | .reason => []

theorem texts_findingBlock (slot : Slot) (f : Finding) :
    texts slot (findingBlock f) = toldBy f slot := by
  unfold findingBlock
  simp only [texts_append, texts_partsIf, texts_markup, texts_told, texts_nil]
  cases slot <;> simp [toldBy]

/-- What a file that could not be scanned tells for a slot. -/
def toldByError (e : String × Value) : Slot → List String
  | .failedFile => [e.1]
  | .reason => [e.2.shown]
  | _ => []

theorem texts_errorBlock (slot : Slot) (e : String × Value) :
    texts slot (errorBlock e.1 e.2) = toldByError e slot := by
  unfold errorBlock
  simp only [texts_markup, texts_told, texts_nil]
  cases slot <;> rfl

theorem texts_errorSection (slot : Slot) (errs : List (String × Value)) :
    texts slot (errorSection errs) = errs.flatMap fun e =>
      toldByError e slot := by
  unfold errorSection
  split
  · rename_i hempty
    rw [List.isEmpty_iff.1 hempty]
    rfl
  · simp [texts_flatMap, texts_errorBlock]

-- =============================================================== files

/-- The files that come up, each at its first place, after those that were
seen. -/
theorem files_foldl (names seen : List String) (h : seen.Nodup) :
    let all := names.foldl
      (fun seen file => if seen.contains file then seen else seen ++
        [file]) seen
    all.Nodup ∧ ∀ file, file ∈ all ↔ file ∈ seen ∨ file ∈ names := by
  induction names generalizing seen with
  | nil => exact ⟨h, fun file => by simp⟩
  | cons name names ih =>
      rw [List.foldl_cons]
      split
      · rename_i hseen
        have hmem : name ∈ seen := by simpa using hseen
        obtain ⟨hnodup, hall⟩ := ih seen h
        refine ⟨hnodup, fun file => ?_⟩
        rw [hall, List.mem_cons]
        constructor
        · rintro (hfile | hfile)
          · exact .inl hfile
          · exact .inr (.inr hfile)
        · rintro (hfile | rfl | hfile)
          · exact .inl hfile
          · exact .inl hmem
          · exact .inr hfile
      · rename_i hnew
        have hnotMem : name ∉ seen := by simpa using hnew
        have hnodup' : (seen ++ [name]).Nodup := by
          refine List.nodup_append.2 ⟨h, List.nodup_singleton name, ?_⟩
          rintro a ha b hb rfl
          exact hnotMem (List.mem_singleton.1 hb ▸ ha)
        obtain ⟨hnodup, hall⟩ := ih (seen ++ [name]) hnodup'
        refine ⟨hnodup, fun file => ?_⟩
        rw [hall, List.mem_append, List.mem_singleton, List.mem_cons, or_assoc]

theorem nodup_files (found : List Finding) : (files found).Nodup :=
  (files_foldl _ [] List.nodup_nil).1

theorem mem_files {found : List Finding} {file : String} :
    file ∈ files found ↔ file ∈ found.map fun f => f.file.shown := by
  have hall :=
    (files_foldl (found.map fun f => f.file.shown) [] List.nodup_nil).2 file
  rw [files, hall]
  simp

/-- Each file comes up once. -/
theorem files_perm (found : List Finding) :
    (files found).Perm (found.map fun f => f.file.shown).dedup := by
  rw [List.perm_ext_iff_of_nodup (nodup_files found) (List.nodup_dedup _)]
  intro file
  rw [mem_files, List.mem_dedup]

theorem byLevel_perm (found : List Finding) : (byLevel found).Perm found :=
  List.mergeSort_perm found _

/-- File by file and level by level, each finding comes up once. -/
theorem findings_perm (found : List Finding) :
    ((files found).flatMap fun file =>
      byLevel (found.filter fun f => f.file.shown == file)).Perm found := by
  have hgroups :=
    Entries.perm_filter_of_keys (nodup_files found) (fun f =>
      f.file.shown) found
  rw [List.filter_eq_self.2 fun f hf => by
    simpa using mem_files.2 (List.mem_map_of_mem hf)] at hgroups
  exact (List.Perm.flatMap_left _ fun file _ => byLevel_perm _).trans hgroups

theorem texts_fileSection (slot : Slot) (file : String) (found : List Finding) :
    texts slot (fileSection file found)
      = (if slot = .file then [file] else []) ++
        (byLevel found).flatMap fun f => toldBy f slot := by
  unfold fileSection
  simp only [texts_append, texts_markup, texts_told, texts_nil, texts_flatMap,
    texts_findingBlock]
  cases slot <;> simp

theorem texts_fileSections_file (found : List Finding) :
    texts .file (fileSections found) = files found := by
  have hsection (file : String) (inFile : List Finding) :
      texts .file (fileSection file inFile) = [file] := by
    rw [texts_fileSection]
    simp [toldBy]
  rw [fileSections, texts_flatMap]
  simp [hsection]

theorem texts_fileSections_perm {slot : Slot} (h : slot ≠ .file)
    (found : List Finding) :
    (texts slot (fileSections found)).Perm (found.flatMap fun f =>
      toldBy f slot) := by
  have hsections : texts slot (fileSections found)
      = ((files found).flatMap fun file =>
          byLevel (found.filter fun f => f.file.shown == file)).flatMap
            fun f => toldBy f slot := by
    rw [fileSections, texts_flatMap, List.flatMap_assoc]
    refine List.flatMap_congr fun file _ => ?_
    rw [texts_fileSection, if_neg h, List.nil_append]
  rw [hsections]
  exact (findings_perm found).flatMap_right _

-- ================================================================ page

/-- A total as it is shown. -/
def shownTotal (totals : Value) (name : String) : String :=
  (totals.get? name).elim "" Value.shown

theorem texts_cards (slot : Slot) (totals : Value) :
    texts slot (cards.flatMap fun (name, mark, title) =>
      card totals name mark title)
      = if slot = .total then cards.map fun c => shownTotal totals c.1
        else [] := by
  have hcard (c : String × String × String) :
      texts slot (card totals c.1 c.2.1 c.2.2)
        = if slot = .total then [shownTotal totals c.1] else [] := by
    unfold card
    simp only [texts_markup, texts_told, texts_nil]
    cases slot <;> rfl
  rw [texts_flatMap, List.flatMap_congr fun c _ => hcard c]
  split
  · exact List.map_eq_flatMap.symm
  · simp

/-- The texts that the page of a report is told for a slot: the path of each
file with findings once, what each finding says for the others, and both texts
of each error. -/
def toldTexts (totals : Value) (r : ReportData) : Slot → List String
  | .total => cards.map fun c => shownTotal totals c.1
  | .file => (r.findings.map fun f => f.file.shown).dedup
  | .rule => r.findings.map fun f => f.rule.shown
  | .line => r.findings.flatMap fun f => shownIf f.line
  | .message => r.findings.map fun f => f.message.shown
  | .snippet => r.findings.flatMap fun f => shownIf f.snippet
  | .remediation => r.findings.flatMap fun f => shownIf f.remediation
  | .failedFile => r.errors.map Prod.fst
  | .reason => r.errors.map fun e => e.2.shown

/-- The page of a report is told just those texts. -/
theorem texts_page_perm (totals : Value) (r : ReportData) (slot : Slot) :
    (texts slot (page totals r.findings r.errors)).Perm
      (toldTexts totals r slot) := by
  have hpage : texts slot (page totals r.findings r.errors)
      = (if slot = .total then cards.map fun c => shownTotal totals c.1
        else []) ++
          texts slot (fileSections r.findings) ++
          r.errors.flatMap fun e => toldByError e slot := by
    unfold page
    simp only [texts_append, texts_markup, texts_nil, texts_cards,
      texts_errorSection, List.nil_append, List.append_nil]
  have hnone {α : Type} (items : List α) :
      items.flatMap (fun _ => ([] : List String)) = [] := by
    simp [List.flatMap_eq_nil_iff]
  rw [hpage]
  by_cases hfile : slot = .file
  · subst hfile
    rw [texts_fileSections_file]
    simpa [toldTexts, toldByError, hnone] using files_perm r.findings
  · refine (((texts_fileSections_perm hfile r.findings).append_left
      _).append_right _).trans ?_
    cases slot with
    | file => exact absurd rfl hfile
    | _ => simp [toldTexts, toldBy, toldByError, List.map_eq_flatMap, hnone]

theorem html_eq {r : ReportData} {totals : Value} (h : r.totals = some totals) :
    html r = .ok (text (page totals r.findings r.errors)) := by
  rw [html, ReportData.theTotals, h]
  rfl

/-- A report shows the texts of its findings and errors as they are. Its page is
made of markup and texts, and the texts are the paths of the files that have
findings, what each finding says, and both texts of each error, none of them
changed; it is the page in which references stand for all markup in them just if
there is none. -/
theorem page_shows_texts_as_given (r : ReportData) {totals : Value}
    (h : r.totals = some totals) :
    html r = .ok (text (page totals r.findings r.errors)) ∧
      (∀ slot,
        (texts slot (page totals r.findings r.errors)).Perm
          (toldTexts totals r slot)) ∧
      (text (page totals r.findings r.errors)
        = escaped (page totals r.findings r.errors) ↔
          ∀ slot, slot.isOpen = true → ∀ s ∈ toldTexts totals r slot,
          IsPlain s) := by
  refine ⟨html_eq h, texts_page_perm totals r, ?_⟩
  rw [text_eq_escaped_iff]
  have hmem (slot : Slot) (s : String) :
      s ∈ texts slot (page totals r.findings r.errors) ↔
        s ∈ toldTexts totals r slot :=
    (texts_page_perm totals r slot).mem_iff
  simp only [hmem]

/-- A finding whose message is a script. -/
def scriptFinding : Finding :=
  ⟨.text "xss", .high, .text "security", .text "<script>alert(1)</script>",
    .text "a.js", .int 1, .null, .text "x", .text "", .real 0.5, .record [],
    none, none⟩

/-- A report with that finding, and with an error that is plain. -/
def scriptReport : ReportData :=
  ⟨[scriptFinding], [("b.js", .text "unreadable")], some (.record []), [], []⟩

theorem not_isPlain_script : ¬ IsPlain "<script>alert(1)</script>" :=
  fun h => h '<' (by decide) ('<', "&lt;") (by decide) rfl

/-- Its page has the script as its one message, and is not the escaped page. -/
theorem page_shows_texts_as_given_script :
    scriptReport.totals = some (.record []) ∧
      html scriptReport
        = .ok
          (text (page (.record []) scriptReport.findings scriptReport.errors)) ∧
      texts .message
        (page (.record []) scriptReport.findings scriptReport.errors)
        = ["<script>alert(1)</script>"] ∧
      text (page (.record []) scriptReport.findings scriptReport.errors)
        ≠ escaped
          (page (.record []) scriptReport.findings scriptReport.errors) := by
  obtain ⟨hhtml, htexts, hescaped⟩ := page_shows_texts_as_given scriptReport rfl
  refine ⟨rfl, hhtml, List.perm_singleton.1 (htexts .message), fun hsame => ?_⟩
  exact not_isPlain_script (hescaped.1 hsame .message rfl _ List.mem_cons_self)

/-- The script becomes part of the page. -/
theorem page_takes_markup :
    (∃ before after, html scriptReport
      = .ok (before ++ "<script>alert(1)</script>" ++ after)) ∧
      html scriptReport
        ≠ .ok
          (escaped
            (page (.record []) scriptReport.findings scriptReport.errors)) := by
  have htold : "<script>alert(1)</script>" ∈
      texts .message
        (page (.record []) scriptReport.findings scriptReport.errors) :=
    (texts_page_perm (.record []) scriptReport .message).mem_iff.2
      List.mem_cons_self
  have hhtml := html_eq (r := scriptReport) rfl
  constructor
  · obtain ⟨before, after, hpage⟩ := exists_text_of_told htold
    exact ⟨before, after, hhtml.trans (congrArg Except.ok hpage)⟩
  · intro hsame
    have hplain :=
      (text_eq_escaped_iff _).1 (Except.ok.inj (hhtml.symm.trans hsame))
    exact not_isPlain_script (hplain .message rfl _ htold)

end SourceAudit.Report
