/-
Which line a finding is about.

A remark has the number and the trimmed text of one of the lines that its rule
reads (`numbersItsLines_of_mem_all`). Where that line stands in the text is then
a matter of counting: after as many breaks as there are lines before it, the
breaks being those of the rule's own way of reading (`Reading.stands_lines`).
Rules that break a text at every line-breaking character therefore number a line
too high by the breaks before it that are no line feeds, and rules that break it
at line feeds alone do not.
-/
import SourceAudit.Proofs.Rule.LineLocal
import SourceAudit.Proofs.Text.Places

namespace SourceAudit

-- ============================================================== breaks

namespace Text

/-- The number of line feeds in a text. -/
def lineFeeds (s : String) : Nat :=
  s.toList.count '\n'

/-- The number of line breaks in a text that are no line feeds. -/
def strayBreaks (s : String) : Nat :=
  s.toList.countP fun c => isLineBreak c && c != '\n'

/-- Whether a text is found on the line with a number, lines being split at line
feeds and numbered from one on. -/
def OnLine (text : String) (number : Nat) (part : String) : Prop :=
  ∃ line, 1 ≤ number ∧ (splitOnChar '\n' text)[number - 1]? = some line ∧
    contains part line = true

theorem countP_isLineBreak (cs : List Char) :
    cs.countP isLineBreak
      = cs.count '\n' + cs.countP fun c => isLineBreak c && c != '\n' := by
  induction cs with
  | nil => rfl
  | cons c rest ih =>
      by_cases hc : c = '\n'
      · have hbreak : isLineBreak c = true := by subst hc; rfl
        rw [List.countP_cons_of_pos hbreak, ih, hc, List.count_cons_self,
          List.countP_cons_of_neg (by simp)]
        omega
      · rw [List.count_cons_of_ne hc]
        cases hbreak : isLineBreak c with
        | true =>
            rw [List.countP_cons_of_pos hbreak, ih,
              List.countP_cons_of_pos (by simp [hbreak, hc])]
            omega
        | false =>
            rw [List.countP_cons_of_neg (by simp [hbreak]), ih,
              List.countP_cons_of_neg (by simp [hbreak])]

end Text

namespace Reading

/-- The characters at which lines end. -/
def isBreak : Reading → Char → Bool
  | .fileLines => fun c => c == '\n'
  | .textLines => Text.isLineBreak

/-- How many of these a text has besides its line feeds. -/
def surplus : Reading → String → Nat
  | .fileLines => fun _ => 0
  | .textLines => Text.strayBreaks

theorem countP_isBreak (reading : Reading) (s : String) :
    s.toList.countP reading.isBreak = Text.lineFeeds s + reading.surplus s := by
  cases reading with
  | fileLines => exact List.count_eq_countP.symm
  | textLines => exact Text.countP_isLineBreak s.toList

theorem surplus_append (reading : Reading) (s t : String) :
    reading.surplus (s ++ t) = reading.surplus s + reading.surplus t := by
  cases reading with
  | fileLines => rfl
  | textLines => simp [surplus, Text.strayBreaks]

theorem isBreak_lineFeed (reading : Reading) (c : Char)
    (h : (c == '\n') = true) : reading.isBreak c = true := by
  obtain rfl : c = '\n' := by simpa using h
  cases reading <;> rfl

/-- The lines of a text are its pieces; what stays of a break is blank. -/
theorem lines_eq_pieces (reading : Reading) {text : String}
    (h : '\r' ∉ text.toList) :
    ∃ ending : Char → List Char,
      (∀ c, reading.isBreak c = true → ∀ x ∈ ending c, Text.isBlank x = true) ∧
      reading.lines text
        = (Text.pieces reading.isBreak ending [] text.toList).map
          String.ofList := by
  cases reading with
  | fileLines =>
      refine ⟨fun c => [c], fun c hc x hx => ?_, ?_⟩
      · obtain rfl : c = '\n' := by simpa [isBreak] using hc
        rw [List.mem_singleton.1 hx]
        rfl
      · show (Text.readLinesFrom [] text.toList).map String.ofList = _
        rw [Text.readLinesFrom_eq_pieces]
        rfl
  | textLines =>
      refine ⟨fun _ => [], fun _ _ x hx => absurd hx List.not_mem_nil, ?_⟩
      show (Text.splitLinesFrom [] text.toList).map String.ofList = _
      rw [Text.splitLinesFrom_eq_pieces [] h]
      rfl

/-- The trimmed text of a line stands after as many breaks as there are lines
before it. -/
theorem stands_lines (reading : Reading) {text line : String}
    (h : '\r' ∉ text.toList) {k : Nat}
    (hline : (reading.lines text)[k]? = some line) :
    ∃ before,
      Text.Stands reading.isBreak before (Text.trim line).toList text.toList ∧
      before.countP reading.isBreak = k := by
  obtain ⟨ending, hblank, hlines⟩ := reading.lines_eq_pieces h
  rw [hlines, List.getElem?_map, Option.map_eq_some_iff] at hline
  obtain ⟨piece, hpiece, rfl⟩ := hline
  have hempty : ∀ c ∈ ([] : List Char), reading.isBreak c = false := by simp
  obtain ⟨start, body, hstands, hcount, hbody⟩ :=
    Text.stands_pieces hempty hpiece
  have htrim : (Text.trim (String.ofList piece)).toList
      = Text.trimEnd (Text.trimStart body) := by
    rw [Text.trim, String.toList_ofList, String.toList_ofList]
    rcases hbody with rfl | ⟨c, hc, rfl⟩
    · rfl
    · exact Text.trimmed_append_blanks body (hblank c hc)
  obtain ⟨before, hbefore, hsame⟩ := hstands.of_infix (Text.trimmed_infix body)
  rw [htrim]
  exact ⟨before, hbefore, hsame.trans hcount⟩

end Reading

-- ============================================================= remarks

/-- A remark shows one of the lines that are numbered from `number` on: it has
the number of the line and its trimmed text. -/
def Remark.Shows (number : Nat) (lines : List String) (r : Remark) : Prop :=
  ∃ k line, lines[k]? = some line ∧ r.line = number + k ∧
    r.snippet = Text.trim line

namespace Remark.Shows

variable {number : Nat} {line : String} {rest : List String} {r : Remark}

theorem here (hline : r.line = number) (hsnippet : r.snippet = Text.trim line) :
    r.Shows number (line :: rest) :=
  ⟨0, line, rfl, hline, hsnippet⟩

theorem later (h : r.Shows (number + 1) rest) :
    r.Shows number (line :: rest) := by
  obtain ⟨k, shown, hk, hline, hsnippet⟩ := h
  exact ⟨k + 1, shown, hk, by omega, hsnippet⟩

end Remark.Shows

/-- An inspection whose remarks, where they show anything, show the lines that a
way of reading gives. -/
def Inspection.Numbers (reading : Reading) (i : Inspection) : Prop :=
  ∀ source, ∀ r ∈ i.remarks source, r.snippet ≠ "" →
    r.Shows 1 (reading.lines source.text)

theorem shows_of_mem_remarksFrom {look : String → List Note} {number : Nat}
    {lines : List String} {r : Remark} (h : r ∈ remarksFrom look number lines) :
    r.Shows number lines := by
  induction lines generalizing number with
  | nil => exact absurd h List.not_mem_nil
  | cons line rest ih =>
      rw [remarksFrom] at h
      rcases List.mem_append.1 h with hhere | hlater
      · obtain ⟨note, -, rfl⟩ := List.mem_map.1 hhere
        exact .here rfl rfl
      · exact (ih hlater).later

theorem numbers_perLine (reading : Reading) (look : String → List Note) :
    (Inspection.perLine reading look).Numbers reading :=
  fun _ _ hr _ => shows_of_mem_remarksFrom hr

namespace Rule

-- ========================================================= whole files

theorem shown_of_remark? {limit : Int} {f : OpenFunction} {last : Nat}
    {r : Remark} (h : f.remark? limit last = some r) :
    r.line = f.start ∧ r.snippet = Text.trim f.text := by
  simp only [OpenFunction.remark?] at h
  split at h
  · obtain rfl := Option.some.inj h
    exact ⟨rfl, rfl⟩
  · simp at h

theorem shown_of_mem_closed {limit : Int} {openOne : Option OpenFunction}
    {last : Nat} {r : Remark}
    (h : r ∈ (openOne.bind fun f => f.remark? limit last).toList) :
    ∃ f, openOne = some f ∧ r.line = f.start ∧
      r.snippet = Text.trim f.text := by
  rw [Option.mem_toList, Option.bind_eq_some_iff] at h
  obtain ⟨f, hf, hremark⟩ := h
  exact ⟨f, hf, shown_of_remark? hremark⟩

/-- A long function is remarked on by its first line, which is among the lines
at hand unless the function was open before them. -/
theorem shows_of_mem_longFunctionsFrom {limit : Int}
    {openOne : Option OpenFunction} {number : Nat} {lines : List String}
    {r : Remark} (h : r ∈ longFunctionsFrom limit openOne number lines) :
    (∃ f, openOne = some f ∧ r.line = f.start ∧ r.snippet = Text.trim f.text) ∨
      r.Shows number lines := by
  induction lines generalizing openOne number with
  | nil => exact .inl (shown_of_mem_closed h)
  | cons line rest ih =>
      -- the same of the lines that follow, whichever function is open by then
      have hlater : ∀ {next : Option OpenFunction},
          r ∈ longFunctionsFrom limit next (number + 1) rest →
          (∃ f, next = some f ∧ r.line = f.start ∧
            r.snippet = Text.trim f.text) ∨
            r.Shows number (line :: rest) := by
        intro next hr
        exact (ih hr).imp_right fun hshows => hshows.later
      rw [longFunctionsFrom] at h
      cases hname : functionName? line with
      | none =>
          simp only [hname] at h
          cases openOne with
          | none => exact hlater h
          | some f =>
              simp only [List.nil_append] at h
              split at h
              · rcases List.mem_append.1 h with hended | hrest
                · exact .inl ⟨f, rfl,
                    shown_of_remark? (Option.mem_toList.1 hended)⟩
                · rcases hlater hrest with ⟨g, hg, -⟩ | hshows
                  · cases hg
                  · exact .inr hshows
              · exact hlater h
      | some name =>
          simp only [hname] at h
          -- a function that starts here is shown by this line
          have hstarted : ∀ {f : OpenFunction},
            f = ⟨name, number, indentOf line, line⟩ →
              r.line = f.start ∧ r.snippet = Text.trim f.text →
                r.Shows number (line :: rest) := by
            rintro f rfl ⟨hline, hsnippet⟩
            exact .here hline hsnippet
          split at h
          · rcases List.mem_append.1 h with hhere | hrest
            · rcases List.mem_append.1 hhere with hbefore | hended
              · exact .inl (shown_of_mem_closed hbefore)
              · exact .inr
                  (hstarted rfl (shown_of_remark? (Option.mem_toList.1 hended)))
            · rcases hlater hrest with ⟨g, hg, -⟩ | hshows
              · cases hg
              · exact .inr hshows
          · rcases List.mem_append.1 h with hbefore | hrest
            · exact .inl (shown_of_mem_closed hbefore)
            · rcases hlater hrest with ⟨g, hg, hshown⟩ | hshows
              · exact .inr (hstarted (Option.some.inj hg).symm hshown)
              · exact .inr hshows

theorem shows_of_mem_deadCodeFrom {number : Nat} {lines : List String}
    {r : Remark} (h : r ∈ deadCodeFrom number lines) :
    r.Shows number lines := by
  induction lines generalizing number with
  | nil => exact absurd h List.not_mem_nil
  | cons line rest ih =>
      rw [deadCodeFrom] at h
      rcases List.mem_append.1 h with hhere | hlater
      · obtain ⟨check, -, hhere⟩ := List.mem_filterMap.1 hhere
        rw [DeadCodeCheck.remark?] at hhere
        split at hhere
        · obtain ⟨following, hfollowing, hr⟩ := Option.bind_eq_some_iff.1 hhere
          simp only at hr
          split at hr
          · simp at hr
          · obtain rfl := Option.some.inj hr
            -- the remark is about the line after the return statement
            cases rest with
            | nil => cases hfollowing
            | cons next more =>
                obtain rfl := Option.some.inj hfollowing
                exact Remark.Shows.later (.here rfl rfl)
        · simp at hhere
      · exact (ih hlater).later

theorem shows_of_firstLoading? {number : Nat} {lines : List String} {r : Remark}
    (h : firstLoading? number lines = some r) : r.Shows number lines := by
  induction lines generalizing number with
  | nil => simp [firstLoading?] at h
  | cons line rest ih =>
      rw [firstLoading?] at h
      split at h
      · obtain rfl := Option.some.inj h
        exact .here rfl rfl
      · exact (ih h).later

theorem shows_of_mem_unvalidatedFrom {whole : List String} {route : Option Nat}
    {number : Nat} {lines : List String} {r : Remark}
    (h : r ∈ unvalidatedFrom whole route number lines) :
    r.Shows number lines := by
  induction lines generalizing route number with
  | nil => exact absurd h List.not_mem_nil
  | cons line rest ih =>
      unfold unvalidatedFrom at h
      split at h
      · exact (ih h).later
      · rcases List.mem_append.1 h with hhere | hlater
        · cases route with
          | none => exact absurd hhere List.not_mem_nil
          | some first =>
              simp only at hhere
              split at hhere
              · obtain rfl := List.mem_singleton.1 hhere
                exact .here rfl rfl
              · exact absurd hhere List.not_mem_nil
        · exact (ih hlater).later

-- =========================================================== catalogue

/-- The rules that break a file into lines at every line-breaking character. -/
def textNumbered : List String :=
  ["security.insecure_random", "ai_ml.data_validation", "django.security",
   "flask.security", "tensorflow.security", "pytorch.security",
   "react.security", "sqlalchemy.security", "express.security_misconfiguration",
   "nodejs.input_validation", "nodejs.authentication"]

/-- How a rule breaks a file into the lines it numbers. -/
def reading (rule : Rule) : Reading :=
  if textNumbered.contains rule.id then .textLines else .fileLines

/-- A rule numbers the lines it reads. -/
def NumbersItsLines (rule : Rule) : Prop :=
  rule.inspection.Numbers rule.reading

theorem numbersItsLines_perLine {rule : Rule} {look : String → List Note}
    (h : rule.inspection = .perLine rule.reading look) :
    rule.NumbersItsLines := by
  unfold NumbersItsLines
  rw [h]
  exact numbers_perLine _ look

theorem numbersItsLines_securityRules :
    ∀ rule ∈ securityRules, rule.NumbersItsLines := by
  unfold securityRules
  simp only [List.forall_mem_cons]
  exact ⟨numbersItsLines_perLine rfl, numbersItsLines_perLine rfl,
    numbersItsLines_perLine rfl, fun _ h => absurd h List.not_mem_nil⟩

theorem numbersItsLines_qualityRules :
    ∀ rule ∈ qualityRules, rule.NumbersItsLines := by
  unfold qualityRules
  simp only [List.forall_mem_cons]
  refine ⟨?long, numbersItsLines_perLine rfl, ?dead, fun _ h =>
    absurd h List.not_mem_nil⟩
  case long =>
    intro source r hr _
    rcases shows_of_mem_longFunctionsFrom hr with ⟨f, hf, -⟩ | hshows
    · cases hf
    · exact hshows
  case dead => exact fun source r hr _ => shows_of_mem_deadCodeFrom hr

theorem numbersItsLines_learningRules :
    ∀ rule ∈ learningRules, rule.NumbersItsLines := by
  unfold learningRules
  simp only [List.forall_mem_cons]
  refine ⟨numbersItsLines_perLine rfl, ?privacy,
    numbersItsLines_perLine rfl, numbersItsLines_perLine rfl, ?validation,
    ?explanations, fun _ h => absurd h List.not_mem_nil⟩
  case privacy =>
    intro source r hr _
    exact absurd (remarks_treePrivacy source ▸ hr) List.not_mem_nil
  case validation =>
    intro source r hr _
    simp only [dataValidation, Inspection.remarks] at hr
    split at hr
    · exact shows_of_firstLoading? (Option.mem_toList.1 hr)
    · exact absurd hr List.not_mem_nil
  case explanations =>
    -- a remark on the whole file shows nothing
    intro source r hr hsnippet
    simp only [explainability, Inspection.remarks] at hr
    split at hr
    · split at hr
      · exact absurd hr List.not_mem_nil
      · exact absurd
          (congrArg Remark.snippet (List.mem_singleton.1 hr)) hsnippet
    · exact absurd hr List.not_mem_nil

theorem numbersItsLines_frameworkRules :
    ∀ rule ∈ frameworkRules, rule.NumbersItsLines := by
  unfold frameworkRules nodeRules
  simp only [List.map_cons, List.map_nil, List.cons_append, List.nil_append,
    List.forall_mem_cons]
  exact ⟨numbersItsLines_perLine rfl, numbersItsLines_perLine rfl,
    numbersItsLines_perLine rfl, numbersItsLines_perLine rfl,
    numbersItsLines_perLine rfl, numbersItsLines_perLine rfl,
    numbersItsLines_perLine rfl, numbersItsLines_perLine rfl,
    fun source r hr _ => shows_of_mem_unvalidatedFrom hr,
    numbersItsLines_perLine rfl, numbersItsLines_perLine rfl, fun _ h =>
      absurd h List.not_mem_nil⟩

theorem numbersItsLines_of_mem_all {rule : Rule} (h : rule ∈ all) :
    rule.NumbersItsLines := by
  unfold all at h
  simp only [List.mem_append] at h
  rcases h with ((h | h) | h) | h
  · exact numbersItsLines_securityRules rule h
  · exact numbersItsLines_qualityRules rule h
  · exact numbersItsLines_learningRules rule h
  · exact numbersItsLines_frameworkRules rule h

-- ============================================================ findings

/-- A finding that shows something shows a part of the file's text, on the line
that the line feeds before it count. Its number is that of the line, and as many
more as the rule sees breaks before it that are no line feeds. So it is right
for rules that break files at line feeds alone, and for all rules on texts
without other breaks. -/
theorem findings_numbered {rule : Rule} (hrule : rule ∈ all) (path : String)
    (source : Source) {f : Finding}
    (hf : f ∈ rule.check true path (some source))
    (hsnippet : f.snippet ≠ .text "") :
    ∃ before snippet after : String,
      source.text = before ++ snippet ++ after ∧ f.snippet = .text snippet ∧
      Text.OnLine source.text (Text.lineFeeds before + 1) snippet ∧
      f.line = Value.ofNat (Text.lineFeeds before + 1 +
        rule.reading.surplus before) ∧
      (rule.reading.surplus source.text = 0 →
        f.line = Value.ofNat (Text.lineFeeds before + 1)) := by
  rw [check_eq_map] at hf
  obtain ⟨r, hr, rfl⟩ := List.mem_map.1 hf
  have hshown : r.snippet ≠ "" := fun hempty =>
    hsnippet (congrArg Value.text hempty)
  obtain ⟨k, line, hline, hnumber, htrim⟩ :=
    numbersItsLines_of_mem_all hrule source r hr hshown
  have hreturn : '\r' ∉ source.text.toList :=
    Text.decodeLenient_noReturn source.bytes
  obtain ⟨before, hstands, hcount⟩ := rule.reading.stands_lines hreturn hline
  rw [← htrim] at hstands
  obtain ⟨after, hafter⟩ := hstands.standing
  have htext : source.text = String.ofList before ++ r.snippet ++
      String.ofList after := by
    rw [← String.toList_inj]
    simpa using hafter.symm
  obtain ⟨onLine, honLine, hcontains⟩ :=
    Text.exists_line_of_stands (hstands.mono rule.reading.isBreak_lineFeed)
  have hbreaks : k = Text.lineFeeds (String.ofList before)
      + rule.reading.surplus (String.ofList before) := by
    rw [← Reading.countP_isBreak, String.toList_ofList, hcount]
  have hplace : (rule.finding path r).line
    = Value.ofNat (Text.lineFeeds (String.ofList before) + 1 +
      rule.reading.surplus (String.ofList before)) := by
    show Value.ofNat r.line = _
    rw [hnumber, hbreaks]
    congr 1
    omega
  refine ⟨_, r.snippet, _, htext, rfl, ⟨onLine, by omega, ?_, ?_⟩, hplace,
    fun hnone => ?_⟩
  · rw [Nat.add_sub_cancel, Text.lineFeeds, String.toList_ofList]
    exact honLine
  · rwa [String.ofList_toList] at hcontains
  · rw [htext, Reading.surplus_append, Reading.surplus_append] at hnone
    rw [hplace, show rule.reading.surplus (String.ofList before) = 0 by omega,
      Nat.add_zero]

/-- A form feed, and behind it a line that two rules remark on. -/
def formFeedPage : Source :=
  .ofText "\x0cMath.random() // TODO\n"

theorem text_formFeedPage : formFeedPage.text = "\x0cMath.random() // TODO\n" :=
  Source.text_ofText (by decide)

/-- What is shown of a finding: its number and its text. -/
def shownOf (f : Finding) : Option Int × Option String :=
  (f.line.asInt?, f.snippet.asText?)

theorem eq_of_shownOf {f : Finding} {number : Int} {snippet : String}
    (h : shownOf f = (some number, some snippet)) :
    f.line = .int number ∧ f.snippet = .text snippet := by
  obtain ⟨hline, hsnippet⟩ := Prod.mk.inj h
  constructor
  · cases hvalue : f.line with
    | int n =>
        rw [hvalue] at hline
        rw [Option.some.inj hline]
    | _ => simp [hvalue, Value.asInt?] at hline
  · cases hvalue : f.snippet with
    | text s =>
        rw [hvalue] at hsnippet
        rw [Option.some.inj hsnippet]
    | _ => simp [hvalue, Value.asText?] at hsnippet

/-- What is shown of the one thing that a rule reports on the lines of a
page. -/
theorem exists_of_shown {rule : Rule} {reading : Reading}
    {look : String → List Note}
    (hrule : rule.inspection = .perLine reading look) {path : String}
    {source : Source} {lines : List String}
    (hlines : reading.lines source.text = lines) {number : Int}
    {snippet : String}
    (h : ((remarksFrom look 1 lines).map (rule.finding path)).map shownOf
      = [(some number, some snippet)]) :
    ∃ f ∈ rule.check true path (some source), f.line = .int number ∧
      f.snippet = .text snippet := by
  obtain ⟨f, hf, hshown⟩ := List.mem_map.1 (h ▸ List.mem_singleton_self _)
  exact ⟨f, check_of_lines hrule hlines path ▸ hf, eq_of_shownOf hshown⟩

theorem exists_random_formFeedPage :
    ∃ f ∈ insecureRandom.check true "a.js" (some formFeedPage),
      f.line = .int 2 ∧ f.snippet = .text "Math.random() // TODO" := by
  have hlines : Reading.textLines.lines formFeedPage.text
      = ["", "Math.random() // TODO"] := by
    rw [text_formFeedPage]
    decide +kernel
  exact exists_of_shown rfl hlines (by decide +kernel)

theorem exists_todo_formFeedPage :
    ∃ f ∈ todoComments.check true "a.js" (some formFeedPage),
      f.line = .int 1 ∧ f.snippet = .text "Math.random() // TODO" := by
  have hlines : Reading.fileLines.lines formFeedPage.text
      = ["\x0cMath.random() // TODO\n"] := by
    rw [text_formFeedPage]
    decide +kernel
  exact exists_of_shown rfl hlines (by decide +kernel)

/-- The form feed makes the number too high by one. -/
theorem findings_numbered_formFeed :
    insecureRandom ∈ all ∧
      ∃ f ∈ insecureRandom.check true "a.js" (some formFeedPage),
      f.snippet ≠ .text "" ∧ f.line = .int 2 ∧
      ∃ before snippet after : String,
        formFeedPage.text = before ++ snippet ++ after ∧
        f.snippet = .text snippet ∧
        Text.OnLine formFeedPage.text (Text.lineFeeds before + 1) snippet ∧
        f.line = Value.ofNat
          (Text.lineFeeds before + 1 +
            insecureRandom.reading.surplus before) := by
  have hrule : insecureRandom ∈ all := by simp [all, securityRules]
  obtain ⟨f, hf, hline, hsnippet⟩ := exists_random_formFeedPage
  have hshows : f.snippet ≠ .text "" := by simp [hsnippet]
  obtain ⟨before, snippet, after, htext, hshown, honLine, hnumber, -⟩ :=
    findings_numbered hrule "a.js" formFeedPage hf hshows
  exact ⟨hrule, f, hf, hshows, hline, before, snippet, after, htext, hshown,
    honLine, hnumber⟩

/-- Two rules report the same line under different numbers, and what one of them
shows is not on the line it gives. -/
theorem same_line_numbered_apart :
    (insecureRandom ∈ all ∧ todoComments ∈ all) ∧
      (∃ f ∈ insecureRandom.check true "a.js" (some formFeedPage),
        f.line = .int 2 ∧ f.snippet = .text "Math.random() // TODO") ∧
      (∃ f ∈ todoComments.check true "a.js" (some formFeedPage),
        f.line = .int 1 ∧ f.snippet = .text "Math.random() // TODO") ∧
      Text.OnLine formFeedPage.text 1 "Math.random() // TODO" ∧
      ¬Text.OnLine formFeedPage.text 2 "Math.random() // TODO" := by
  have hlines : Text.splitOnChar '\n' formFeedPage.text
      = ["\x0cMath.random() // TODO", ""] := by
    rw [text_formFeedPage]
    decide +kernel
  refine ⟨by simp [all, securityRules, qualityRules],
    exists_random_formFeedPage, exists_todo_formFeedPage,
    ⟨_, le_rfl, by rw [hlines]; rfl, by decide +kernel⟩, ?_⟩
  rintro ⟨line, -, hline, hcontains⟩
  rw [hlines] at hline
  obtain rfl : "" = line := Option.some.inj hline
  exact absurd hcontains (by decide +kernel)

end Rule

end SourceAudit
