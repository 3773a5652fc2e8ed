/-
Which lists of requirements the check of dependencies looks at.

The check goes through the files and ends with the first list of requirements,
whatever comes of it (`check_eq`), so at most one command is run. A run that
ends well and prints records has an issue for each of them, and any other run
has none (`issues_ofRun`). So of several lists the first alone decides what is
reported (`first_list_alone_checked`).
-/
import SourceAudit.Scan.Tool
import Mathlib.Data.List.Perm.Subperm

namespace SourceAudit

-- =============================================================== steps

/-- Several steps that all succeed give the list of what they give. -/
theorem Outcome.mapM_eq_map {α β : Type} {step : α → Outcome β} {f : α → β}
    {xs : List α} (h : ∀ x ∈ xs, step x = .ok (f x)) :
    xs.mapM step = .ok (xs.map f) := by
  induction xs with
  | nil => rfl
  | cons x rest ih =>
      rw [List.forall_mem_cons] at h
      rw [List.mapM_cons, h.1, ih h.2]
      rfl

/-- Several steps fail if one of them does. -/
theorem Outcome.mapM_eq_error {α β : Type} {step : α → Outcome β}
    {xs : List α} {x : α} (hx : x ∈ xs) {why : Fault}
    (h : step x = .error why) : ∃ why, xs.mapM step = .error why := by
  induction xs with
  | nil => cases hx
  | cons first rest ih =>
      rw [List.mapM_cons]
      cases hfirst : step first with
      | error why' => exact ⟨why', rfl⟩
      | ok y =>
          rcases List.mem_cons.1 hx with rfl | hx
          · rw [h] at hfirst
            cases hfirst
          · obtain ⟨why', hrest⟩ := ih hx
            exact ⟨why', by rw [hrest]; rfl⟩

/-- Whether a value is a record. -/
def Value.isRecord : Value → Bool
  | .record _ => true
  | _ => false

/-- A report of a failure has no issues. -/
theorem ToolReport.issues_ofOutcome_error (tool title : String) (why : Fault) :
    (ofOutcome tool title (.error why)).issues = [] := by
  unfold ofOutcome
  split
  · rename_i heq
    cases heq
  · rfl
  · rfl

namespace Safety

-- =============================================================== lists

/-- Whether a file is a list of requirements. -/
def isList (path : String) : Bool :=
  Path.name path == "requirements.txt"

theorem takes_of_isList {path : String} (h : isList path = true) :
    takes path = true := by
  unfold takes
  rw [beq_iff_eq.1 h]
  decide

variable (files : List (String × Outcome (Int × String × String)))

/-- The first list of requirements ends the check. -/
theorem check_eq :
    check files = match files.find? fun file => isList file.1 with
      | some (path, run) => ([command path], run >>= reported)
      | none => ([], .ok (.nothing "safety")) := by
  induction files with
  | nil => rfl
  | cons file rest ih =>
      rw [check, List.find?_cons]
      change (if isList file.1 = true then _ else _) = _
      cases isList file.1 with
      | true => rfl
      | false => exact ih

/-- The first list of requirements, if there is one, decides the report. -/
theorem scanEach_eq :
    scanEach files = match files.find? fun file => isList file.1 with
      | some (path, run) =>
        ([command path], .ofOutcome "safety" "Safety" (run >>= reported))
      | none => ([], .nothing "safety") := by
  have hfind : ((files.filter fun file => takes file.1).find? fun file =>
    isList file.1)
      = files.find? fun file => isList file.1 := by
    rw [List.find?_filter]
    congr 1
    funext file
    cases hlist : isList file.1 with
    | true => simp [takes_of_isList hlist]
    | false => simp
  unfold scanEach
  dsimp only
  rw [check_eq, hfind]
  by_cases hown : (files.filter fun file => takes file.1) = []
  · rw [if_pos (List.isEmpty_iff.2 hown), ← hfind, hown]
    rfl
  · rw [if_neg (mt List.isEmpty_iff.1 hown)]
    cases files.find? fun file => isList file.1 with
    | none => rfl
    | some file => rfl

/-- The lists of requirements among the files. -/
def listsOf : List (String × Outcome (Int × String × String)) :=
  files.filter fun file => isList file.1

/-- Files that are no lists of requirements make no difference. -/
theorem scanEach_listsOf : scanEach (listsOf files) = scanEach files := by
  unfold listsOf
  rw [scanEach_eq, scanEach_eq, List.find?_filter]
  simp

/-- A list of requirements hides all files after it. -/
theorem scanEach_cons {path : String} (h : isList path = true)
    (run : Outcome (Int × String × String)) :
    scanEach ((path, run) :: files)
      = ([command path], .ofOutcome "safety" "Safety" (run >>= reported)) := by
  have hfirst : ((path, run) :: files).find? (fun file => isList file.1)
      = some (path, run) :=
    List.find?_cons_of_pos h
  rw [scanEach_eq, hfirst]

/-- With the installed tool it makes no difference which list of requirements is
first. -/
theorem scan_eq (box : Toolbox) (paths : List String) :
    scan box paths
      = if paths.any isList then
        .ofOutcome "safety" "Safety" (box.run "safety" >>= reported)
        else .nothing "safety" := by
  have hfind :
    ((paths.map fun path => (path, box.run "safety")).find? fun file =>
      isList file.1)
      = (paths.find? isList).map fun path => (path, box.run "safety") :=
        List.find?_map ..
  rw [scan, scanEach_eq, hfind]
  cases hlist : paths.find? isList with
  | none =>
      rw [if_neg (by simpa using List.find?_eq_none.1 hlist)]
      rfl
  | some path =>
      rw [if_pos (List.any_eq_true.2
        ⟨path, List.mem_of_find?_eq_some hlist, List.find?_some hlist⟩)]
      rfl

-- ============================================================== issues

def issueOf (fields : List (String × Value)) : Value :=
  let get (name fallback : String) : String :=
    ((Value.lookup name fields).getD (.text fallback)).shown
  toolIssue (.text ("safety_" ++ get "id" "unknown"))
    (.text ("Vulnerable dependency: " ++ get "package_name" "unknown"))
      (.text "HIGH")
    (.text "requirements.txt") (.int 1)
    (.text (get "package_name" "" ++ "==" ++ get "installed_version" ""))
    (.text ("Update to version " ++ get "safe_version" "latest" ++
      " or higher")) (.real 0.9)

/-- The issues of items, if all of them are records. -/
def issuesOf (items : List Value) : List Value :=
  if items.all Value.isRecord then
    items.map fun item => issueOf item.fields else []

/-- The issues of a list of records; other values have none. -/
def issuesIn : Value → List Value
  | .list items => issuesOf items
  | _ => []

/-- The issues of a run: those of the records it prints, if it ends with 0 or 64
and prints a list of records. -/
def parsed : Outcome (Int × String × String) → List Value
  | .ok (code, out, _) =>
    if code = 0 ∨ code = 64 then
      match Value.ofJson out with
      | .ok v => issuesIn v
      | .error _ => []
    else []
  | .error _ => []

theorem issue_of_isRecord {v : Value} (h : v.isRecord = true) :
    issue v = .ok (issueOf v.fields) := by
  cases v with
  | record fields => rfl
  | _ => cases h

theorem issue_of_not_isRecord {v : Value} (h : v.isRecord = false) :
    ∃ why, issue v = .error why := by
  cases v with
  | record fields => cases h
  | _ => exact ⟨_, rfl⟩

/-- An item that is no record takes the issues of all others with it. -/
theorem issues_ofItems (items : List Value) :
    (ToolReport.ofOutcome "safety" "Safety" do
      return .found "safety" (← items.mapM issue)).issues = issuesOf items := by
  unfold issuesOf
  by_cases hall : items.all Value.isRecord = true
  · have hmap : items.mapM issue
        = .ok (items.map fun item => issueOf item.fields) :=
      Outcome.mapM_eq_map fun item hitem =>
        issue_of_isRecord (List.all_eq_true.1 hall item hitem)
    rw [if_pos hall, hmap]
    rfl
  · obtain ⟨item, hitem, hno⟩ : ∃ item ∈ items, item.isRecord = false := by
      simpa using hall
    obtain ⟨why, hissue⟩ := issue_of_not_isRecord hno
    obtain ⟨why', hmap⟩ := Outcome.mapM_eq_error hitem hissue
    rw [if_neg hall, hmap]
    exact ToolReport.issues_ofOutcome_error "safety" "Safety" why'

/-- Items of which none is a record have no issues. -/
theorem issuesOf_eq_nil {items : List Value}
    (h : ∀ item ∈ items, item.isRecord = false) : issuesOf items = [] := by
  cases items with
  | nil => rfl
  | cons item rest =>
      unfold issuesOf
      rw [List.all_cons, h item List.mem_cons_self]
      rfl

/-- Only a list has issues: the characters of a text and the names of fields are
no records. -/
theorem issues_ofValue (v : Value) :
    (ToolReport.ofOutcome "safety" "Safety" do
      return .found "safety" (← issues v)).issues = issuesIn v := by
  cases v with
  | list items => exact issues_ofItems items
  | text s =>
      rw [show issues (.text s)
        = (s.toList.map fun c => .text c.toString).mapM issue from rfl,
        issues_ofItems]
      exact issuesOf_eq_nil (List.forall_mem_map.2 fun _ _ => rfl)
  | record fields =>
      rw [show issues (.record fields)
        = (fields.map fun f => .text f.1).mapM issue from rfl, issues_ofItems]
      exact issuesOf_eq_nil (List.forall_mem_map.2 fun _ _ => rfl)
  | _ => rfl

/-- What a run adds to the report. -/
theorem issues_ofRun (run : Outcome (Int × String × String)) :
    (ToolReport.ofOutcome "safety" "Safety" (run >>= reported)).issues
      = parsed run := by
  cases run with
  | error why => exact ToolReport.issues_ofOutcome_error "safety" "Safety" why
  | ok answer =>
      obtain ⟨code, out, err⟩ := answer
      show (ToolReport.ofOutcome "safety" "Safety"
        (reported (code, out, err))).issues = _
      dsimp only [reported, parsed]
      by_cases hcode : code = 0 ∨ code = 64
      · rw [if_pos hcode, if_pos (by simpa using hcode)]
        cases Value.ofJson out with
        | error why => rfl
        | ok v => exact issues_ofValue v
      · rw [if_neg hcode, if_neg (by simpa using hcode)]
        rfl

/-- Of the files that are given, the first list of requirements alone is
checked, and the others make no difference. So each list is checked exactly if
there is one at most, and what the checks of all of them would report is
reported exactly if those after the first have nothing to report. -/
theorem first_list_alone_checked :
    scanEach files = scanEach ((listsOf files).take 1)
      ∧ (scanEach files).1
        = ((listsOf files).take 1).map (fun file => command file.1)
      ∧ (scanEach files).2.issues
        = ((listsOf files).take 1).flatMap (fun file => parsed file.2)
      ∧ ((scanEach files).1 = (listsOf files).map (fun file => command file.1)
          ↔ (listsOf files).length ≤ 1)
      ∧ (((listsOf files).flatMap fun file =>
        parsed file.2).Subperm (scanEach files).2.issues ↔
          ((listsOf files).tail.flatMap fun file => parsed file.2) = []) := by
  rw [← scanEach_listsOf files]
  have hlists : ∀ file ∈ listsOf files, isList file.1 = true :=
    fun file hfile => (List.mem_filter.1 hfile).2
  generalize listsOf files = lists at hlists
  cases lists with
  | nil => exact ⟨rfl, rfl, rfl, by simp [scanEach], by simp⟩
  | cons file rest =>
      obtain ⟨path, run⟩ := file
      have hfirst (others : List (String × Outcome (Int × String × String))) :
          scanEach ((path, run) :: others)
            = ([command path],
              .ofOutcome "safety" "Safety" (run >>= reported)) :=
        scanEach_cons others (hlists (path, run) List.mem_cons_self) run
      have hissues := issues_ofRun run
      refine ⟨?_, ?_, ?_, ?_, ?_⟩
      · rw [hfirst, List.take_succ_cons, hfirst]
      · rw [hfirst]
        rfl
      · rw [hfirst, hissues, List.take_succ_cons, List.take_zero,
          List.flatMap_singleton]
      · rw [hfirst]
        simp
      · rw [hfirst, hissues, List.tail_cons, List.flatMap_cons]
        generalize rest.flatMap (fun file => parsed file.2) = others
        calc (parsed run ++ others).Subperm (parsed run)
            ↔ (parsed run ++ others).Subperm (parsed run ++ []) := by
              rw [List.append_nil]
          _ ↔ others.Subperm [] := List.subperm_append_left (parsed run)
          _ ↔ others = [] := List.subperm_nil

/-- Two lists of requirements, a weakness in each. -/
def twoLists : List (String × Outcome (Int × String × String)) :=
  [("a/requirements.txt", .ok (64, "[\x7b\"id\": \"1\"\x7d]", "")),
    ("b/requirements.txt", .ok (64, "[\x7b\"id\": \"1\"\x7d]", ""))]

/-- The second of two lists is not checked, and its weakness is not reported. -/
theorem second_list_unchecked :
    (scanEach twoLists).1 = [command "a/requirements.txt"]
      ∧ (scanEach twoLists).2.issues.length = 1
      ∧ ∀ list ∈ twoLists, isList list.1 = true ∧
      (parsed list.2).length = 1 := by
  refine ⟨by decide +kernel, by decide +kernel, by decide +kernel⟩

end Safety

end SourceAudit
