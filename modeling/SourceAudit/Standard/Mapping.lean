/-
Which standards a finding touches: by its weakness id, by its category, by the
framework and rule, and by words in the id of the rule.
-/
import SourceAudit.Fault
import SourceAudit.Pattern.Reader
import SourceAudit.Standard.Catalogue

namespace SourceAudit.Standard

-- ============================================================== tables

def byWeakness : List (String × List String) :=
  [("CWE-79", ["owasp_top10_2021_a03", "sans_top25_cwe_79", "asvs_v5"]),
   ("CWE-89", ["owasp_top10_2021_a03", "sans_top25_cwe_89", "asvs_v5"]),
   ("CWE-22", ["owasp_top10_2021_a01", "asvs_v1"]),
   ("CWE-502", ["owasp_top10_2021_a08", "asvs_v5"]),
   ("CWE-16", ["owasp_top10_2021_a05", "nist_800_53_sc"]),
   ("CWE-20", ["owasp_top10_2021_a03", "asvs_v5"]),
   ("CWE-200", ["owasp_top10_2021_a02", "gdpr_art_32"]),
   ("CWE-287", ["owasp_top10_2021_a07", "asvs_v2"]),
   ("CWE-352", ["owasp_top10_2021_a01", "asvs_v4"]),
   ("CWE-918", ["owasp_top10_2021_a10"])]

def byCategory : List (String × List String) :=
  [("data_privacy", ["gdpr_art_25", "gdpr_art_32", "hipaa_164_312"]),
   ("authentication", ["pci_dss_req_6", "nist_800_53_ac", "asvs_v2"]),
   ("encryption", ["pci_dss_req_6", "nist_800_53_sc", "gdpr_art_32"]),
   ("access_control", ["nist_800_53_ac", "iso_27001_a12"]),
   ("secure_development", ["iso_27001_a14", "microsoft_sdl"]),
   ("ai_ml_security", ["nist_ai_rmf_govern", "nist_ai_rmf_measure", "eu_ai_act_high_risk"]),
   ("ai_risk_management", ["eu_ai_act_high_risk", "nist_ai_rmf_govern"]),
   ("logging_monitoring", ["owasp_top10_2021_a09", "sox_404"])]

def byFramework : List (String × List (String × List String)) :=
  [("django",
    [("django.security", ["owasp_top10_2021_a05", "asvs_v1", "google_secure_coding"]),
     ("django.sql_injection", ["owasp_top10_2021_a03", "sans_top25_cwe_89"]),
     ("django.xss", ["owasp_top10_2021_a03", "sans_top25_cwe_79"])]),
   ("flask",
    [("flask.security", ["owasp_top10_2021_a05", "asvs_v1"]),
     ("flask.session", ["owasp_top10_2021_a07", "asvs_v2"])]),
   ("nodejs",
    [("nodejs.hardcoded_secrets", ["owasp_top10_2021_a02", "iso_27001_a12", "pci_dss_req_6"]),
     ("nodejs.input_validation", ["owasp_top10_2021_a03", "asvs_v5"]),
     ("nodejs.logging_security", ["owasp_top10_2021_a09", "gdpr_art_32", "iso_27001_a12"]),
     ("nodejs.authentication", ["owasp_top10_2021_a07", "asvs_v2", "iso_27001_a12"])]),
   ("express",
    [("express.security_misconfiguration", ["owasp_top10_2021_a05", "iso_27001_a12", "asvs_v1"]),
     ("express.cors", ["owasp_top10_2021_a05", "iso_27001_a12"]),
     ("express.error_handling", ["owasp_top10_2021_a09", "iso_27001_a12"])]),
   ("pytorch",
    [("pytorch.security", ["nist_ai_rmf_govern", "owasp_top10_2021_a08"]),
     ("pytorch.model_loading", ["nist_ai_rmf_measure", "owasp_top10_2021_a08"])]),
   ("tensorflow",
    [("tensorflow.security", ["nist_ai_rmf_govern", "owasp_top10_2021_a08"]),
     ("tensorflow.data_privacy", ["gdpr_art_25", "nist_ai_rmf_measure"])]),
   ("react",
    [("react.security", ["owasp_top10_2021_a03", "asvs_v5"]),
     ("react.xss", ["sans_top25_cwe_79", "owasp_top10_2021_a03"])])]

def byRulePattern : List (String × List String) :=
  [(".*hardcoded.*secret.*", ["owasp_top10_2021_a02", "asvs_v2"]),
   (".*sql.*injection.*", ["owasp_top10_2021_a03", "sans_top25_cwe_89"]),
   (".*xss.*", ["owasp_top10_2021_a03", "sans_top25_cwe_79"]),
   (".*authentication.*", ["owasp_top10_2021_a07", "asvs_v2"]),
   (".*authorization.*", ["owasp_top10_2021_a01", "nist_800_53_ac"]),
   (".*encryption.*", ["owasp_top10_2021_a02", "nist_800_53_sc"]),
   (".*logging.*", ["owasp_top10_2021_a09", "sox_404"]),
   (".*ai.*ml.*", ["nist_ai_rmf_govern", "nist_ai_rmf_measure"]),
   (".*privacy.*", ["gdpr_art_25", "gdpr_art_32"]),
   (".*bias.*", ["nist_ai_rmf_measure", "gdpr_art_25"])]

def entry {α : Type} (table : List (String × List α)) (key : String) : List α :=
  (table.lookup key).getD []

-- ============================================================= look-up

def forFramework (framework rule : String) : List String :=
  entry (entry byFramework framework) rule

/-- The ids of the standards for a rule, by patterns in its id; ids repeat when
several patterns name them. -/
def forRule (rule : String) : List String :=
  byRulePattern.flatMap fun (pattern, ids) =>
    if (Pattern.of pattern).occursIn (Text.lower rule) then ids else []

/-- The entry of a table for a value as a key. Only texts have entries; lists and
records cannot be keys at all. -/
def entryFor (table : List (String × List String)) (key : Value) : Outcome (List String) :=
  if key.isTruthy then
    match key with
    | .text s => .ok (entry table s)
    | .list _ => .error (.unhashable key.kind)
    | .record _ => .error (.unhashable key.kind)
    | _ => .ok []
  else .ok []

/-- The ids of the standards for a rule of a framework, given as values. -/
def frameworkEntry (framework rule : Value) : Outcome (List String) :=
  if framework.isTruthy then
    match framework with
    | .text f =>
      if (byFramework.lookup f).isSome then
        match rule with
        | .text r => .ok (forFramework f r)
        | .list _ => .error (.unhashable rule.kind)
        | .record _ => .error (.unhashable rule.kind)
        | _ => .ok []
      else .ok []
    | .list _ => .error (.unhashable framework.kind)
    | .record _ => .error (.unhashable framework.kind)
    | _ => .ok []
  else .ok []

/-- The ids of all standards that the tables name, repeats kept. -/
def namedFor (rule weakness category framework : Value) : Outcome (List String) := do
  let weak ← entryFor byWeakness weakness
  let categorised ← entryFor byCategory category
  let framed ← frameworkEntry framework rule
  match rule with
  | .text r => return weak ++ categorised ++ framed ++ forRule r
  | _ => .error (.noMember rule.kind "lower")

/-- Ids in ascending order, each once. -/
def inOrder (ids : List String) : List String :=
  (ids.mergeSort fun a b => a ≤ b).eraseDups

/-- The standards a finding touches, in ascending order of their ids. Ids that
the catalogue does not hold are passed over. -/
def forFinding (rule weakness category framework : Value) : Outcome (List Standard) := do
  return (inOrder (← namedFor rule weakness category framework)).filterMap withId?

/-- What the standards of a finding are looked up by. -/
def lookupForm : Form where
  title := "StandardsMapper.get_standards_for_issue"
  required := ["rule_id"]
  optional := ["cwe_id", "category", "framework"]

def forEntries (entries : List (String × Value)) : Outcome (List Standard) := do
  lookupForm.check entries
  let given (name : String) : Value := Value.ofOption (Value.lookup name entries)
  forFinding (given "rule_id") (given "cwe_id") (given "category") (given "framework")

-- ============================================================ guidance

/-- What to do about a standard; coding standards and guidelines have no advice. -/
def guidance? (s : Standard) : Option String :=
  match s.kind with
  | .security => some ("Follow " ++ s.name ++ " guidelines: " ++ s.link)
  | .compliance => some ("Ensure compliance with " ++ s.name ++ ": " ++ s.link)
  | .practice => some ("Apply " ++ s.name ++ ": " ++ s.link)
  | _ => none

/-- What to do about standards, by their names. -/
def guidance (standards : List Standard) : List (String × Value) :=
  standards.foldl
    (fun done s =>
      match guidance? s with
      | some advice => Value.put s.name (.text advice) done
      | none => done)
    []

/-- The standards with the given ids, all of which must be in the catalogue. -/
def withIds (ids : List String) : Outcome (List Standard) :=
  ids.mapM fun id =>
    match withId? id with
    | some s => .ok s
    | none => .error (.unknownKey id)

end SourceAudit.Standard
