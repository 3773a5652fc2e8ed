/-
Rules on code that handles data and models: privacy, loading of models, bias,
validation of data, explanation of models.
-/
import SourceAudit.Code.Evidence
import SourceAudit.Rule.Basic

namespace SourceAudit.Rule

/-- The syntax tree of a file, if it is text and can be parsed. -/
def syntaxTree? (source : Source) : Option (List Code.Tree) :=
  match Text.decode source.bytes with
  | .ok text => Code.parse? text.toList
  | .error _ => none

-- ============================================================= privacy

def privacyPatterns : List (String × String) :=
  [(r"(?i)(email|phone|ssn|social.security|credit.card|passport)", "Potential PII data handling"),
   (r"(?i)(gdpr|ccpa|hipaa)", "Privacy regulation mentioned - ensure compliance"),
   (r"(?i)(personal.data|sensitive.data|private.data)", "Sensitive data handling detected"),
   (r"(?i)(anonymize|pseudonymize|de.identify)", "Data anonymization - verify implementation")]

def dataPrivacy : Rule where
  id := "ai_ml.data_privacy"
  description := "Detects data privacy issues using regex patterns"
  severity := .high
  category := "ai_ml"
  languages := [".py"]
  confidence := 0.6
  inspection := .perLine .fileLines <| notesOf <| privacyPatterns.map fun (pattern, message) =>
    { pattern := Pattern.of pattern
      note :=
        { message
          remediation := "Ensure proper data privacy measures and compliance with regulations"
          metadata := [("privacy_concern", .bool true)] } }

/-- Names that stand for personal data. -/
def sensitiveTerms : List String :=
  ["email", "ssn", "credit_card", "passport", "gdpr", "ccpa", "hipaa", "pii"]

def concernRemark (c : Code.Concern) : Remark where
  line := c.line
  snippet := c.snippet
  note :=
    { message := "Potential privacy concern: " ++ c.reason
      remediation := "Implement data anonymization or pseudonymization" }

/-- Sensitive names and unsalted anonymization in the syntax tree; a file that cannot be
parsed or looked through is left alone. -/
def treePrivacy : Rule where
  id := "ai_ml.ast_data_privacy"
  description := "Detects data privacy issues using abstract syntax tree analysis"
  severity := .high
  category := "ai_ml"
  languages := [".py"]
  confidence := 0.8
  inspection := .whole fun source =>
    match (syntaxTree? source).map (Code.privacyConcerns sensitiveTerms) with
    | some (.ok concerns) => concerns.map concernRemark
    | _ => []

/-- No concern is ever told: the report on the first one fails. -/
theorem remarks_treePrivacy (source : Source) :
    treePrivacy.inspection.remarks source = [] := by
  simp only [treePrivacy, Inspection.remarks]
  cases syntaxTree? source with
  | none => rfl
  | some module =>
    simp only [Option.map_some, Code.privacyConcerns]
    cases Code.Tree.searchAny (Code.privacyConcern sensitiveTerms) module <;> rfl

-- ============================================================== models

/-- Ways of loading a model that trust its source. -/
def modelPatterns : List (String × String) :=
  [(r"pickle\.load\(", "Pickle deserialization can be unsafe - consider alternatives"),
   (r"joblib\.load\(", "Joblib loading can be unsafe with untrusted data"),
   (r"torch\.load\(.*map_location=None",
    "PyTorch model loading without map_location can be unsafe"),
   (r"tf\.saved_model\.load\(", "TensorFlow model loading - ensure model source is trusted"),
   (r"(?i)model.*download.*http", "Model downloaded from HTTP - use HTTPS for security")]

def modelSecurity : Rule where
  id := "ai_ml.model_security"
  description := "Detects potential security issues in ML model handling"
  severity := .medium
  category := "ai_ml"
  languages := [".py"]
  confidence := 0.7
  inspection := .perLine .fileLines <| notesOf <| modelPatterns.map fun (pattern, message) =>
    { pattern := Pattern.of pattern
      note :=
        { message
          remediation := "Use secure model loading practices and verify model integrity"
          metadata := [("security_concern", .text "model_loading")] } }

-- ================================================================ bias

def biasPatterns : List (String × String) :=
  [(r"(?i)(gender|race|ethnicity|age|religion)",
    "Demographic features detected - check for bias"),
   (r"(?i)(fairness|bias|discrimination)", "Bias-related terms found - ensure proper handling"),
   (r"(?i)(protected.attribute|sensitive.attribute)", "Protected attributes detected"),
   (r"train_test_split\(.*stratify=None",
    "Data splitting without stratification may introduce bias")]

def biasDetection : Rule where
  id := "ai_ml.bias_detection"
  description := "Detects potential bias issues in AI/ML workflows"
  severity := .medium
  category := "ai_ml"
  languages := [".py"]
  confidence := 0.5
  inspection := .perLine .fileLines <| notesOf <| biasPatterns.map fun (pattern, message) =>
    { pattern := Pattern.of pattern
      note :=
        { message
          remediation := "Implement bias detection and mitigation strategies"
          metadata := [("bias_concern", .bool true)] } }

-- ========================================================== validation

def loadingPattern : Pattern :=
  Pattern.of r"(?i)(pd\.read_|np\.load|torch\.load|tf\.data)"

def checkingPattern : Pattern :=
  Pattern.of r"(?i)(assert|validate|check|verify|isna|isnull)"

/-- What is said about data that is not checked. -/
def uncheckedNote : Note where
  message := "Data loading detected without apparent validation"
  remediation := "Add data validation checks (null values, data types, ranges, etc.)"
  metadata := [("validation_missing", .bool true)]

/-- The remark on the first line that loads data, lines numbered from `number` on. -/
def firstLoading? : Nat → List String → Option Remark
  | _, [] => none
  | number, line :: rest =>
    if loadingPattern.occursIn line then some ⟨number, Text.trim line, uncheckedNote⟩
    else firstLoading? (number + 1) rest

/-- Data loaded in a file that checks nothing. -/
def dataValidation : Rule where
  id := "ai_ml.data_validation"
  description := "Detects missing data validation in AI/ML workflows"
  severity := .medium
  category := "ai_ml"
  languages := [".py"]
  confidence := 0.6
  inspection := .whole fun source =>
    let text := source.text
    if loadingPattern.occursIn text && !checkingPattern.occursIn text then
      (firstLoading? 1 (Text.splitLines text)).toList
    else []

-- ======================================================== explanations

def explanationPackages : List String :=
  ["shap", "lime", "eli5", "interpret", "shap.Explainer", "shap.TreeExplainer"]

/-- The remark on a file that explains no model. -/
def unexplained : Remark where
  line := 1
  snippet := ""
  note :=
    { message := "Model implementation lacks explainability features"
      remediation := "Implement SHAP, LIME, or other explainability frameworks" }

/-- Files without any explanation of models; a file that cannot be parsed is
left alone. -/
def explainability : Rule where
  id := "ai_ml.explainability"
  description := "Checks for model explainability implementations"
  severity := .medium
  category := "ai_ml"
  languages := [".py"]
  confidence := 0.7
  inspection := .whole fun source =>
    match syntaxTree? source with
    | some module =>
      if Code.showsExplanation explanationPackages module then [] else [unexplained]
    | none => []

def learningRules : List Rule :=
  [dataPrivacy, treePrivacy, modelSecurity, biasDetection, dataValidation, explainability]

end SourceAudit.Rule
