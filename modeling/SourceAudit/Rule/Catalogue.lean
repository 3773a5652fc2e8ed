/-
The catalogue of audit rules.
-/
import SourceAudit.Rule.Framework
import SourceAudit.Rule.Learning
import SourceAudit.Rule.Node
import SourceAudit.Rule.Quality
import SourceAudit.Rule.Security

namespace SourceAudit.Rule

def frameworkRules : List Rule :=
  [django, flask, tensorflow, pytorch, react, sqlalchemy].map FrameworkRule.rule ++ nodeRules

/-- All rules, in the order in which they are asked. -/
def all : List Rule :=
  securityRules ++ qualityRules ++ learningRules ++ frameworkRules

def withId (id : String) : Outcome Rule :=
  match all.find? fun rule => rule.id == id with
  | some rule => .ok rule
  | none => .error (.unknownKey id)

def group (name : String) : Outcome (List Rule) :=
  match name with
  | "all" => .ok all
  | "security" => .ok securityRules
  | "quality" => .ok qualityRules
  | "ai_ml" => .ok learningRules
  | "framework" => .ok frameworkRules
  | "nodejs" => .ok nodeRules
  | _ => .error (.unknownKey name)

def forFrameworks (names : List String) : List Rule :=
  frameworkRules.filter fun rule =>
    match rule.framework with
    | some f => names.contains f
    | none => false

/-- What a list of rules says about a rule. -/
def toValue (rule : Rule) : Value :=
  .record
    [("id", .text rule.id), ("description", .text rule.description),
     ("severity", .text rule.severity.name), ("category", .text rule.category),
     ("languages", .list (rule.languages.map .text)), ("tags", .list []),
     ("framework", Value.ofText? rule.framework)]

end SourceAudit.Rule
