import SqlLint.FileSystem
import SqlLint.Plugin.Manifest
import SqlLint.Plugin.PatternRule
import SqlLint.Plugin.Reference
import SqlLint.Registry

/-!
# Loading plugins

Plugins are loaded in order, all or none: the first problem ends loading, and then no rule of any
plugin counts. For each plugin the manifest is read, its rules are checked one by one, and then each
must have an identifier that neither the registry nor a rule loaded before has.
-/

namespace SqlLint

/-- Why plugins cannot be loaded. -/
inductive PluginError
  /-- No file stands at the path of the manifest. -/
  | notFound (name path : String)
  | unreadable (name path cause : String)
  | malformed (name : String) (problem : DecodeError)
  /-- The pattern of a rule is no regular expression. -/
  | invalidPattern (plugin rule : String)
  /-- A pattern for files is none. -/
  | invalidGlob (plugin rule pattern : String) (problem : GlobError)
  | unknownSeverity (plugin rule value : String)
  | invalidRuleId (plugin rule : String)
  /-- The identifier of a rule is taken. -/
  | duplicateRule (plugin rule : String)
deriving DecidableEq, Repr

namespace PluginError

def message : PluginError → String
  | .notFound name path => s!"plugin '{name}' not found at {path}"
  | .unreadable name path cause => s!"failed to read plugin '{name}' from {path}: {cause}"
  | .malformed name problem => s!"failed to parse plugin '{name}': {problem.message}"
  | .invalidPattern plugin rule => s!"plugin '{plugin}' rule '{rule}': invalid pattern: regex error"
  | .invalidGlob plugin rule pattern problem =>
    s!"plugin '{plugin}' rule '{rule}': invalid files pattern `{pattern}`: {problem.message}"
  | .unknownSeverity plugin rule value =>
    s!"plugin '{plugin}' rule '{rule}': unknown severity `{value}`, expected: error, warning"
  | .invalidRuleId plugin rule =>
    s!"plugin '{plugin}': invalid rule id `{rule}`, expected lowercase letters, digits and '-'"
  | .duplicateRule plugin rule => s!"plugin '{plugin}' redefines rule '{rule}'"

def code : PluginError → String
  | .notFound _ _ => "tsql_batch::plugin::not_found"
  | .unreadable _ _ _ => "tsql_batch::plugin::io"
  | .malformed _ _ => "tsql_batch::plugin::parse"
  | .invalidPattern _ _ => "tsql_batch::plugin::pattern"
  | .invalidGlob _ _ _ _ => "tsql_batch::plugin::glob"
  | .unknownSeverity _ _ _ => "tsql_batch::plugin::severity"
  | .invalidRuleId _ _ => "tsql_batch::plugin::rule_id"
  | .duplicateRule _ _ => "tsql_batch::plugin::duplicate"

/-- Advice for mending the problem. -/
def help? : PluginError → Option String
  | .notFound _ _ => some "Check the plugin paths named by your configuration"
  | .malformed _ _ => some "Check the plugin manifest"
  | _ => none

end PluginError

namespace Plugin

/-- Whether a text can be the identifier of a plugin's rule. -/
def isRuleId (id : String) : Bool :=
  !id.isEmpty && id.toList.all fun c => c.isLower || c.isDigit || c = '-'

/-- The pattern for files that a text writes. -/
def fileGlob (plugin rule pattern : String) : Except PluginError Glob :=
  (Glob.parse pattern).mapError (.invalidGlob plugin rule pattern)

/-- The rule that an entry of a manifest describes. -/
def ruleOf (plugin : String) (entry : RuleEntry) : Except PluginError PatternRule := do
  if !isRuleId entry.id then throw (.invalidRuleId plugin entry.id)
  let some regex := Regex.ofText? entry.pattern | throw (.invalidPattern plugin entry.id)
  let some severity := Severity.ofWord? entry.severity
    | throw (.unknownSeverity plugin entry.id entry.severity)
  let files ← entry.files.mapM (fileGlob plugin entry.id)
  return {
    id := entry.id
    title := entry.title.getD entry.message
    category := entry.category.getD .errorProne
    severity
    find := regex.findAll
    message := entry.message
    files }

def load (fs : FileSystem) (p : PluginReference) : Except PluginError (List PatternRule) := do
  if !fs.isFile p.path then throw (.notFound p.name p.path)
  let text ← (fs.read p.path).mapError fun e => .unreadable p.name p.path e.message
  let manifest ← (Manifest.ofText text).mapError (.malformed p.name)
  manifest.rules.mapM (ruleOf p.name)

/-- The identifiers in `seen` and those of rules of a plugin, unless one of the latter is taken. -/
def claim (known : Registry) (plugin : String) (seen : List String) :
    List PatternRule → Except PluginError (List String)
  | [] => .ok seen
  | rule :: rest =>
    if known.contains rule.id || seen.contains rule.id then
      .error (.duplicateRule plugin rule.id)
    else claim known plugin (seen ++ [rule.id]) rest

/-- The rules of plugins, when identifiers in `seen` are taken besides those of the registry. -/
def loadAfter (fs : FileSystem) (known : Registry) (seen : List String) :
    List PluginReference → Except PluginError (List PatternRule)
  | [] => .ok []
  | p :: rest => do
    let rules ← load fs p
    let seen ← claim known p.name seen rules
    return rules ++ (← loadAfter fs known seen rest)

def loadAll (fs : FileSystem) (known : Registry) (plugins : List PluginReference) :
    Except PluginError (List PatternRule) :=
  loadAfter fs known [] plugins

end Plugin
end SqlLint
