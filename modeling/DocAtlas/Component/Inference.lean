import DocAtlas.Component
import DocAtlas.Path
import DocAtlas.Text.Case

/-!
The role of a component, guessed from its name, its file and what it inherits from.
-/
namespace DocAtlas

def configTails : List String := ["Config", "Configuration", "Settings", "Options"]

def storeTails : List String :=
  ["Store", "Repository", "Repo", "Cache", "Dao", "DAO", "Database", "Storage", "Registry"]

def serviceTails : List String :=
  ["Service", "Server", "Client", "Controller", "Handler", "Manager", "Orchestrator", "Worker",
    "Runner", "Pipeline", "App", "Application", "Api", "API"]

def utilityTails : List String :=
  ["Helper", "Helpers", "Util", "Utils", "Builder", "Formatter", "Parser", "Validator", "Factory"]

def storeBases : List String := ["Model", "Base", "DeclarativeBase", "Document"]

def endsWithAny (tails : List String) (s : String) : Bool := tails.any (endsWith s)

def isConfigName (name : String) : Bool := endsWithAny configTails name

/-- A reference to a configuration type configures; any other one uses. -/
def Relation.ofName (name : String) : Relation := if isConfigName name then .configures else .uses

def utilityWords : List (List Char) :=
  ["util", "utils", "helper", "helpers", "common", "tool", "tools"].map String.toList

def dropFinalBreak (s : List Char) : List Char := if s.getLast? == some '\n' then s.dropLast else s

/-- Whether one of the parts of a file name between hyphens and underscores names a collection of
tools; a line feed at its end does not count. -/
def isUtilityStem (stem : List Char) : Bool :=
  (Text.splitWhere (fun c => c == '-' || c == '_') (dropFinalBreak stem)).any utilityWords.contains

/-- The last part of a dotted name. -/
def lastPart (dotted : String) : String := String.ofList (Text.afterLast '.' dotted.toList)

def Role.infer (name path : String) (bases : List String) : Role :=
  let segments := Path.segments (lowerText path)
  let baseNames := bases.map lastPart
  if isConfigName name || baseNames.any isConfigName then .config
  else if endsWithAny storeTails name || baseNames.any storeBases.contains then .store
  else if endsWithAny serviceTails name then .service
  else if endsWithAny utilityTails name then .utility
  else
    let file := (segments.getLast?.getD "").toList
    let stem := (Text.beforeLast? '.' file).getD file
    if stem == "config".toList || stem == "settings".toList ||
        segments.dropLast.contains "config" then .config
    else if isUtilityStem stem then .utility
    else .general

end DocAtlas
