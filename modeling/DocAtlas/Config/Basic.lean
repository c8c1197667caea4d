import DocAtlas.Disk
import DocAtlas.Document.Review
import DocAtlas.Extract.Extraction
import DocAtlas.Scan.Snapshot
import DocAtlas.Yaml.Reading

/-!
The configuration of a run, and what can be wrong with the settings that it is read from.
-/
namespace DocAtlas

structure Config where
  root : Disk.Place
  scan : Scan.Settings := {}
  adapters : List String := []
  limits : Extract.Limits := {}
  repair : Bool := false
  threshold : Float := Review.defaultThreshold
  output : String := "docs"
  projectName : Option String := none
  deadline : Option Float := none

namespace Config

def fileName : String := ".repodoc.yml"

/-- What is wrong with settings. -/
inductive Complaint where
  | malformed
  | notMapping
  | rulesNotList
  | ruleWithoutPattern
  | unknownEffect (pattern effect : String)
  | unsupportedRule (shown : String)
  | tooFewWorkers (key : String)
  | noComponents
  | negativeMinimum
  | unknownAdapters (names known : List String)
  | thresholdOutOfRange
  /-- Settings for which no run can be prepared. -/
  | unusable (reason : String)

def Complaint.message : Complaint → String
  | .malformed => "Failed to parse " ++ fileName ++ ": malformed text"
  | .notMapping => fileName ++ " must contain a mapping at the root"
  | .rulesNotList => "scan.rules must be a list"
  | .ruleWithoutPattern => "scan.rules entries require a pattern"
  | .unknownEffect pattern effect => Scan.unknownEffectMessage pattern effect
  | .unsupportedRule shown => "Unsupported scan rule entry: " ++ shown
  | .tooFewWorkers key => key ++ " must be at least 1"
  | .noComponents => "extract.max_abstractions must be at least 1"
  | .negativeMinimum => "extract.min_abstractions must not be negative"
  | .unknownAdapters names known =>
    "extract.adapters names unknown adapter(s): " ++ String.intercalate ", " names ++
      " (available: " ++ String.intercalate ", " known ++ ")"
  | .thresholdOutOfRange => "validate.repair_threshold must be between 0 and 1"
  | .unusable reason => "Invalid run settings: " ++ reason

/-- Why there is no configuration: a complaint about the settings, or a failure to read them at all.
-/
inductive Fault where
  | complaint (c : Complaint)
  | isDirectory (place : Disk.Place)
  | linkCircle (place : Disk.Place)
  | notText (fault : Text.Utf8.Fault)
  | scalar (fault : Yaml.ScalarFault)
  /-- Settings that are nested deeper than there is room for. -/
  | tooDeep
  /-- An integer beyond all real numbers. -/
  | tooLarge
  /-- A value that cannot be shown. -/
  | hidden (obstacle : Yaml.Value.Obstacle)

def Fault.message : Fault → String
  | .complaint c => c.message
  | .isDirectory place => "[Errno 21] Is a directory: " ++ quoted place.text
  | .linkCircle place => "Symlink loop from " ++ quoted place.text
  | .notText fault => fault.message
  | .scalar fault => Yaml.Reading.faultMessage fault
  | .tooDeep => "maximum recursion depth exceeded"
  | .tooLarge => "int too large to convert to float"
  | .hidden obstacle => obstacle.message

def complain {α : Type} (c : Complaint) : Except Fault α := .error (.complaint c)

def demand (b : Bool) (c : Complaint) : Except Fault Unit := if b then .ok () else complain c

end Config

end DocAtlas
