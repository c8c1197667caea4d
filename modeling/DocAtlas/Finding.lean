import DocAtlas.Json.Basic

/-!
Findings: what a stage of a run has to report without stopping it.
-/
namespace DocAtlas

inductive Finding.Kind where
  | scanExclusions
  | unitSkipped
  | symlinkCycle
  | adapterError
  | kindConflict
  | idCollision
  | inheritanceCycle
  | unresolvedReference
  | danglingReference
  | repairedReference
  | deadlineExceeded
deriving DecidableEq

def Finding.Kind.label : Finding.Kind → String
  | .scanExclusions => "scan-exclusions"
  | .unitSkipped => "unit-skipped"
  | .symlinkCycle => "symlink-cycle"
  | .adapterError => "adapter-error"
  | .kindConflict => "kind-conflict"
  | .idCollision => "abstraction-id-collision"
  | .inheritanceCycle => "extends-cycle-detected"
  | .unresolvedReference => "unresolved-reference"
  | .danglingReference => "dangling-cross-reference"
  | .repairedReference => "cross-reference-repaired"
  | .deadlineExceeded => "deadline-exceeded"

def Finding.Kind.all : List Finding.Kind :=
  [.scanExclusions, .unitSkipped, .symlinkCycle, .adapterError, .kindConflict, .idCollision,
    .inheritanceCycle, .unresolvedReference, .danglingReference, .repairedReference,
    .deadlineExceeded]

structure Finding where
  kind : Finding.Kind
  stage : String
  subject : String
  message : String
  details : Keyed Json := []

namespace Finding

def toJson (f : Finding) : Json :=
  .object [("kind", .text f.kind.label), ("stage", .text f.stage), ("subject", .text f.subject),
    ("message", .text f.message), ("details", .object f.details)]

def same (a b : Finding) : Bool :=
  a.kind == b.kind && a.stage == b.stage && a.subject == b.subject && a.message == b.message &&
    Json.same (.object a.details) (.object b.details)

end Finding

end DocAtlas
