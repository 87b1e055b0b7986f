import AttestedModel.Model.Metadata

/-!
# Model information

What a retrieval reports: where the model was staged, what the metadata said
about it, and its metrics, which are all zero until someone measures them.
-/

namespace AttestedModel.Model

open Json (Field)
open Decimal (Binary64)

/-- The describing part of the metadata. -/
structure Details where
  name : Option String
  version : Option String
  framework : Option String
  target : Option String
  dtype : Option String
deriving DecidableEq, Repr

namespace Details

/-- The declared fields. -/
def fields : List Field :=
  [.nullable "name", .nullable "version", .nullable "framework", .nullable "target",
    .nullable "dtype"]

/-- The details of a document. -/
def ofJson? (document : Json) : Option Details := do
  let [name, version, framework, target, dtype] ← document.fields? fields | none
  return {
    name := ← name.optionalText?
    version := ← version.optionalText?
    framework := ← framework.optionalText?
    target := ← target.optionalText?
    dtype := ← dtype.optionalText? }

/-- The document of details. -/
def toJson (d : Details) : Json :=
  .record [("name", .ofOptionalText d.name), ("version", .ofOptionalText d.version),
    ("framework", .ofOptionalText d.framework), ("target", .ofOptionalText d.target),
    ("dtype", .ofOptionalText d.dtype)]

/-- The describing part of metadata, as it stands there. -/
def ofMetadata (m : Metadata) : Details :=
  { name := m.name, version := m.version, framework := m.framework, target := m.target,
    dtype := m.dtype }

end Details

/-- The metrics of a model. -/
structure Metrics where
  accuracy : Binary64
  precision : Binary64
  recallRate : Binary64
  f1Score : Binary64
  loss : Binary64
deriving DecidableEq, Repr

namespace Metrics

/-- The metrics of a model that nobody has measured. -/
def zero : Metrics :=
  ⟨.zero, .zero, .zero, .zero, .zero⟩

/-- The declared fields. -/
def fields : List Field :=
  [.required "accuracy", .required "precision", .required "recall", .required "f1_score",
    .required "loss"]

/-- The metrics of a document. -/
def ofJson? (document : Json) : Option Metrics := do
  let [accuracy, precision, recallRate, f1Score, loss] ← document.fields? fields | none
  return {
    accuracy := ← accuracy.real?
    precision := ← precision.real?
    recallRate := ← recallRate.real?
    f1Score := ← f1Score.real?
    loss := ← loss.real? }

/-- The document of metrics. -/
def toJson (m : Metrics) : Json :=
  .record [("accuracy", .ofReal m.accuracy), ("precision", .ofReal m.precision),
    ("recall", .ofReal m.recallRate), ("f1_score", .ofReal m.f1Score), ("loss", .ofReal m.loss)]

end Metrics

/-- A staged model. -/
structure Info where
  id : String
  path : String
  details : Details
  uploadedDate : UInt64
  metrics : Metrics
deriving DecidableEq, Repr

namespace Info

/-- The declared fields. -/
def fields : List Field :=
  [.required "id", .required "path", .required "details", .required "uploaded_date",
    .required "metrics"]

/-- The information of a document. -/
def ofJson? (document : Json) : Option Info := do
  let [id, path, details, uploadedDate, metrics] ← document.fields? fields | none
  return {
    id := ← id.text?
    path := ← path.text?
    details := ← Details.ofJson? details
    uploadedDate := .ofNat (← uploadedDate.natBelow? (Nat.pow 2 64))
    metrics := ← Metrics.ofJson? metrics }

/-- The document of information. -/
def toJson (i : Info) : Json :=
  .record [("id", .ofText i.id), ("path", .ofText i.path), ("details", i.details.toJson),
    ("uploaded_date", .ofNat i.uploadedDate.toNat), ("metrics", i.metrics.toJson)]

end Info

end AttestedModel.Model
