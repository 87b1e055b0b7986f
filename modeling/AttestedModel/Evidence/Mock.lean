import AttestedModel.Digest.Sha2
import AttestedModel.Json.Printer
import AttestedModel.Json.Record
import AttestedModel.Text.Hex
import AttestedModel.Text.Utf8

/-!
# Mock evidence

A document in the place of a quote, for machines without a trusted environment.
Its measurements are all zero; only the report data depends on what the evidence
is bound to.
-/

namespace AttestedModel.Evidence

open Json (Field)

/-- What evidence commits to: the SHA-512 digest of the binding. -/
def reportData (binding : Bytes) : Bytes :=
  Digest.sha512 binding

/-- A mock document. -/
structure MockDocument where
  moduleId : String
  mrtd : Bytes
  rtmrs : List Bytes
  reportData : String
deriving DecidableEq, Repr

namespace MockDocument

/-- The declared fields. -/
def fields : List Field :=
  [.required "module_id", .required "mrtd", .required "rtmrs", .required "report_data"]

/-- The mock document of a JSON document. -/
def ofJson? (document : Json) : Option MockDocument := do
  let [moduleId, mrtd, rtmrs, reportData] ← document.fields? fields | none
  return {
    moduleId := ← moduleId.text?
    mrtd := ← mrtd.list? Json.byte?
    rtmrs := ← rtmrs.list? (Json.list? Json.byte?)
    reportData := ← reportData.text? }

/-- The JSON document of a mock document. -/
def toJson (d : MockDocument) : Json :=
  .record [("module_id", .ofText d.moduleId), ("mrtd", .ofBytes d.mrtd),
    ("rtmrs", .array (d.rtmrs.map .ofBytes)), ("report_data", .ofText d.reportData)]

/-- Bytes in a measurement. -/
def measurementLength : Nat := 48

/-- The document for a binding. -/
def forBinding (binding : Bytes) : MockDocument :=
  let zeros : Bytes := List.replicate measurementLength 0
  { moduleId := "mock-td", mrtd := zeros, rtmrs := List.replicate 4 zeros,
    reportData := Text.Hex.encode (Evidence.reportData binding) }

end MockDocument

/-- The mock evidence for a binding that is not empty. -/
def mock? (binding : Bytes) : Option Bytes :=
  if binding.isEmpty then none
  else some (Text.Utf8.encode (MockDocument.forBinding binding).toJson.toCompact)

end AttestedModel.Evidence
