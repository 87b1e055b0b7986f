import AttestedModel.Error
import AttestedModel.RetryPolicy
import AttestedModel.Text.Blank

/-!
# Settings

The choices a retrieval is run with: where the metadata is, where the model
goes, which attestation runtime gives the evidence, and how the key broker is
spoken to.
-/

namespace AttestedModel

/-- The source of attestation evidence. -/
inductive Runtime
  | mock
  | tdx
deriving DecidableEq, Repr

namespace Runtime

/-- The name a runtime gives the trusted environment it runs in. -/
def teeType : Runtime → String
  | mock => "mock"
  | tdx => "intel_tdx"

/-- The runtime of a name, in any case of letters and with white space around it. -/
def ofName (name : String) : Except LoadError Runtime :=
  match (Text.trim name).map Char.toLower with
  | "mock" => .ok .mock
  | "tdx" => .ok .tdx
  | other => .error (.invalidArgument s!"未対応のAttestationランタイム: {other}")

end Runtime

/-- The kind of a key broker. -/
inductive BrokerKind
  | amber
deriving DecidableEq, Repr

/-- The kind of a name, which must match exactly. -/
def BrokerKind.ofName : (name : String) → Except LoadError BrokerKind
  | "amber" => .ok .amber
  | other => .error (.unsupportedBrokerType other)

/-- Whom the HTTP client trusts: certificate files besides, or instead of, the built-in roots. -/
structure Trust where
  extraCertificates : List String
  disableBuiltinRoots : Bool
deriving DecidableEq, Repr

/-- The settings of a retrieval. -/
structure Settings where
  modelInfoUrl : String
  modelDir : String
  httpTimeout : Duration
  retry : RetryPolicy
  trust : Trust
  runtime : Runtime
  keyTimeout : Option Duration
deriving DecidableEq

namespace Settings

/-- The directory a model goes to where none is named. -/
def defaultModelDir : String := "/tmp"

/-- The seconds an HTTP request may take where no limit is named. -/
def defaultHttpTimeout : Nat := 10

/-- The settings for a metadata server, with everything else at its default. -/
def standard (modelInfoUrl : String) : Settings where
  modelInfoUrl
  modelDir := defaultModelDir
  httpTimeout := .ofParts defaultHttpTimeout 0
  retry := .standard
  trust := { extraCertificates := [], disableBuiltinRoots := false }
  runtime := .tdx
  keyTimeout := none

end Settings

end AttestedModel
