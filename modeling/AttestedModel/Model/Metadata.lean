import AttestedModel.Json.Record
import AttestedModel.Text.Blank

/-!
# Model metadata

What a metadata server says about a model.  Every field may be left out; a field
of white space alone counts as left out, and white space around a value is no
part of it (`given`).
-/

namespace AttestedModel.Model

open Json (Field)

/-- The metadata of a model. -/
structure Metadata where
  id : Option String
  url : Option String
  name : Option String
  version : Option String
  framework : Option String
  target : Option String
  dtype : Option String
  encrypted : Bool
  kbs : Option String
  kbsUrl : Option String
  keyId : Option String
deriving DecidableEq, Repr

/-- A value without the white space around it, unless nothing is left. -/
def given (value : Option String) : Option String :=
  (value.map Text.trim).filter (· ≠ "")

namespace Metadata

/-- The declared fields. -/
def fields : List Field :=
  [.defaulted "id" .null, .defaulted "url" .null, .defaulted "name" .null,
    .defaulted "version" .null, .defaulted "framework" .null, .defaulted "target" .null,
    .defaulted "dtype" .null, .defaulted "encrypted" (.bool false), .defaulted "kbs" .null,
    .defaulted "kbs_url" .null, .defaulted "key_id" .null]

/-- The metadata of a document. -/
def ofJson? (document : Json) : Option Metadata := do
  let [id, url, name, version, framework, target, dtype, encrypted, kbs, kbsUrl, keyId] ←
    document.fields? fields | none
  return {
    id := ← id.optionalText?
    url := ← url.optionalText?
    name := ← name.optionalText?
    version := ← version.optionalText?
    framework := ← framework.optionalText?
    target := ← target.optionalText?
    dtype := ← dtype.optionalText?
    encrypted := ← encrypted.bool?
    kbs := ← kbs.optionalText?
    kbsUrl := ← kbsUrl.optionalText?
    keyId := ← keyId.optionalText? }

/-- The document of metadata. -/
def toJson (m : Metadata) : Json :=
  .record [("id", .ofOptionalText m.id), ("url", .ofOptionalText m.url),
    ("name", .ofOptionalText m.name), ("version", .ofOptionalText m.version),
    ("framework", .ofOptionalText m.framework), ("target", .ofOptionalText m.target),
    ("dtype", .ofOptionalText m.dtype), ("encrypted", .bool m.encrypted),
    ("kbs", .ofOptionalText m.kbs), ("kbs_url", .ofOptionalText m.kbsUrl),
    ("key_id", .ofOptionalText m.keyId)]

end Metadata

end AttestedModel.Model
