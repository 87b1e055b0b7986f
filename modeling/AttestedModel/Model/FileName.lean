import AttestedModel.Error
import AttestedModel.Text.Blank
import AttestedModel.Url.Parser

/-!
# File names of models

A model is staged under the last segment of its address's path, without the
ending of encrypted models.  A segment that names no file of its own is refused,
so that a staged file always lies in the directory it was meant for.
-/

namespace AttestedModel.Model

/-- The ending of encrypted models. -/
def encryptedEnding : List Char :=
  ".enc".toList

/-- The characters without one ending of encrypted models. -/
def dropEnding (cs : List Char) : List Char :=
  if encryptedEnding.isSuffixOf cs then cs.take (cs.length - encryptedEnding.length) else cs

/-- The file name of a last segment, if it can be one. -/
def fileNameOfSegment? (segment : List Char) : Option String :=
  let name := String.ofList (Text.trimChars (dropEnding segment))
  if name = "" ∨ name = "." ∨ name = ".." then none else some name

/-- The file name for a model's address. -/
def fileName (modelUrl : String) : Except LoadError String :=
  match Url.parse modelUrl with
  | .error fault =>
    .error (.validation s!"モデルURLが不正です ({modelUrl}): {fault.message}")
  | .ok url =>
    match fileNameOfSegment? (url.segments.getLast?.getD []) with
    | some name => .ok name
    | none => .error (.validation s!"モデルURLからファイル名を決定できません: {modelUrl}")

end AttestedModel.Model
