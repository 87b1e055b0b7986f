import AttestedModel.CommandLine.Arguments
import AttestedModel.Json.Printer
import AttestedModel.Model.Retrieval

/-!
# The program

A run of the program ends with an exit code and the texts of its two streams:
zero and what was asked for, one and the reason of a failure, two where the
command line was not understood.

`encryptFile` seals one file under the key in another one.  Its output is staged,
so that it may replace either of them, and nothing changes if it fails.
-/

namespace AttestedModel.CommandLine

/-- The name of the program. -/
def programName : String := "cnap-model-loader"

/-- The version of the program. -/
def programVersion : String := "0.1.0"

/-- How a run ends. -/
structure Ending where
  exitCode : Nat
  output : String
  errors : String
deriving DecidableEq, Repr

/-- Why a run fails: a message, and what caused it if that is said apart. -/
structure Trouble where
  message : String
  cause : Option String
deriving DecidableEq, Repr

/-- A trouble without another cause. -/
def Trouble.plain (message : String) : Trouble :=
  { message, cause := none }

/-- The wording of a trouble. -/
def Trouble.text (t : Trouble) : String :=
  match t.cause with
  | none => s!"Error: {t.message}\n"
  | some cause => s!"Error: {t.message}\n\nCaused by:\n    {cause}\n"

/-- The run that did what it was asked for. -/
def succeeded (output : String) : Ending :=
  { exitCode := 0, output, errors := "" }

/-- The run that failed. -/
def failedWith (t : Trouble) : Ending :=
  { exitCode := 1, output := "", errors := t.text }

/-- How the program is called. -/
def usage : String :=
  s!"Usage: {programName} <COMMAND>\n\nCommands:\n" ++
  "  retrieve  Fetch a model, decrypt it with a key from the key broker and stage it\n" ++
  "  seal      Encrypt a model file into the envelope format\n" ++
  "  help      Print this message or the help of the given subcommand(s)\n"

/-- The components of a path without those at the end that lead nowhere; the first one always
counts. -/
def trimComponents : List (List Char) → List (List Char)
  | [] => []
  | first :: rest =>
    first :: (rest.reverse.dropWhile fun part => part = [] || part = ['.']).reverse

/-- The directory and the name of a file, if the path names one.  A name that is not UTF-8 would
count as none, but here every path is text. -/
def splitOutput? (path : String) : Option (String × String) :=
  let components := trimComponents (Text.pieces (· = '/') path.toList)
  match components.getLast? with
  | none => none
  | some name =>
    if name = [] ∨ name = ['.'] ∨ name = ['.', '.'] then none
    else
      let directory := match trimComponents components.dropLast with
        | [] => ['.']
        | [[]] => ['/']
        | parents => ['/'].intercalate parents
      some (String.ofList directory, String.ofList name)

/-- The content of a file that the program needs. -/
def readFile (read : String → Except OsError Bytes) (purpose path : String) :
    Except Trouble Bytes :=
  match read path with
  | .ok content => .ok content
  | .error e => .error { message := s!"{purpose}を読み込めません: {path}", cause := some e.message }

/-- What is to be staged, and where: the envelope of a file under the key in another file. -/
def encryptPlan (read : String → Except OsError Bytes) (iv : Bytes)
    (input keyFile output : String) : Except Trouble (String × String × Bytes) := do
  let plaintext ← readFile read "モデルファイル" input
  let key ← readFile read "鍵ファイル" keyFile
  let envelope ← (Envelope.encrypt plaintext key iv).mapError fun e => .plain e.message
  match splitOutput? output with
  | some (directory, name) => return (directory, name, envelope)
  | none => throw (.plain s!"出力ファイル名が不正です: {output}")

/-- Seals a file; gives the path of the envelope, and the disk afterwards. -/
def encryptFile (read : String → Except OsError Bytes) (disk : Disk) (iv : Bytes)
    (input keyFile output : String) (faults : Staging.Faults) : Except Trouble String × Disk :=
  match encryptPlan read iv input keyFile output with
  | .error t => (.error t, disk)
  | .ok (directory, name, envelope) =>
    let staged := Staging.stage disk directory name envelope faults
    (staged.result.mapError fun e => .plain e.message, staged.disk)

/-- The ending of a run, from how an action ends. -/
def endingOf (action : Action σ String) : Action σ Ending :=
  fun s =>
    match action s with
    | (.done output, s) => (.done (succeeded output), s)
    | (.failed e, s) => (.done (failedWith (.plain e.message)), s)
    | (.never, s) => (.never, s)

/-- Retrieves a model; the output is its description. -/
def retrieveModel (env : Model.Environment σ) (read : String → Except OsError Bytes)
    (kind modelId : String) (settings : Settings) : Action σ String := do
  let provider ← Action.ofExcept (Model.Provider.ofSettings read kind modelId settings)
  let info ← Model.Provider.getInfo env provider settings.keyTimeout
  return info.toJson.toPretty ++ "\n"

/-- The run that was asked how the program is called. -/
def helpEnding : Ending :=
  succeeded usage

/-- The run that was asked for the version. -/
def versionEnding : Ending :=
  succeeded s!"{programName} {programVersion}\n"

/-- The run whose command line was not understood. -/
def misuseEnding : Ending :=
  { exitCode := 2, output := "", errors := usage }

/-- A run of the program, in a world that depends on the runtime chosen.  The nonce is drawn
anew for each run. -/
def run (env : Runtime → Model.Environment σ) (iv : Bytes) (invocation : Invocation) :
    Action σ Ending :=
  match invocation with
  | .help => pure helpEnding
  | .version => pure versionEnding
  | .misuse => pure misuseEnding
  | .retrieve kind modelId settings => fun s =>
    endingOf (retrieveModel (env settings.runtime) s.disk.read kind modelId settings) s
  | .encrypt input keyFile output => fun s =>
    let (result, disk) := encryptFile s.disk.read s.disk iv input keyFile output .none
    (.done (match result with
      | .ok _ => succeeded ""
      | .error t => failedWith t), { s with disk })

end AttestedModel.CommandLine
