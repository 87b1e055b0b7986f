import AttestedModel.CommandLine.Program

/-!
# The command line

Hands the words of the command line and the environment to the program, and does
on the machine's disk what the program decides.  The standard library speaks to
no server, so a retrieval ends here as if none could be reached.
-/

namespace AttestedModel.CommandLine

/-- The operating system's error in an error of input or output. -/
def osErrorOf : IO.Error → OsError
  | .noFileOrDirectory _ code _ => .numbered code.toNat
  | .permissionDenied _ code _ => .numbered code.toNat
  | .alreadyExists _ code _ => .numbered code.toNat
  | .inappropriateType _ code _ => .numbered code.toNat
  | .invalidArgument _ code _ => .numbered code.toNat
  | .resourceExhausted _ code _ => .numbered code.toNat
  | .resourceBusy code _ => .numbered code.toNat
  | .hardwareFault code _ => .numbered code.toNat
  | .noSuchThing _ code _ => .numbered code.toNat
  | .otherError code _ => .numbered code.toNat
  | _ => .inputOutput

/-- An action, with the operating system's error if it fails. -/
def attemptIO (action : IO α) : IO (Except OsError α) := do
  try return .ok (← action)
  catch e => return .error (osErrorOf e)

/-- What reading a file gives. -/
def readBytes (path : String) : IO (Except OsError Bytes) := do
  return (← attemptIO (IO.FS.readBinFile path)).map fun content => content.toList

/-- What reading each of some files gives. -/
def readAll (paths : List String) : IO (String → Except OsError Bytes) := do
  let contents ← paths.mapM fun path => do return (path, ← readBytes path)
  return fun path => (contents.lookup path).getD (.error .noSuchFile)

/-- Writes all of a new file and hands it to the operating system.  There is no call here that
waits until the disk has it. -/
def writeOut (file : IO.FS.Handle) (data : Bytes) : IO Unit := do
  file.write (ByteArray.mk data.toArray)
  file.flush

/-- Stages a file by the steps of `Staging.stage`: a temporary one is made, written in full and
then moved onto its name.  If it cannot be written or moved, it is removed. -/
def stageFile (directory name : String) (data : Bytes) : IO (Except LoadError Unit) := do
  let random ← IO.getRandomBytes 3
  let temporary := Path.join directory (".tmp" ++ Text.Hex.encode random.toList)
  let target := Path.join directory name
  match ← attemptIO (IO.FS.Handle.mk temporary .writeNew) with
  | .error e => return .error (Staging.cannotCreate directory e)
  | .ok file =>
    match ← attemptIO (writeOut file data) with
    | .error e =>
      discard (attemptIO (IO.FS.removeFile temporary))
      return .error (Staging.cannotWrite e)
    | .ok () =>
      match ← attemptIO (IO.FS.rename temporary target) with
      | .ok () => return .ok ()
      | .error e =>
        discard (attemptIO (IO.FS.removeFile temporary))
        return .error (Staging.cannotPlace target e)

/-- Seals a file. -/
def encryptOnDisk (input keyFile output : String) : IO Ending := do
  let iv ← IO.getRandomBytes 12
  match encryptPlan (← readAll [input, keyFile]) iv.toList input keyFile output with
  | .error t => return failedWith t
  | .ok (directory, name, envelope) =>
    match ← stageFile directory name envelope with
    | .ok () => return succeeded ""
    | .error e => return failedWith (.plain e.message)

/-- A world in which no server is reached and no key pair is made. -/
def isolated : Model.Environment Unit where
  fetch := Http.unreachable
  peers := {
    makeKeyPair := fun _ => (.error (.keyGeneration "no source of primes"), ())
    collectEvidence := fun binding _ => (Evidence.collectMock binding, ())
    post := Model.Environment.post Http.unreachable }
  faults := fun _ => (.none, ())

/-- Retrieves a model. -/
def retrieveHere (kind modelId : String) (settings : Settings) : IO Ending := do
  let read ← readAll settings.trust.extraCertificates
  let action := retrieveModel isolated read kind modelId settings
  match (endingOf action (Session.start () { entries := [], workingDirectory := [] })).1 with
  | .done ending => return ending
  | _ => return failedWith (.plain LoadError.cancelled.message)

/-- The values of the environment variables that options know. -/
def readVariables : IO (String → Option String) := do
  let values ← retrieveSwitches.mapM fun s => do return (s.standIn, ← IO.getEnv s.standIn)
  return fun name => (values.lookup name).join

/-- Does what the words of the command line ask for. -/
def perform (words : List String) : IO Ending := do
  match Invocation.ofWords (← readVariables) words with
  | .encrypt input keyFile output => encryptOnDisk input keyFile output
  | .retrieve kind modelId settings => retrieveHere kind modelId settings
  | .help => return helpEnding
  | .version => return versionEnding
  | .misuse => return misuseEnding

end AttestedModel.CommandLine

/-- The program. -/
def main (words : List String) : IO UInt32 := do
  let ending ← AttestedModel.CommandLine.perform words
  IO.print ending.output
  IO.eprint ending.errors
  return ending.exitCode.toUInt32
