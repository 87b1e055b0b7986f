import AttestedModel.Settings
import AttestedModel.Text.Integer
import AttestedModel.Text.Split

/-!
# Arguments

What the words of a command line ask for.  A subcommand is followed by options,
each given once as `--name value` or `--name=value`; a value that begins with a
hyphen can only follow the equals sign.  An option that is not given may be given
by an environment variable.

Everything that is not understood is `Invocation.misuse`; the first thing that
decides, from left to right, is what counts.
-/

namespace AttestedModel.CommandLine

/-- What the program is asked to do. -/
inductive Invocation
  | retrieve (kind modelId : String) (settings : Settings)
  | encrypt (input keyFile output : String)
  | help
  | version
  | misuse
deriving DecidableEq

/-- How an option takes values. -/
inductive Arity
  | one
  /-- Several, between commas and by being given again. -/
  | many
  | flag
deriving DecidableEq, Repr

/-- An option of a subcommand. -/
structure Switch where
  name : String
  /-- The environment variable that stands in for it. -/
  standIn : String
  arity : Arity
  accepts : String → Bool

/-- A value of any text. -/
def anyText (_ : String) : Bool := true

/-- A path, which may not be empty. -/
def isPath (value : String) : Bool := value ≠ ""

/-- The value of a count of 64 bits. -/
def count64? (value : String) : Option Nat :=
  (Text.Integer.natural (Nat.pow 2 64 - 1) value).toOption

/-- The value of a count of 32 bits, read as an integer of 64 bits. -/
def count32? (value : String) : Option UInt32 :=
  match Text.Integer.signed (Nat.pow 2 63) (Nat.pow 2 63 - 1) value with
  | .ok (.ofNat n) => if n < Nat.pow 2 32 then some (.ofNat n) else none
  | _ => none

/-- The value of a flag where a variable gives it. -/
def truth? : String → Option Bool
  | "true" => some true
  | "false" => some false
  | _ => none

/-- The options of a retrieval. -/
def retrieveSwitches : List Switch :=
  [ { name := "model-info-url", standIn := "CNAP_MODEL_INFO_URL", arity := .one,
      accepts := anyText },
    { name := "model-id", standIn := "CNAP_MODEL_ID", arity := .one, accepts := anyText },
    { name := "provider", standIn := "CNAP_MODEL_PROVIDER", arity := .one, accepts := anyText },
    { name := "model-dir", standIn := "CNAP_MODEL_DIR", arity := .one, accepts := isPath },
    { name := "attestation", standIn := "CNAP_ATTESTATION", arity := .one,
      accepts := fun value => (Runtime.ofName value).isOk },
    { name := "http-timeout-sec", standIn := "CNAP_HTTP_TIMEOUT_SEC", arity := .one,
      accepts := fun value => (count64? value).isSome },
    { name := "key-timeout-sec", standIn := "CNAP_KEY_TIMEOUT_SEC", arity := .one,
      accepts := fun value => (count64? value).isSome },
    { name := "max-attempts", standIn := "CNAP_KBS_MAX_ATTEMPTS", arity := .one,
      accepts := fun value => (count32? value).isSome },
    { name := "ca-cert", standIn := "CNAP_CA_CERT", arity := .many, accepts := isPath },
    { name := "disable-builtin-roots", standIn := "CNAP_DISABLE_BUILTIN_ROOTS", arity := .flag,
      accepts := fun value => (truth? value).isSome } ]

/-- The options of an encryption; no variable stands in for them. -/
def encryptSwitches : List Switch :=
  ["input", "key-file", "output"].map fun name =>
    { name, standIn := "", arity := .one, accepts := isPath }

/-- The values that options were given, by name. -/
abbrev Given := List (String × List String)

/-- What reading the options comes to. -/
inductive Options
  | given (values : Given)
  | help
  | misuse

/-- A word that looks like an option. -/
def isOption (word : String) : Bool :=
  match word.toList with
  | '-' :: _ :: _ => true
  | _ => false

/-- The texts between the commas. -/
def atCommas (value : String) : List String :=
  (Text.pieces (· = ',') value.toList).map String.ofList

/-- The values of an option in a text. -/
def Switch.values (s : Switch) (value : String) : List String :=
  if s.arity = .many then atCommas value else [value]

/-- The values so far with those of one more option; none if it may not be given (again) or a
value is not accepted. -/
def record (s : Switch) (value : String) (given : Given) : Option Given :=
  let before := given.lookup s.name
  let values := s.values value
  if (before.isSome ∧ s.arity ≠ .many) ∨ ¬ values.all s.accepts then none
  else some ((s.name, before.getD [] ++ values) :: given.filter (·.1 ≠ s.name))

/-- The name of a long option, and the value after its equals sign. -/
def longOption? (word : String) : Option (String × Option String) :=
  match word.toList with
  | '-' :: '-' :: cs =>
    let name := String.ofList (cs.takeWhile (· ≠ '='))
    let value := ((cs.dropWhile (· ≠ '=')).tail?).map String.ofList
    some (name, value)
  | _ => none

/-- The options that words give, after those given before. -/
def readOptions (switches : List Switch) (given : Given) : (words : List String) → Options
  | [] => .given given
  | word :: words =>
    if word = "--" then (if words = [] then .given given else .misuse)
    else
      match longOption? word with
      | none => if word.toList.take 2 = ['-', 'h'] then .help else .misuse
      | some ("help", none) => .help
      | some (name, value) =>
        match switches.find? (·.name = name), value with
        | none, _ => .misuse
        | some s, some value =>
          if s.arity = .flag then .misuse
          else
            match record s value given with
            | some given => readOptions switches given words
            | none => .misuse
        | some s, none =>
          if s.arity = .flag then
            match record s "true" given with
            | some given => readOptions switches given words
            | none => .misuse
          else
            match words with
            | value :: words =>
              if isOption value then .misuse
              else
                match record s value given with
                | some given => readOptions switches given words
                | none => .misuse
            | [] => .misuse

/-- The values with those that the environment gives to the options not given. -/
def withEnvironment (switches : List Switch) (environment : String → Option String)
    (given : Given) : Option Given :=
  switches.foldl (fun given? s => do
    let given ← given?
    if (given.lookup s.name).isSome ∨ s.standIn = "" then some given
    else
      match environment s.standIn with
      | some value => record s value given
      | none => some given) (some given)

/-- The value of an option. -/
def Given.value? (given : Given) (name : String) : Option String :=
  (given.lookup name).bind (·.head?)

/-- The settings that options give. -/
def settingsOf (modelInfoUrl : String) (given : Given) : Settings :=
  let standard := Settings.standard modelInfoUrl
  let seconds (name : String) : Option Duration :=
    ((given.value? name).bind count64?).map (Duration.ofParts · 0)
  { standard with
    modelDir := (given.value? "model-dir").getD standard.modelDir
    httpTimeout := (seconds "http-timeout-sec").getD standard.httpTimeout
    retry := { standard.retry with
      maxAttempts := ((given.value? "max-attempts").bind count32?).getD
        standard.retry.maxAttempts }
    trust := {
      extraCertificates := (given.lookup "ca-cert").getD []
      disableBuiltinRoots := ((given.value? "disable-builtin-roots").bind truth?).getD false }
    runtime := ((given.value? "attestation").bind fun name => (Runtime.ofName name).toOption).getD
      standard.runtime
    keyTimeout := seconds "key-timeout-sec" }

/-- The retrieval that options ask for. -/
def retrieval (given : Given) : Invocation :=
  match given.value? "model-info-url", given.value? "model-id" with
  | some url, some id =>
    .retrieve ((given.value? "provider").getD "simple") id (settingsOf url given)
  | _, _ => .misuse

/-- The encryption that options ask for. -/
def encryption (given : Given) : Invocation :=
  match given.value? "input", given.value? "key-file", given.value? "output" with
  | some input, some keyFile, some output => .encrypt input keyFile output
  | _, _, _ => .misuse

/-- What a subcommand with these options asks for. -/
def subcommand (switches : List Switch) (environment : String → Option String)
    (build : Given → Invocation) (words : List String) : Invocation :=
  match readOptions switches [] words with
  | .help => .help
  | .misuse => .misuse
  | .given values =>
    match withEnvironment switches environment values with
    | some values => build values
    | none => .misuse

/-- What the words after `help` ask for: help, also on a subcommand. -/
def helpOn : List String → Invocation
  | [] => .help
  | ["retrieve"] => .help
  | ["seal"] => .help
  | ["help"] => .help
  | _ => .misuse

/-- What the words of a command line ask for. -/
def Invocation.ofWords (environment : String → Option String) : List String → Invocation
  | [] => .misuse
  | "retrieve" :: words => subcommand retrieveSwitches environment retrieval words
  | "seal" :: words => subcommand encryptSwitches environment encryption words
  | "help" :: words => helpOn words
  | "--help" :: _ => .help
  | "--version" :: _ => .version
  | word :: _ =>
    match word.toList.take 2 with
    | ['-', 'h'] => .help
    | ['-', 'V'] => .version
    | _ => .misuse

end AttestedModel.CommandLine
