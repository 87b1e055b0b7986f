import AttestedModel.Error
import AttestedModel.Evidence.Mock
import AttestedModel.OsError
import AttestedModel.Text.Blank
import AttestedModel.Text.Integer

/-!
# Report entries

The kernel of a trusted guest gives quotes through report entries: directories
with an attribute for what is to be quoted, one for the quote, and a counter that
each write of the former advances.  A quote is accepted only if the counter shows
that nobody else wrote in between.

`collect` makes an entry, takes a quote from it and removes it.  An entry that was
made is removed on every way out, and whether the removal fails does not matter.
-/

namespace AttestedModel.Evidence

/-- The directory of the report entries. -/
def reportRoot : String := "/sys/kernel/config/tsm/report"

/-- The provider that gives quotes of a guest. -/
def guestProvider : String := "tdx_guest"

/-- The readable attributes of an entry. -/
inductive Attribute
  | provider
  | generation
  | outblob
deriving DecidableEq, Repr

/-- The name of an attribute. -/
def Attribute.name : Attribute → String
  | provider => "provider"
  | generation => "generation"
  | outblob => "outblob"

/-- What the kernel was asked to do, whether it did it or not. -/
inductive Step
  | make (entry : String)
  | read (entry : String) (part : Attribute)
  | write (entry : String) (content : Bytes) (accepted : Bool)
  | remove (entry : String)
deriving DecidableEq, Repr

/-- How the kernel answers.  It keeps a state of its own. -/
structure Kernel (σ : Type) where
  make : (entry : String) → σ → Except OsError Unit × σ
  read : (entry : String) → Attribute → σ → Except OsError Bytes × σ
  write : (entry : String) → (content : Bytes) → σ → Except OsError Unit × σ
  remove : (entry : String) → σ → Except OsError Unit × σ

/-- Why there is no evidence: a reported failure, or a counter that cannot be advanced. -/
inductive Failure
  | reported (error : LoadError)
  | crashed
deriving DecidableEq, Repr

/-- A failure with the wording of an unavailable evidence. -/
def unavailable (detail : String) : Failure :=
  .reported (.evidenceUnavailable detail)

/-- The kernel's state and the steps so far. -/
structure Trace (σ : Type) where
  state : σ
  steps : List Step

/-- A use of the kernel that may fail. -/
abbrev Use (σ : Type) := ExceptT Failure (StateM (Trace σ))

/-- One step, whose failure is described. -/
def ask (step : Except OsError α → Step) (action : σ → Except OsError α × σ) (describe : String) :
    Use σ α := do
  let trace ← get
  let (answer, state) := action trace.state
  set { state, steps := trace.steps ++ [step answer] : Trace σ }
  match answer with
  | .ok a => return a
  | .error e => throw (unavailable s!"{describe}: {e.message}")

/-- The counter of an entry. -/
def readGeneration (kernel : Kernel σ) (entry : String) : Use σ Nat := do
  let content ← ask (fun _ => .read entry .generation) (kernel.read entry .generation)
    "generationの読み出しに失敗"
  match Text.Integer.natural (Nat.pow 2 64 - 1) (Text.trim (Text.Utf8.decodeLossy content)) with
  | .ok n => return n
  | .error fault => throw (unavailable s!"generationが不正です: {fault.message}")

/-- A quote of the report data, taken from an entry that is there. -/
def takeQuote (kernel : Kernel σ) (entry : String) (data : Bytes) : Use σ Bytes := do
  let content ← ask (fun _ => .read entry .provider) (kernel.read entry .provider)
    "providerの読み出しに失敗"
  let provider := Text.trim (Text.Utf8.decodeLossy content)
  if provider ≠ guestProvider then
    throw (unavailable s!"TDXではないTSMプロバイダです: {provider}")
  let before ← readGeneration kernel entry
  ask (fun answer => .write entry data answer.isOk) (kernel.write entry data)
    "inblobの書き込みに失敗"
  let quote ← ask (fun _ => .read entry .outblob) (kernel.read entry .outblob)
    "outblobの読み出しに失敗"
  let after ← readGeneration kernel entry
  if before + 1 = Nat.pow 2 64 then throw .crashed
  if after ≠ before + 1 then
    throw (unavailable s!"他のプロセスと競合しました（generation {before} → {after}）")
  if quote.isEmpty then throw (unavailable "空のQuoteが返されました")
  return quote

/-- The name of an entry with a random part. -/
def entryName (suffix : Bytes) : String :=
  "cnap-" ++ Text.Hex.encode suffix

/-- A quote for a binding, taken from an entry of its own. -/
def collect (kernel : Kernel σ) (suffix binding : Bytes) (state : σ) :
    Except Failure Bytes × Trace σ :=
  let entry := entryName suffix
  let made := (ask (fun _ => .make entry) (kernel.make entry)
    "configfs-tsmのレポートを作成できません（TDゲスト外で実行していませんか？）").run
      { state, steps := [] }
  match made with
  | (.error failure, trace) => (.error failure, trace)
  | (.ok (), trace) =>
    let (result, trace) := (takeQuote kernel entry (reportData binding)).run trace
    let (_, state) := kernel.remove entry trace.state
    (result, { state, steps := trace.steps ++ [.remove entry] })

/-- The mock evidence for a binding. -/
def collectMock (binding : Bytes) : Except Failure Bytes :=
  match mock? binding with
  | some evidence => .ok evidence
  | none => .error (unavailable "binding_dataが空です")

end AttestedModel.Evidence
