import AttestedModel.Http.Certificate
import AttestedModel.Http.Message
import AttestedModel.OsError
import AttestedModel.Settings
import AttestedModel.Url.Parser

/-!
# HTTP clients

A client is made from what it trusts: the built-in roots unless they are
disabled, and the certificates of files that must be readable.  It asks web
servers only (`address?`), under the address that its text stands for.
-/

namespace AttestedModel.Http

/-- A client. -/
structure Client where
  timeout : Duration
  roots : List Bytes
  builtinRoots : Bool

namespace Client

/-- The certificates of a file. -/
def readRoots (read : String → Except OsError Bytes) (path : String) :
    Except LoadError (Option (List Bytes)) :=
  match read path with
  | .ok content => .ok (Certificate.ofFile? content)
  | .error e =>
    .error (.invalidArgument s!"CA証明書の読み込みに失敗 ({path}): {e.message}")

/-- A client with a limit of time and what it trusts.  All files are read before any of their
contents is judged. -/
def build (read : String → Except OsError Bytes) (timeout : Duration) (trust : Trust) :
    Except LoadError Client := do
  let roots ← trust.extraCertificates.mapM (readRoots read)
  match roots.mapM id with
  | some roots =>
    return { timeout, roots := roots.flatten, builtinRoots := !trust.disableBuiltinRoots }
  | none => throw (.invalidArgument "HTTPクライアントの構築に失敗: builder error")

end Client

/-- Characters from which on an address is too long to be asked for. -/
def addressLimit : Nat := 65535

/-- A character that a web server's address may hold in its host. -/
def isHostChar (c : Char) : Bool :=
  c.isAlphanum || "!$&'()*+,-.:;=[]_~".toList.contains c

/-- The address of a web server that a text stands for, without its credentials.  Its fragment
counts for its length, but is no part of what is asked for. -/
def address? (text : String) : Option Url := do
  let url := (← (Url.parse text).toOption).withoutCredentials
  let host ← url.host
  if (url.scheme = "http".toList ∨ url.scheme = "https".toList) ∧
      url.toText.length < addressLimit ∧ host.chars.all isHostChar then
    some { url with fragment := none }
  else none

/-- How servers answer requests for usable addresses. -/
abbrev Network (σ : Type) := Request → σ → Except Fault Response × σ

/-- The answer to a request, which is sent only if its address is usable, and then with the
address that its text stands for. -/
def send (network : Network σ) (request : Request) (world : σ) : Except Fault Response × σ :=
  match address? request.url with
  | none => (.error .unusableAddress, world)
  | some url => network { request with url := url.toText } world

/-- A network on which no server is reached. -/
def unreachable : Network σ :=
  fun _ world => (.error .noConnection, world)

end AttestedModel.Http
