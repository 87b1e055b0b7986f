/-!
# Errors

The causes for which an operation fails, and their wording.  `CryptoError` is
what the envelope and the key pair report; `LoadError` is what a retrieval
reports, and every `CryptoError` has its place there (`LoadError.ofCrypto`).

All messages are Japanese, the language of the program's users.
-/

namespace AttestedModel

/-- Why a cryptographic operation fails. -/
inductive CryptoError
  | invalidArgument (detail : String)
  | keyGeneration (detail : String)
  | publicKey (detail : String)
  | envelopeDecode (detail : String)
  | authenticationFailure
  | encryptError
  | unwrapError
  | wrapError (detail : String)
deriving DecidableEq, Repr

/-- The wording of a cryptographic failure. -/
def CryptoError.message : CryptoError → String
  | invalidArgument detail => s!"不正な引数: {detail}"
  | keyGeneration detail => s!"鍵ペアの生成に失敗しました: {detail}"
  | publicKey detail => s!"公開鍵の処理に失敗しました: {detail}"
  | envelopeDecode detail => s!"エンベロープのデコードに失敗しました: {detail}"
  | authenticationFailure => "AES-GCMの認証タグ検証に失敗しました"
  | encryptError => "AES-GCM暗号化に失敗しました"
  | unwrapError => "RSA-OAEPによる鍵のアンラップに失敗しました"
  | wrapError detail => s!"RSA-OAEPによる鍵のラップに失敗しました: {detail}"

/-- Why a retrieval fails. -/
inductive LoadError
  | invalidArgument (detail : String)
  | cryptoInit (detail : String)
  | evidenceUnavailable (detail : String)
  | keyBrokerUnreachable (detail : String)
  | malformedResponse (detail : String)
  | decryption (detail : String)
  | authenticationFailure
  | envelopeDecode (detail : String)
  | unsupportedBrokerType (name : String)
  | validation (detail : String)
  | connection (detail : String)
  | timeout
  | cancelled
  | staging (detail : String)
  | sealing (detail : String)
deriving DecidableEq, Repr

/-- The wording of a failed retrieval. -/
def LoadError.message : LoadError → String
  | invalidArgument detail => s!"不正な引数: {detail}"
  | cryptoInit detail => s!"暗号処理の初期化に失敗: {detail}"
  | evidenceUnavailable detail => s!"Attestation Evidenceを取得できません: {detail}"
  | keyBrokerUnreachable detail => s!"鍵ブローカーに到達できません: {detail}"
  | malformedResponse detail => s!"鍵ブローカーの応答が不正です: {detail}"
  | decryption detail => s!"鍵のアンラップに失敗: {detail}"
  | authenticationFailure => "認証付き復号に失敗しました（タグ不一致）"
  | envelopeDecode detail => s!"エンベロープが不正です: {detail}"
  | unsupportedBrokerType name => s!"未対応の鍵ブローカー種別: {name}"
  | validation detail => s!"モデルメタデータが不正です: {detail}"
  | connection detail => s!"モデルサーバーへの接続に失敗: {detail}"
  | timeout => "鍵取得がタイムアウトしました"
  | cancelled => "鍵取得がキャンセルされました"
  | staging detail => s!"モデルのステージングに失敗: {detail}"
  | sealing detail => s!"暗号化に失敗: {detail}"

/-- The place of a cryptographic failure among those of a retrieval.  A failure to unwrap is
one of decryption; one of encryption, of wrapping or of a public key is one of sealing. -/
def LoadError.ofCrypto : CryptoError → LoadError
  | .invalidArgument detail => .invalidArgument detail
  | .keyGeneration detail => .cryptoInit detail
  | .envelopeDecode detail => .envelopeDecode detail
  | .authenticationFailure => .authenticationFailure
  | .unwrapError => .decryption (CryptoError.message .unwrapError)
  | .publicKey detail => .sealing (CryptoError.message (.publicKey detail))
  | .encryptError => .sealing (CryptoError.message .encryptError)
  | .wrapError detail => .sealing (CryptoError.message (.wrapError detail))

end AttestedModel
