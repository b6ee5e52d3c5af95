import SheetExport.Auth.Grant
import SheetExport.Failure
import SheetExport.Signing

/-!
# Service accounts

A service account signs for itself: it asserts who it is, what for, to whom and
for which hour, and signs that with the private key of its key file. The
assertion is three segments between dots: header, claims and signature.
-/

namespace SheetExport.Auth

open Signing (PrivateKey Label)
open Text (Outline)
open Time (Instant)

/-- The key of a service account. -/
structure ServiceAccountKey where
  clientEmail : String
  privateKey : String
  privateKeyId : Option String := none
  tokenUri : String := defaultTokenUri
  deriving DecidableEq, Inhabited

namespace ServiceAccountKey

def schema : Schema ServiceAccountKey :=
  .record "ServiceAccountKey"
    (.cons "client_email" .required Schema.string <|
      .cons "private_key" .required Schema.string <|
      .cons "private_key_id" (.always none) (.optional Schema.string) <|
      .cons "token_uri" (.always defaultTokenUri) Schema.string .nil)
    fun (email, key, id, uri, ()) => ⟨email, key, id, uri⟩

def parse (text : String) : Except Failure ServiceAccountKey :=
  match schema.parseJson text with
  | .ok k => .ok k
  | .error e =>
    .error (.config ("Failed to deserialize service account key: " ++ e.message))

def ofFile (t : FileTree) (path : String) : Except Failure ServiceAccountKey := do
  parse (← (t.read path).mapError Failure.io)

def outline (k : ServiceAccountKey) : Outline :=
  .openRecord "ServiceAccountKey"
    [("client_email", .text k.clientEmail),
      ("private_key_id", .option .text k.privateKeyId),
      ("token_uri", .text k.tokenUri)]

/-! ## Assertions -/

def lifetime : Nat := 3600

def header (k : ServiceAccountKey) : Json :=
  .object (("alg", .string "RS256") :: ("typ", .string "JWT") ::
    Credentials.optionalMember "kid" k.privateKeyId)

/-- What is asserted from one second to another. -/
def claims (k : ServiceAccountKey) (scope : String) (issued expires : Int) : Json :=
  .object
    [("iss", .string k.clientEmail), ("scope", .string scope), ("aud", .string k.tokenUri),
      ("exp", .number (.int expires)), ("iat", .number (.int issued))]

def segment (j : Json) : String := Text.Base64.encode (Text.Utf8.ofString j.text)

def signedText (k : ServiceAccountKey) (scope : String) (issued expires : Int) : String :=
  segment k.header ++ "." ++ segment (k.claims scope issued expires)

def signingKey (k : ServiceAccountKey) : Except Failure PrivateKey :=
  match Signing.firstSection k.privateKey with
  | .error e => .error (.auth ("invalid PEM private key: " ++ e.message))
  | .ok (some (.privateKey, bs)) =>
    match PrivateKey.ofWrapped? bs with
    | some key => .ok key
    | none => .error (.auth "Failed to create rsa key pair from pkcs8 key")
  | .ok (some (.rsaPrivateKey, bs)) =>
    match PrivateKey.ofPlain? bs with
    | some key => .ok key
    | none => .error (.auth "Failed to create rsa key pair from pkcs1 key")
  | .ok _ => .error (.auth "Missing private key in service account key")

def signature (k : ServiceAccountKey) (text : String) : Except Failure (List UInt8) := do
  match (← k.signingKey).sign? (Text.Utf8.ofString text) with
  | some bs => .ok bs
  | none => .error (.auth "Failed to sign jwt assertion")

def signedAssertion (k : ServiceAccountKey) (scope : String) (now : Instant) :
    Except Stop String := do
  match now.add? lifetime with
  | none => throw .overflow
  | some expires =>
    let text := k.signedText scope now.seconds expires.seconds
    let bs ← (k.signature text).mapError Stop.failure
    return text ++ "." ++ Text.Base64.encode bs

end ServiceAccountKey

end SheetExport.Auth
