import ChainConformance.Digest.Sha256
import ChainConformance.RunFault
import ChainConformance.Json.Printer
import ChainConformance.Text.Base64

/-!
# Tokens

The tokens that authenticate calls to a client's engine interface: claims in JSON, signed
with a secret that both sides share.
-/

namespace ChainConformance

structure TokenSecret where
  bytes : Hash
  deriving DecidableEq

namespace TokenSecret

def ofText (s : String) : FaultOr TokenSecret := do
  let bytes ← (Hex.decode (Text.trim s)).mapError fun e => .other e.message
  match FixedBytes.ofBytes? bytes with
  | some secret => return ⟨secret⟩
  | none => throw (.other ("JWT secret must be 32 bytes, got " ++ toString bytes.length))

def hiveText : String := "0x7365637265747365637265747365637265747365637265747365637265747365"

def part (j : Json) : String := Base64.encode (bytesOfText j.toCompact)

def header : String := part (.object [("alg", .text "HS256"), ("typ", .text "JWT")])

def tokenAt (secret : TokenSecret) (time : UInt64) : String :=
  let signed := header ++ "." ++ part (.object [("iat", .integer time.toNat)])
  signed ++ "." ++ Base64.encode (hmacSha256 secret.bytes.bytes (bytesOfText signed)).bytes

end TokenSecret

end ChainConformance
