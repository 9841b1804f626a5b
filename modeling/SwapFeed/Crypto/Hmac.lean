import SwapFeed.Crypto.Sha256

/-!
# Keyed digests

HMAC with SHA-256: the digest of a message under a secret key.
-/

namespace SwapFeed.Hmac

/-- The octets of a block of the underlying digest. -/
def blockSize : Nat := 64

/-- A key filled up with zeros to a block; a longer key is replaced by its digest first. -/
def blockKey (key : Octets) : Octets :=
  let key := if blockSize < key.length then Sha256.digest key else key
  key ++ List.replicate (blockSize - key.length) 0

/-- The keyed digest of a message. -/
def digest (key message : Octets) : Octets :=
  let key := blockKey key
  Sha256.digest (key.map (· ^^^ 0x5c) ++ Sha256.digest (key.map (· ^^^ 0x36) ++ message))

end SwapFeed.Hmac
