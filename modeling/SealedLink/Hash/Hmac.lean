import SealedLink.Hash.Sha256

/-!
# HMAC-SHA256

## Main definitions

* `hmac` — the message authentication code of a byte string under a key of any length
-/

namespace SealedLink

namespace Hmac

/-- The key completed with zeros to one block; a longer key is replaced by its digest first. -/
def blockKey (key : Bytes) : Bytes :=
  let short := if key.length > 64 then (Sha256.hash key).toBytes else key
  short ++ List.replicate (64 - short.length) 0

/-- The block key with every byte combined with `mask`. -/
def masked (key : Bytes) (mask : UInt8) : Bytes := (blockKey key).map (· ^^^ mask)

end Hmac

/-- HMAC-SHA256 of `data` under `key`. -/
def hmac (key data : Bytes) : Octets 32 :=
  Sha256.hash (Hmac.masked key 0x5c ++ (Sha256.hash (Hmac.masked key 0x36 ++ data)).toBytes)

end SealedLink
