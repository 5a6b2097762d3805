import SealedLink.Asn1.Registry.Basic

/-!
# Names of algorithms

Keys, digests, ciphers, signatures and curves.

## Main definitions

* `ObjectId.algorithmNames` — all of them together
-/

namespace SealedLink.Asn1.ObjectId

/-- Algorithms with RSA keys. -/
def rsaAlgorithms : Names :=
  below [1, 2, 840, 113549, 1, 1]
    [(1, "RSAENCRYPTION"), (2, "MD2WITHRSAENCRYPTION"), (4, "MD5WITHRSAENCRYPTION"),
     (5, "SHA1WITHRSAENCRYPTION"), (7, "ID-RSAES-OAEP"), (8, "ID-MGF1"), (9, "ID-PSPECIFIED"),
     (10, "ID-RSASSA-PSS"), (11, "SHA256WITHRSAENCRYPTION"), (12, "SHA384WITHRSAENCRYPTION"),
     (13, "SHA512WITHRSAENCRYPTION"), (14, "SHA224WITHRSAENCRYPTION")]

/-- Algorithms with passwords. -/
def passwordAlgorithms : Names := below [1, 2, 840, 113549, 1, 5] [(12, "ID-PBKDF2")]

/-- Digests of messages. -/
def digestAlgorithms : Names :=
  below [1, 2, 840, 113549, 2]
    [(2, "ID-MD2"), (5, "ID-MD5"), (8, "ID-HMACWITHSHA224"), (9, "ID-HMACWITHSHA256"),
     (10, "ID-HMACWITHSHA384"), (11, "ID-HMACWITHSHA512")]

/-- Ciphers. -/
def encryptionAlgorithms : Names := below [1, 2, 840, 113549, 3] [(2, "RC2-CBC"), (7, "DES-EDE3-CBC")]

/-- Authentication codes with passwords and agreed keys. -/
def passwordMacs : Names :=
  below [1, 2, 840, 113533, 7, 66]
    [(13, "ID-PASSWORDBASEDMAC"), (30, "ID-DHBASEDMAC")]

/-- Authentication codes with SHA-1. -/
def sha1Macs : Names := below [1, 3, 6, 1, 5, 5, 8, 1] [(2, "HMAC-SHA1")]

/-- The SHA-1 digest. -/
def sha1Digest : Names := below [1, 3, 14, 3, 2] [(26, "ID-SHA1")]

/-- Algorithms with DSA keys. -/
def dsaAlgorithms : Names := below [1, 2, 840, 10040, 4] [(1, "ID-DSA"), (3, "DSA-WITH-SHA1")]

/-- Agreement of keys over finite fields. -/
def agreementAlgorithms : Names := below [1, 2, 840, 10046, 2] [(1, "DHPUBLICNUMBER")]

/-- Exchange of keys. -/
def exchangeAlgorithms : Names := below [2, 16, 840, 1, 101, 2, 1, 1] [(22, "ID-KEYEXCHANGEALGORITHM")]

/-- Keys on elliptic curves. -/
def curveKeys : Names := below [1, 2, 840, 10045, 2] [(1, "ID-ECPUBLICKEY")]

/-- Elliptic curves over prime fields. -/
def primeCurves : Names := below [1, 2, 840, 10045, 3, 1] [(1, "SECP192R1"), (7, "SECP256R1")]

/-- Signatures on elliptic curves with SHA-1. -/
def curveSignatures : Names := below [1, 2, 840, 10045, 4] [(1, "ECDSA-WITH-SHA1")]

/-- Signatures on elliptic curves with SHA-2. -/
def curveSha2Signatures : Names :=
  row [1, 2, 840, 10045, 4, 3] 1
    ["ECDSA-WITH-SHA224", "ECDSA-WITH-SHA256", "ECDSA-WITH-SHA384", "ECDSA-WITH-SHA512"]

/-- Elliptic curves. -/
def curves : Names :=
  below [1, 3, 132, 0]
    [(1, "SECT163K1"), (15, "SECT163R2"), (16, "SECT283K1"), (17, "SECT283R1"), (26, "SECT233K1"),
     (27, "SECT233R1"), (33, "SECP224R1"), (34, "SECP384R1"), (35, "SECP521R1"), (36, "SECT409K1"),
     (37, "SECT409R1"), (38, "SECT571K1"), (39, "SECT571R1")]

/-- Agreement of keys on elliptic curves. -/
def curveAgreements : Names := below [1, 3, 132, 1] [(12, "ID-ECDH"), (13, "ID-ECMQV")]

/-- Keys on Montgomery and Edwards curves. -/
def edwardsCurves : Names := row [1, 3, 101] 110 ["ID-X25519", "ID-X448", "ID-ED25519", "ID-ED448"]

/-- The branch for the AES cipher. -/
def cipherBranch : Names := below [2, 16, 840, 1, 101, 3, 4] [(1, "AES")]

/-- Modes of the AES cipher. -/
def blockCiphers : Names :=
  below [2, 16, 840, 1, 101, 3, 4, 1]
    [(2, "ID-AES128-CBC"), (5, "ID-AES128-WRAP"), (6, "ID-AES128-GCM"), (7, "ID-AES128-CCM"),
     (22, "ID-AES192-CBC"), (25, "ID-AES192-WRAP"), (26, "ID-AES192-GCM"), (27, "ID-AES192-CCM"),
     (42, "ID-AES256-CBC"), (45, "ID-AES256-WRAP"), (46, "ID-AES256-GCM"), (47, "ID-AES256-CCM")]

/-- Digests of the SHA-2 family. -/
def standardDigests : Names :=
  row [2, 16, 840, 1, 101, 3, 4, 2] 1
    ["ID-SHA256", "ID-SHA384", "ID-SHA512", "ID-SHA224"]

/-- Signatures with DSA keys and digests of the SHA-2 family. -/
def standardSignatures : Names :=
  row [2, 16, 840, 1, 101, 3, 4, 3] 1
    ["DSA-WITH-SHA224", "DSA-WITH-SHA256"]

/-- The names of algorithms. -/
def algorithmNames : Names :=
  rsaAlgorithms ++ passwordAlgorithms ++ digestAlgorithms ++ encryptionAlgorithms ++ passwordMacs ++
    sha1Macs ++ sha1Digest ++ dsaAlgorithms ++ agreementAlgorithms ++ exchangeAlgorithms ++
    curveKeys ++ primeCurves ++ curveSignatures ++ curveSha2Signatures ++ curves ++ curveAgreements ++
    edwardsCurves ++ cipherBranch ++ blockCiphers ++ standardDigests ++ standardSignatures

end SealedLink.Asn1.ObjectId
