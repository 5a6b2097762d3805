import SealedLink.Certificate.Basic
import SealedLink.Rsa.KeyFile
import SealedLink.Text.Quoted

/-!
# Certificates of parties

A party of the protocol is known by a certificate, and by its private key where the party is
oneself. A private key can be attached only to a certificate with the same public key.

## Main definitions

* `PartyCertificate` — a subject with a public and perhaps a private key
* `PartyCertificate.ofBytes`, `PartyCertificate.ofArmoredBytes`, `PartyCertificate.ofArmored` — the
  party of a certificate
* `PartyCertificate.withPrivateKey`, `PartyCertificate.withPrivateKeyText` — attaching a private key
* `PartyCertificate.requirePublicKey`, `PartyCertificate.requirePrivateKey` — the keys, or who lacks
  them
-/

namespace SealedLink

/-- A party with its keys. -/
structure PartyCertificate where
  /-- The distinguished name as text. -/
  subject : String
  /-- The public key, if it is an RSA key. -/
  publicKey : Option Rsa.PublicKey
  /-- The private key, if it has been attached. -/
  privateKey : Option Rsa.PrivateKey
  deriving DecidableEq

namespace PartyCertificate

/-! ### Reading -/

/-- The party of a certificate. -/
def ofCertificate (c : Certificate) : PartyCertificate :=
  ⟨c.subject.text, Rsa.PublicKey.ofShell? c.publicKey, none⟩

/-- The party of a certificate that was found in some input. If there is none, the input is refused
with one reason that stands for all faults: where exactly the reading stopped is not kept. It is
taken for granted that the key of a certificate that was read can be written again. -/
def ofFound : Option Certificate → Except LaunchError PartyCertificate
  | some c => .ok (ofCertificate c)
  | none => .error (.invalidInput "certificate" "not a certificate")

/-- The party of a certificate in its binary form. -/
def ofBytes (b : Bytes) : Except LaunchError PartyCertificate := ofFound (Certificate.ofBytes? b)

/-- The party of a certificate in armored text, given by its bytes. What stands in front of the
certificate need not be text. -/
def ofArmoredBytes (b : Bytes) : Except LaunchError PartyCertificate :=
  ofFound (Certificate.ofArmored? b)

/-- The party of a certificate in armored text. -/
def ofArmored (text : String) : Except LaunchError PartyCertificate :=
  ofArmoredBytes (Text.utf8 text)

/-! ### Keys -/

/-- The party with a private key, which must belong to its public key. -/
def withPrivateKey (p : PartyCertificate) (key : Rsa.PrivateKey) :
    Except LaunchError PartyCertificate :=
  match p.publicKey with
  | none => .error (.invalidInput "private key" "certificate has no RSA public key to pair it with")
  | some publicKey =>
    if key.publicKey = publicKey then .ok { p with privateKey := some key }
    else .error (.invalidInput "private key" "does not match the certificate")

/-- The party with the private key of a key file. -/
def withPrivateKeyText (p : PartyCertificate) (text : String) :
    Except LaunchError PartyCertificate :=
  match Rsa.PrivateKey.ofText text with
  | .ok key => p.withPrivateKey key
  | .error e => .error e

/-- The public key of the party with the given name. -/
def requirePublicKey (p : PartyCertificate) (party : String) : Except LaunchError Rsa.PublicKey :=
  match p.publicKey with
  | some key => .ok key
  | none => .error (.missingPublicKey party)

/-- The private key of the party with the given name. -/
def requirePrivateKey (p : PartyCertificate) (party : String) : Except LaunchError Rsa.PrivateKey :=
  match p.privateKey with
  | some key => .ok key
  | none => .error (.missingPrivateKey party)

/-! ### Text -/

/-- The party as it is shown in a log, without any part of its keys. -/
def description (p : PartyCertificate) : String :=
  let field := fun (name value : String) => name ++ ": " ++ value
  let known := fun (b : Bool) => if b then "true" else "false"
  "PartyCertificate \x7b " ++ ", ".intercalate
    [field "subject" (Text.quoted p.subject), field "has_public_key" (known p.publicKey.isSome),
      field "has_private_key" (known p.privateKey.isSome)] ++ " \x7d"

end PartyCertificate

end SealedLink
