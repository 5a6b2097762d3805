import SealedLink.Asn1.Armored
import SealedLink.Asn1.ObjectId
import SealedLink.LaunchError
import SealedLink.Rsa.Key
import SealedLink.Text.Blank

/-!
# RSA key files

A key file is armored text. A private key stands in it by itself or inside a shell that names its
algorithm; so does a public key.

## Main definitions

* `Rsa.PrivateKey.ofElement?`, `Rsa.PrivateKey.ofShell?` — a private key without and with its shell
* `Rsa.PublicKey.ofElement?`, `Rsa.PublicKey.ofShell?` — a public key without and with its shell
* `Rsa.PrivateKey.ofText`, `Rsa.PublicKey.ofText` — the keys of key files
-/

namespace SealedLink.Rsa

open Asn1 (Element Algorithm ObjectId)

/-- The identifier of RSA keys. -/
def algorithmId : ObjectId := ObjectId.ofArcs [1, 2, 840, 113549, 1, 1, 1]

/-- The algorithm in an element is that of RSA keys, its parameters null. -/
def isRsaAlgorithm (e : Element) : Bool := e.algorithm? == some ⟨algorithmId, some ⟨0x05, []⟩⟩

/-! ### Public keys -/

/-- A public key without a shell: modulus and exponent. -/
def PublicKey.ofElement? (e : Element) : Option PublicKey := do
  match ← e.sequence? with
  | [modulus, exponent] => PublicKey.ofNumbers? (← modulus.natural?) (← exponent.natural?)
  | _ => none

/-- A public key in a shell: the algorithm and a bit string that holds the key. -/
def PublicKey.ofShell? (e : Element) : Option PublicKey := do
  match ← e.sequence? with
  | [algorithm, key] =>
    if isRsaAlgorithm algorithm then
      let content ← Element.wholeBytes? (← key.bitString?)
      PublicKey.ofElement? (← Asn1.single? content)
    else none
  | _ => none

/-! ### Private keys -/

/-- A private key without a shell: a version of zero and eight numbers. The last three follow from
the others and are not looked at. -/
def PrivateKey.ofElement? (e : Element) : Option PrivateKey := do
  match ← (← e.sequence?).mapM Element.natural? with
  | [0, modulus, publicExponent, exponent, prime1, prime2, _, _, _] =>
    PrivateKey.ofNumbers? modulus publicExponent exponent prime1 prime2
  | _ => none

/-- A public key that comes along in the shell of a private key is a whole number of bytes. -/
def isPublicKeyField (e : Element) : Bool :=
  !e.isConstructed && ((Element.bits? e.content).bind Element.wholeBytes?).isSome

/-- The fields after the key in a shell of the given version. A public key stands in the shell if
the version is one, and only then; other fields have no meaning here. -/
def areTrailingFields (version : Nat) (fields : List Element) : Bool :=
  match Asn1.context? .atHand 1 fields with
  | some (publicKey, rest) =>
    (match publicKey with
      | some e => version == 1 && isPublicKeyField e
      | none => version == 0) &&
      rest.all fun e => e.inner?.isSome
  | none => false

/-- A private key in a shell: a version, the algorithm, and an octet string that holds the key. -/
def PrivateKey.ofShell? (e : Element) : Option PrivateKey := do
  match ← e.sequence? with
  | version :: algorithm :: key :: fields =>
    if isRsaAlgorithm algorithm && areTrailingFields (← version.natural?) fields then
      PrivateKey.ofElement? (← Asn1.single? (← key.octetString?))
    else none
  | _ => none

/-! ### Files -/

/-- The private key of a key file. -/
def PrivateKey.ofText (text : String) : Except LaunchError PrivateKey :=
  let text := Text.utf8 (Text.trimBlank text)
  let key? := ((Armor.element? "PRIVATE KEY" text).bind PrivateKey.ofShell?).or
    ((Armor.element? "RSA PRIVATE KEY" text).bind PrivateKey.ofElement?)
  match key? with
  | some key => .ok key
  | none => .error (.invalidInput "private key" "not a PKCS#8 or PKCS#1 RSA key")

/-- The public key of a key file. -/
def PublicKey.ofText (text : String) : Except LaunchError PublicKey :=
  let text := Text.utf8 (Text.trimBlank text)
  let key? := ((Armor.element? "PUBLIC KEY" text).bind PublicKey.ofShell?).or
    ((Armor.element? "RSA PUBLIC KEY" text).bind PublicKey.ofElement?)
  match key? with
  | some key => .ok key
  | none => .error (.invalidInput "public key" "not an SPKI or PKCS#1 RSA key")

end SealedLink.Rsa
