import SealedLink.Asn1.Armored
import SealedLink.Certificate.Name

/-!
# X.509 certificates

A certificate names its subject and holds the subject's public key. The whole form of a certificate
is checked when it is read; its signature is not, since certificates are exchanged by trusted means.

## Main definitions

* `Certificate` — the subject and the public key of a certificate
* `Certificate.isTime` — a point of time in a certificate
* `Certificate.ofElement?`, `Certificate.ofBytes?`, `Certificate.ofArmored?` — reading a certificate
-/

namespace SealedLink

open Asn1 (Access Element Algorithm)

/-- What a certificate tells about its subject. -/
structure Certificate where
  /-- Who the subject is. -/
  subject : Certificate.Name
  /-- The subject's public key with its algorithm. -/
  publicKey : Element
  deriving DecidableEq

namespace Certificate

/-! ### Points of time -/

/-- The number in two decimal digits. -/
def twoDigits? : Bytes → Option Nat
  | [a, b] =>
    if 0x30 ≤ a ∧ a ≤ 0x39 ∧ 0x30 ≤ b ∧ b ≤ 0x39 then some (10 * (a.toNat - 0x30) + (b.toNat - 0x30))
    else none
  | _ => none

/-- The number of days of a month. -/
def daysIn (year month : Nat) : Nat :=
  if month = 2 then
    if year % 4 = 0 ∧ (year % 100 ≠ 0 ∨ year % 400 = 0) then 29 else 28
  else if month = 4 ∨ month = 6 ∨ month = 9 ∨ month = 11 then 30
  else 31

/-- The point of time exists in the calendar and is not before 1970. -/
def isDate (year month day hour minute second : Nat) : Bool :=
  1970 ≤ year && 1 ≤ month && month ≤ 12 && 1 ≤ day && day ≤ daysIn year month && hour ≤ 23 &&
    minute ≤ 59 && second ≤ 59

/-- The pairs of digits before the closing `Z` of a point of time. -/
def digitPairs? (content : Bytes) : Option (List Nat) :=
  if content.getLast? = some 0x5a then (Bytes.chunks 2 content.dropLast).mapM twoDigits? else none

/-- A point of time with a year of two digits, from 1950 to 2049, or with one of four. -/
def isTime (e : Element) : Bool :=
  match e.tag, digitPairs? e.content with
  | 0x17, some [year, month, day, hour, minute, second] =>
    isDate (if 50 ≤ year then 1900 + year else 2000 + year) month day hour minute second
  | 0x18, some [century, year, month, day, hour, minute, second] =>
    isDate (100 * century + year) month day hour minute second
  | _, _ => false

/-- Two points of time, in any order. -/
def isValidity (e : Element) : Bool :=
  match e.sequence? with
  | some [notBefore, notAfter] => isTime notBefore && isTime notAfter
  | _ => false

/-! ### Other parts -/

/-- A version is a number up to two in a shell of its own. -/
def isVersion (e : Element) : Bool := ((e.inner?.bind Element.natural?).any (· ≤ 2))

/-- A serial number has one to twenty-one bytes and may be negative. -/
def isSerialNumber (e : Element) : Bool := e.integer?.any (·.length ≤ 21)

/-- The public key of a subject: an algorithm and a bit string. -/
def isPublicKey (e : Element) : Bool :=
  match e.sequence? with
  | some [algorithm, key] => algorithm.algorithm?.isSome && key.bitString?.isSome
  | _ => false

/-- A unique identifier is a bit string under a tag of its own. -/
def isUniqueId (e : Element) : Bool := !e.isConstructed && (Element.bits? e.content).isSome

/-- An extension is an identifier, perhaps a mark that it is critical, and any bytes. -/
def isExtension (e : Element) : Bool :=
  match e.sequence? with
  | some [id, value] => id.objectId?.isSome && value.octetString?.isSome
  | some [id, critical, value] =>
    id.objectId?.isSome && critical.boolean?.isSome && value.octetString?.isSome
  | _ => false

/-- The extensions are a row of their own in a shell. -/
def isExtensions (e : Element) : Bool :=
  (e.inner?.bind Element.sequence?).any fun extensions => extensions.all isExtension

/-- The fields after the public key: unique identifiers of issuer and subject, and extensions. -/
def areTrailingFields (access : Access) (fields : List Element) : Option Bool := do
  let (issuerId, fields) ← Asn1.context? access 1 fields
  let (subjectId, fields) ← Asn1.context? access 2 fields
  let (extensions, fields) ← Asn1.context? access 3 fields
  return issuerId.all isUniqueId && subjectId.all isUniqueId && extensions.all isExtensions &&
    fields.isEmpty

/-! ### Certificates -/

/-- The certificate in the element that its issuer signs. -/
def ofSigned? (access : Access) (e : Element) : Option Certificate := do
  let (version, fields) ← Asn1.context? access 0 (← e.sequence?)
  match fields with
  | serialNumber :: algorithm :: issuer :: validity :: subject :: publicKey :: fields =>
    if version.all isVersion && isSerialNumber serialNumber && algorithm.algorithm?.isSome &&
        (Name.ofElement? issuer).isSome && isValidity validity && isPublicKey publicKey &&
        areTrailingFields access fields == some true then
      return ⟨← Name.ofElement? subject, publicKey⟩
    else none
  | _ => none

/-- The certificate in an element: the signed part, the algorithm, and the signature. -/
def ofElement? (access : Access) (e : Element) : Option Certificate := do
  match ← e.sequence? with
  | [signed, algorithm, signature] =>
    if algorithm.algorithm?.isSome && signature.bitString?.isSome then ofSigned? access signed else none
  | _ => none

/-- The certificate that a byte string consists of. -/
def ofBytes? (b : Bytes) : Option Certificate := (Asn1.single? b).bind (ofElement? .atHand)

/-- The certificate at the front of an armored text. What follows it there is ignored. -/
def ofArmored? (text : Bytes) : Option Certificate :=
  (Armor.firstElement? "CERTIFICATE" text).bind (ofElement? .inTurn)

end Certificate

end SealedLink
