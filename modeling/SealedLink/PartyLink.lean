import SealedLink.Certificate.Party
import SealedLink.PublicKeyLink

/-!
# Links between parties with certificates

The integrating party seals a link and the launch system opens it. Each side needs its own private
key and the other's public key; the certificate of the launch system is looked at first.

## Main definitions

* `PartyLink.sealQuery`, `PartyLink.openQuery` — the query of a text between two parties, and back
-/

namespace SealedLink.PartyLink

/-- The party that seals links. -/
def integratingParty : String := "integrating party"

/-- The party that opens links. -/
def launchSystem : String := "launch system"

/-- The query of a text from the integrating party to the launch system. -/
def sealQuery {ε : Type} [Environment ε] (seed : Octets 20) (plaintext : String)
    (sender recipient : PartyCertificate) : Randomized ε String := do
  let recipientKey ← Randomized.ofExcept (recipient.requirePublicKey launchSystem)
  let senderKey ← Randomized.ofExcept (sender.requirePrivateKey integratingParty)
  PublicKeyLink.sealQuery seed plaintext senderKey recipientKey

/-- The text in a query from the integrating party to the launch system. -/
def openQuery (query : String) (recipient sender : PartyCertificate) : Except LaunchError String := do
  let recipientKey ← recipient.requirePrivateKey launchSystem
  let senderKey ← sender.requirePublicKey integratingParty
  PublicKeyLink.openQuery query recipientKey senderKey

end SealedLink.PartyLink
