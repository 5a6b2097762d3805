import SealedLink.Asn1.Registry.Algorithm
import SealedLink.Asn1.Registry.Certificate
import SealedLink.Asn1.Registry.Directory
import SealedLink.Asn1.Registry.Message
import SealedLink.Asn1.Registry.Service

/-!
# The name of an object identifier

## Main definitions

* `ObjectId.registry` — all identifiers that have a name
* `ObjectId.name?` — the name of an identifier
-/

namespace SealedLink.Asn1.ObjectId

/-- All identifiers that have a name. -/
def registry : Names :=
  directoryNames ++ serviceNames ++ certificateNames ++ messageNames ++ algorithmNames

/-- The name of an identifier. -/
def name? (id : ObjectId) : Option String := registry.lookup id

end SealedLink.Asn1.ObjectId
