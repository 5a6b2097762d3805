import SealedLink.Asn1.ObjectId

/-!
# Names of object identifiers

Many identifiers have a name that was registered for them. An identifier with several names is
listed with the shortest, and all names are listed in capitals, which is how they are written. The
names are listed by the path that the identifiers have in common.

## Main definitions

* `ObjectId.Names` — identifiers and their names
* `ObjectId.beneath`, `ObjectId.below`, `ObjectId.row` — names by a common path
-/

namespace SealedLink.Asn1.ObjectId

/-- Identifiers and their names. -/
abbrev Names := List (ObjectId × String)

/-- The names of identifiers that continue a path by some numbers. -/
def beneath (path : List Nat) (names : List (List Nat × String)) : Names :=
  names.map fun (rest, name) => (ofArcs (path ++ rest), name)

/-- The names of identifiers that continue a path by one number. -/
def below (path : List Nat) (names : List (Nat × String)) : Names :=
  beneath path (names.map fun (arc, name) => ([arc], name))

/-- The names of identifiers that continue a path by consecutive numbers, of which the first is
given. -/
def row (path : List Nat) (first : Nat) (names : List String) : Names :=
  below path (names.zipIdx first |>.map fun (name, arc) => (arc, name))

end SealedLink.Asn1.ObjectId
