import SealedLink.NonceStore.Basic
import Std.Data.HashMap

/-!
# The indexed nonce store

A queue of records with an index that counts, for every nonce, the records that carry it. Membership
is a look-up in the index. The same nonce may be queued more than once, so it is forgotten only when
its last record leaves.

## Main definitions

* `IndexedStore` — the queue and its index
* `IndexedStore.push`, `IndexedStore.pop?`, `IndexedStore.clear` — operations that keep both in step
* `IndexedStore.purge` — removal of expired records from the front
* `BlindStore` — an indexed store that never admits to holding a nonce when asked
-/

namespace SealedLink

/-- A queue of records with the number of records for every nonce. -/
structure IndexedStore where
  /-- The records. -/
  queue : Fifo NonceRecord
  /-- The number of queued records that carry a nonce; no entry for none. -/
  index : Std.HashMap Nonce Nat

namespace IndexedStore

/-- The store without records. -/
def empty : IndexedStore := ⟨Fifo.empty, ∅⟩

/-- The records, oldest first. -/
def toList (store : IndexedStore) : List NonceRecord := store.queue.toList

/-- The store with one more record at its end. -/
def push (record : NonceRecord) (store : IndexedStore) : IndexedStore :=
  ⟨store.queue.push record,
    store.index.insert record.nonce (store.index.getD record.nonce 0 + 1)⟩

/-- An index with one record fewer for a nonce. -/
def release (nonce : Nonce) (index : Std.HashMap Nonce Nat) : Std.HashMap Nonce Nat :=
  match index[nonce]? with
  | some count => if count - 1 = 0 then index.erase nonce else index.insert nonce (count - 1)
  | none => index

/-- The oldest record and the store without it. -/
def pop? (store : IndexedStore) : Option (NonceRecord × IndexedStore) :=
  match store.queue.pop? with
  | some (record, queue) => some (record, ⟨queue, release record.nonce store.index⟩)
  | none => none

/-- A record with the nonce is in the store. -/
def contains (nonce : Nonce) (store : IndexedStore) : Bool := store.index.contains nonce

/-- The store with one more record, unless it has one with that nonce. -/
def pushIfAbsent (record : NonceRecord) (store : IndexedStore) : Bool × IndexedStore :=
  if store.contains record.nonce then (false, store) else (true, store.push record)

/-- The number of expired records at the front, among the first `bound`, and the store without them.
-/
def purgeUpTo (expired : NonceRecord → Bool) : (bound : Nat) → IndexedStore → Nat × IndexedStore
  | 0, store => (0, store)
  | bound + 1, store =>
    match store.pop? with
    | some (oldest, rest) =>
      if expired oldest then
        let (count, rest) := purgeUpTo expired bound rest
        (count + 1, rest)
      else (0, store)
    | none => (0, store)

/-- The number of expired records at the front, and the store without them. -/
def purge (expired : NonceRecord → Bool) (store : IndexedStore) : Nat × IndexedStore :=
  purgeUpTo expired store.queue.length store

/-- The store without any record. -/
def clear (_ : IndexedStore) : IndexedStore := empty

instance : NonceStore IndexedStore where
  enqueue := push
  dequeue? := pop?
  peek? store := store.queue.peek?
  length store := store.queue.length
  contains := contains
  enqueueIfAbsent := pushIfAbsent
  purgeExpired := purge

end IndexedStore

/-- An indexed store as a verifier sees it that loses every race: a nonce seems absent until the
record is to be added. -/
structure BlindStore where
  /-- The store itself. -/
  inner : IndexedStore

namespace BlindStore

/-- The store without records. -/
def empty : BlindStore := ⟨IndexedStore.empty⟩

/-- The records, oldest first. -/
def toList (store : BlindStore) : List NonceRecord := store.inner.toList

instance : NonceStore BlindStore where
  enqueue record store := ⟨store.inner.push record⟩
  dequeue? store := store.inner.pop?.map fun (record, rest) => (record, ⟨rest⟩)
  peek? store := store.inner.queue.peek?
  length store := store.inner.queue.length
  contains _ _ := false
  enqueueIfAbsent record store :=
    let (added, rest) := store.inner.pushIfAbsent record
    (added, ⟨rest⟩)
  purgeExpired expired store :=
    let (count, rest) := store.inner.purge expired
    (count, ⟨rest⟩)

end BlindStore

end SealedLink
