import SealedLink.Bytes
import SealedLink.NonceStore.Fifo
import SealedLink.Time.Timestamp

/-!
# Nonce stores

A verifier remembers the nonces of the messages it has accepted, each with the timestamp of its
message. Records leave from the front once they are expired: a message that old is refused for its
age, so its nonce need not be remembered.

## Main definitions

* `Nonce`, `NonceRecord` — a nonce, and a nonce with a timestamp
* `NonceStore` — what a store of records can do: five operations, and three more that have default
  meanings in terms of them
* `NonceStore.purgeFront` — removal of expired records from the front
* the store of records that is a plain queue
-/

namespace SealedLink

/-- The random bytes that make a message unique. -/
abbrev Nonce := Octets 32

/-- A nonce that has been used, and the timestamp of the message that used it. -/
structure NonceRecord where
  /-- The nonce. -/
  nonce : Nonce
  /-- The timestamp of its message. -/
  timestamp : Timestamp
  deriving DecidableEq

/-- The message of a record is too old to be accepted again. -/
def NonceRecord.isExpired (now : Timestamp) (maxAge : Duration) (r : NonceRecord) : Bool :=
  r.timestamp.isExpired now maxAge

/-- Records leave from the front as long as they are expired, at most `bound` of them; the number of
records that left, and the store without them. -/
def NonceStore.purgeFront {σ : Type} (peek? : σ → Option NonceRecord)
    (dequeue? : σ → Option (NonceRecord × σ)) (expired : NonceRecord → Bool) :
    (bound : Nat) → σ → Nat × σ
  | 0, store => (0, store)
  | bound + 1, store =>
    match peek? store with
    | none => (0, store)
    | some oldest =>
      if expired oldest then
        match dequeue? store with
        | none => (0, store)
        | some (_, rest) =>
          let (count, rest) := purgeFront peek? dequeue? expired bound rest
          (count + 1, rest)
      else (0, store)

/-- The stores of nonce records. -/
class NonceStore (σ : Type) where
  /-- The store with one more record at its end. -/
  enqueue : NonceRecord → σ → σ
  /-- The oldest record and the store without it. -/
  dequeue? : σ → Option (NonceRecord × σ)
  /-- The oldest record. -/
  peek? : σ → Option NonceRecord
  /-- The number of records. -/
  length : σ → Nat
  /-- A record with the nonce is in the store. -/
  contains : Nonce → σ → Bool
  /-- There are no records. -/
  isEmpty : σ → Bool := fun store => length store == 0
  /-- The store with one more record, unless it has one with that nonce; whether it was added. -/
  enqueueIfAbsent : NonceRecord → σ → Bool × σ := fun record store =>
    if contains record.nonce store then (false, store) else (true, enqueue record store)
  /-- The number of expired records at the front, and the store without them. -/
  purgeExpired : (NonceRecord → Bool) → σ → Nat × σ := fun expired store =>
    NonceStore.purgeFront peek? dequeue? expired (length store) store

/-- A queue of records, with the default meanings of the operations beyond the first five. -/
instance : NonceStore (Fifo NonceRecord) where
  enqueue record store := store.push record
  dequeue? := Fifo.pop?
  peek? := Fifo.peek?
  length := Fifo.length
  contains nonce store := store.toList.any (·.nonce == nonce)

end SealedLink
