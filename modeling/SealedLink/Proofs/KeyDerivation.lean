import SealedLink.KeyDerivation

/-!
# Derived keys are beginnings of one stream

A secret and an information string determine a stream of blocks, each of them the authentication
code of the block before it, the information string and its own number. A derived key is the
beginning of this stream, so a longer key goes on where a shorter one ends. The number of a block is
one byte, and this is what limits the length of a key: up to the limit every number fits, beyond it
the last one does not.

## Main definitions

* `KeyDerivation.block`, `KeyDerivation.stream` — the blocks of a stream, and its beginnings
* `KeyDerivation.expand` — a beginning of any length
* `KeyDerivation.Derives` — what is answered to a request for a key

## Main results

* `KeyDerivation.expand_eq_take` — a beginning may be taken from any number of blocks
* `KeyDerivation.expandInBytes_eq` — output is a beginning of the stream, and the numbers of its
  blocks fit exactly up to the greatest length
* `KeyDerivation.deriveKey_domainInfo` — the key of a purpose is the shortest output
* `KeyDerivation.keys_are_prefixes_of_stream` — what is derived from a secret
-/

namespace SealedLink.KeyDerivation

variable {key info secret nonce : Bytes} {label : String} {i m n count : Nat}

/-! ### The stream -/

/-- Block `i` of a stream, counted from one: the code of the block before it, the information string
and its own number. There is nothing before the first block. -/
def block (key info : Bytes) : Nat → Bytes
  | 0 => []
  | i + 1 => (hmac key (block key info i ++ info ++ [UInt8.ofNat (i + 1)])).toBytes

/-- The first `count` blocks of a stream. -/
def stream (key info : Bytes) (count : Nat) : Bytes :=
  (List.range' 1 count).flatMap (block key info)

theorem length_stream (key info : Bytes) (count : Nat) :
    (stream key info count).length = hashLength * count := by
  induction count with
  | zero => rfl
  | succ count ih =>
    have last : (block key info (1 + count)).length = hashLength := by
      rw [Nat.add_comm]
      exact Octets.length_toBytes _
    rw [stream] at ih ⊢
    rw [List.range'_concat, List.flatMap_append, List.length_append, ih, Nat.one_mul,
      List.flatMap_singleton, last, Nat.mul_succ]

theorem stream_prefix (key info : Bytes) (h : m ≤ n) : stream key info m <+: stream key info n := by
  obtain ⟨more, rfl⟩ := Nat.exists_eq_add_of_le h
  rw [stream, stream, ← List.range'_append_1, List.flatMap_append]
  exact List.prefix_append _ _

/-- The first `n` bytes of a stream, which has all the blocks that they need. -/
def expand (key info : Bytes) (n : Nat) : Bytes :=
  (stream key info ((n + hashLength - 1) / hashLength)).take n

/-- A beginning is the same, however many blocks it is taken from. -/
theorem expand_eq_take (h : n ≤ hashLength * count) :
    expand key info n = (stream key info count).take n := by
  have enough : (n + hashLength - 1) / hashLength ≤ count := by
    simp only [hashLength] at h ⊢
    omega
  have covered : n ≤ (stream key info ((n + hashLength - 1) / hashLength)).length := by
    rw [length_stream]
    simp only [hashLength]
    omega
  obtain ⟨rest, longer⟩ := stream_prefix key info enough
  rw [expand, ← longer, List.take_append_of_le_length covered]

theorem length_expand (key info : Bytes) (n : Nat) : (expand key info n).length = n := by
  have covered : n ≤ hashLength * n := Nat.le_mul_of_pos_left n (by decide)
  rw [expand_eq_take covered, List.length_take, length_stream, Nat.min_eq_left covered]

theorem expand_prefix (h : m ≤ n) : expand key info m <+: expand key info n := by
  have covered : n ≤ hashLength * n := Nat.le_mul_of_pos_left n (by decide)
  rw [expand_eq_take covered, expand_eq_take (Nat.le_trans h covered)]
  exact List.take_prefix_take_left h

/-! ### Numbers of blocks -/

/-- What is written after block `i` are the blocks that follow it, if the number of the last one
fits. -/
theorem blocksInBytes_block (key info : Bytes) (h : i < UInt8.size) (count : Nat) :
    blocksInBytes key info (block key info i) (i + 1) count =
      if i + count < UInt8.size then some ((List.range' (i + 1) count).flatMap (block key info))
      else none := by
  -- by induction on the blocks, for every block before the first of them
  induction count generalizing i with
  | zero => exact (if_pos h).symm
  | succ count ih =>
    by_cases fits : i + 1 < UInt8.size
    · have next : (hmac key (block key info i ++ info ++ [UInt8.ofNat (i + 1)])).toBytes =
          block key info (i + 1) := rfl
      have same : i + 1 + count = i + (count + 1) := by omega
      simp only [blocksInBytes, byte?, if_pos fits, Option.bind_eq_bind, Option.bind_some, next,
        ih fits, same, List.range'_succ, List.flatMap_cons]
      split <;> rfl
    · have beyond : ¬ i + (count + 1) < UInt8.size := by omega
      simp only [blocksInBytes, byte?, if_neg fits, if_neg beyond]
      rfl

/-- Output is a beginning of the stream. It exists exactly up to the greatest length, since up to
this one the numbers of all blocks fit. -/
theorem expandInBytes_eq (key info : Bytes) (n : Nat) :
    expandInBytes key info n =
      if n ≤ maxOutputLength then some (expand key info n) else none := by
  have limit : 0 + (n + hashLength - 1) / hashLength < UInt8.size ↔ n ≤ maxOutputLength := by
    simp only [hashLength, maxOutputLength, UInt8.size]
    omega
  have written := blocksInBytes_block key info (i := 0) (by decide)
    ((n + hashLength - 1) / hashLength)
  simp only [limit] at written
  rw [expandInBytes, show ([] : Bytes) = block key info 0 from rfl, written]
  split <;> rfl

/-! ### Keys -/

/-- For an admitted length the output exists, so it never is the reason of a refusal. -/
theorem deriveKey_eq (secret info : Bytes) (n : Nat) :
    deriveKey secret n info =
      if hashLength ≤ n ∧ n ≤ maxOutputLength then .ok (expand (extract secret) info n)
      else .error (.invalidOutputLength n hashLength maxOutputLength) := by
  unfold deriveKey
  by_cases admitted : hashLength ≤ n ∧ n ≤ maxOutputLength
  · rw [if_pos admitted, if_pos admitted, expandInBytes_eq, if_pos admitted.2]
  · rw [if_neg admitted, if_neg admitted]

theorem deriveKey_eq_ok_iff :
    deriveKey secret n info = .ok key ↔
      (hashLength ≤ n ∧ n ≤ maxOutputLength) ∧ expand (extract secret) info n = key := by
  rw [deriveKey_eq]
  by_cases admitted : hashLength ≤ n ∧ n ≤ maxOutputLength
  · simp [admitted]
  · rw [if_neg admitted]
    exact iff_of_false nofun fun h => admitted h.1

theorem deriveKey_eq_error_iff {e : CryptoError} :
    deriveKey secret n info = .error e ↔
      ¬ (hashLength ≤ n ∧ n ≤ maxOutputLength) ∧
        e = .invalidOutputLength n hashLength maxOutputLength := by
  rw [deriveKey_eq]
  by_cases admitted : hashLength ≤ n ∧ n ≤ maxOutputLength
  · rw [if_pos admitted]
    exact iff_of_false nofun fun h => h.1 admitted
  · rw [if_neg admitted, Except.error.injEq, eq_comm, and_iff_right admitted]

/-- The key of a purpose is output of the length of one block. -/
theorem expandInBytes_domainInfo (secret : Bytes) (label : String) (nonce : Bytes) :
    expandInBytes (extract secret) (domainInfo label nonce) hashLength =
      some (purposeKey secret label nonce).toBytes := by
  unfold purposeKey
  split
  case h_1 key written => exact written
  case h_2 missing => exact nomatch (expandInBytes_hashLength _ _).symm.trans missing

/-- So it is derived like every other key of this length. -/
theorem deriveKey_domainInfo (secret : Bytes) (label : String) (nonce : Bytes) :
    deriveKey secret hashLength (domainInfo label nonce) =
      .ok (purposeKey secret label nonce).toBytes := by
  have admitted : hashLength ≤ hashLength ∧ hashLength ≤ maxOutputLength := by decide
  rw [deriveKey, if_pos admitted, expandInBytes_domainInfo]

theorem prefix_of_deriveKey {short long : Bytes} (h : m ≤ n)
    (derived : deriveKey secret m info = .ok short) (derived' : deriveKey secret n info = .ok long) :
    short <+: long := by
  obtain ⟨-, rfl⟩ := deriveKey_eq_ok_iff.mp derived
  obtain ⟨-, rfl⟩ := deriveKey_eq_ok_iff.mp derived'
  exact expand_prefix h

/-- What is answered to a request for a key of `n` bytes: the beginning of a stream, if the length
is at least one block and at most as many as a byte can number, and the length with its limits if it
is not. -/
structure Derives (secret info : Bytes) (n : Nat) (answer : Except CryptoError Bytes) : Prop where
  succeeds : (∃ key, answer = .ok key) ↔ 32 ≤ n ∧ n ≤ 255 * 32
  refuses : ∀ e, answer = .error e ↔ ¬ (32 ≤ n ∧ n ≤ 255 * 32) ∧ e = .invalidOutputLength n 32 8160
  length : ∀ key, answer = .ok key → key.length = n
  begins : ∀ key, answer = .ok key → ∀ count, n ≤ 32 * count →
    key = (stream (hmac (List.replicate 32 0) secret).toBytes info count).take n
  /-- The number of every block of the key fits into its byte. -/
  counts : ∀ key, answer = .ok key →
    expandInBytes (hmac (List.replicate 32 0) secret).toBytes info n = some key

theorem derives_deriveKey (secret info : Bytes) (n : Nat) :
    Derives secret info n (deriveKey secret n info) where
  succeeds := by
    simp only [deriveKey_eq_ok_iff, exists_and_left, exists_eq', and_true]
    rfl
  refuses _ := deriveKey_eq_error_iff
  length key derived := by
    obtain ⟨-, rfl⟩ := deriveKey_eq_ok_iff.mp derived
    exact length_expand _ _ _
  begins key derived count covered := by
    obtain ⟨-, rfl⟩ := deriveKey_eq_ok_iff.mp derived
    exact expand_eq_take covered
  counts key derived := by
    obtain ⟨⟨-, short⟩, rfl⟩ := deriveKey_eq_ok_iff.mp derived
    exact (expandInBytes_eq _ _ _).trans (if_pos short)

/-- **Derived keys are beginnings of one stream.** A key has a length from one block to as many as a
byte can number, it is cut from the stream of its secret and its information string, and a longer
one continues it. Output in numbered blocks exists exactly up to that length. So there always is a
key for a purpose, and it is the one of that length derived for its label and nonce. -/
theorem keys_are_prefixes_of_stream :
    (∀ secret info n, Derives secret info n (deriveKey secret n info)) ∧
    (∀ secret info m n short long, m ≤ n → deriveKey secret m info = .ok short →
      deriveKey secret n info = .ok long → short <+: long) ∧
    (∀ key info n, (∃ output, expandInBytes key info n = some output) ↔ n ≤ 255 * 32) ∧
    ∀ secret label nonce,
      deriveKey secret 32 (Text.utf8 label ++ nonce) = .ok (purposeKey secret label nonce).toBytes ∧
        expandInBytes (hmac (List.replicate 32 0) secret).toBytes (Text.utf8 label ++ nonce) 32 =
          some (purposeKey secret label nonce).toBytes := by
  refine ⟨derives_deriveKey, fun _ _ _ _ _ _ => prefix_of_deriveKey, ?_, ?_⟩
  · intro key info n
    rw [expandInBytes_eq, ← Option.isSome_iff_exists, Option.isSome_ite]
    rfl
  · intro secret label nonce
    exact ⟨deriveKey_domainInfo secret label nonce, expandInBytes_domainInfo secret label nonce⟩

/-- The longest key continues one of a block and a byte, and the next length is refused. -/
theorem longest_key_continues_shorter :
    ∃ short long, deriveKey [7] 33 [] = .ok short ∧ deriveKey [7] 8160 [] = .ok long ∧
      short <+: long ∧ long.length = 8160 ∧
      deriveKey [7] 8161 [] = .error (.invalidOutputLength 8161 32 8160) := by
  obtain ⟨derives, continued, -, -⟩ := keys_are_prefixes_of_stream
  obtain ⟨short, derived⟩ := (derives [7] [] 33).succeeds.mpr (by decide)
  obtain ⟨long, derived'⟩ := (derives [7] [] 8160).succeeds.mpr (by decide)
  exact ⟨short, long, derived, derived', continued _ _ _ _ _ _ (by decide) derived derived',
    (derives [7] [] 8160).length _ derived',
    ((derives [7] [] 8161).refuses _).mpr ⟨by decide, rfl⟩⟩

end SealedLink.KeyDerivation
