import SealedLink.Asn1.Armored
import SealedLink.Asn1.Element
import SealedLink.Asn1.ObjectId
import SealedLink.Asn1.Registry
import SealedLink.Bytes
import SealedLink.Certificate.Basic
import SealedLink.Certificate.Name
import SealedLink.Certificate.Party
import SealedLink.Cipher.Aes
import SealedLink.Cipher.Cbc
import SealedLink.Cipher.Gcm
import SealedLink.Comparison
import SealedLink.CryptoError
import SealedLink.Envelope.Decryption
import SealedLink.Envelope.Format
import SealedLink.Envelope.Legacy
import SealedLink.Envelope.Modern
import SealedLink.Environment.Basic
import SealedLink.Environment.Scripted
import SealedLink.Hash.Hmac
import SealedLink.Hash.Padding
import SealedLink.Hash.Sha1
import SealedLink.Hash.Sha256
import SealedLink.KeyDerivation
import SealedLink.LaunchError
import SealedLink.NonceStore.Basic
import SealedLink.NonceStore.Fifo
import SealedLink.NonceStore.Indexed
import SealedLink.OneTimeSignature
import SealedLink.Package
import SealedLink.PartyLink
import SealedLink.Proofs.Bytes
import SealedLink.Proofs.Certificate.Party
import SealedLink.Proofs.Cipher.Aes
import SealedLink.Proofs.Cipher.Cbc
import SealedLink.Proofs.Cipher.Cbc.Stages
import SealedLink.Proofs.Cipher.Gcm
import SealedLink.Proofs.Cipher.Rounds
import SealedLink.Proofs.Comparison
import SealedLink.Proofs.Detection
import SealedLink.Proofs.Envelope.Acceptance
import SealedLink.Proofs.Envelope.Faults
import SealedLink.Proofs.Envelope.Format
import SealedLink.Proofs.Envelope.Legacy
import SealedLink.Proofs.Envelope.Modern
import SealedLink.Proofs.Envelope.Refusal
import SealedLink.Proofs.Environment
import SealedLink.Proofs.Environment.Recorded
import SealedLink.Proofs.Environment.Script
import SealedLink.Proofs.Failure
import SealedLink.Proofs.KeyDerivation
import SealedLink.Proofs.KeyDerivation.Separation
import SealedLink.Proofs.NonceStore.Operations
import SealedLink.Proofs.NonceStore.Records
import SealedLink.Proofs.OneTimeSignature.Age
import SealedLink.Proofs.OneTimeSignature.Batch
import SealedLink.Proofs.OneTimeSignature.Checks
import SealedLink.Proofs.OneTimeSignature.Effect
import SealedLink.Proofs.OneTimeSignature.Freshness
import SealedLink.Proofs.OneTimeSignature.Log
import SealedLink.Proofs.OneTimeSignature.LostRace
import SealedLink.Proofs.OneTimeSignature.Packing
import SealedLink.Proofs.OneTimeSignature.ReplaySafety
import SealedLink.Proofs.OneTimeSignature.Retention
import SealedLink.Proofs.OneTimeSignature.Run
import SealedLink.Proofs.OneTimeSignature.Signing
import SealedLink.Proofs.OneTimeSignature.Verification
import SealedLink.Proofs.Package
import SealedLink.Proofs.Package.Canonical
import SealedLink.Proofs.Package.FirstOccurrence
import SealedLink.Proofs.PartyLink
import SealedLink.Proofs.PublicKeyLink.Decryption
import SealedLink.Proofs.PublicKeyLink.RoundTrip
import SealedLink.Proofs.PublicKeyLink.Stages
import SealedLink.Proofs.PublicKeyLink.Tampering
import SealedLink.Proofs.Query
import SealedLink.Proofs.Rsa.Key
import SealedLink.Proofs.Rsa.KeyWrap
import SealedLink.Proofs.Rsa.Signature
import SealedLink.Proofs.Rsa.Trial
import SealedLink.Proofs.Run
import SealedLink.Proofs.SharedSecretLink.Consumption
import SealedLink.Proofs.SharedSecretLink.Noninterference
import SealedLink.Proofs.SharedSecretLink.Randomness
import SealedLink.Proofs.SharedSecretLink.RoundTrip
import SealedLink.Proofs.SharedSecretLink.Sealing
import SealedLink.Proofs.SharedSecretLink.TextKey
import SealedLink.Proofs.SignedPayload
import SealedLink.Proofs.SignedPayload.Words
import SealedLink.Proofs.Staged
import SealedLink.Proofs.Text.Base64
import SealedLink.Proofs.Text.Base64.Canonical
import SealedLink.Proofs.Text.Blank
import SealedLink.Proofs.Text.Form
import SealedLink.Proofs.Text.Utf8
import SealedLink.Proofs.Time.Binary
import SealedLink.Proofs.Time.Clock
import SealedLink.Proofs.Time.Freshness
import SealedLink.Proofs.Time.Words
import SealedLink.PublicKeyLink
import SealedLink.Query
import SealedLink.Rsa.Key
import SealedLink.Rsa.KeyFile
import SealedLink.Rsa.KeyWrap
import SealedLink.Rsa.Signature
import SealedLink.SharedSecretLink
import SealedLink.SignedPayload
import SealedLink.Text.Armor
import SealedLink.Text.Base64
import SealedLink.Text.Base64.Lines
import SealedLink.Text.Blank
import SealedLink.Text.Form
import SealedLink.Text.GraphemeExtend
import SealedLink.Text.Quoted
import SealedLink.Text.Unprintable
import SealedLink.Text.Utf8
import SealedLink.Time.Duration
import SealedLink.Time.Timestamp
