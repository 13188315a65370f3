import MyApiSpec.Base.GoText
import MyApiSpec.Base.Outcome
import Mathlib.Data.List.Sort
import Mathlib.Data.String.Basic

/-!
# Keyrings of account identities

`common/channel_quota_identity_keys.go:44–209` and the checks of stored texts in
`model/channel_quota_identity.go:419–450`. A deployment has one active key and up to four retired ones,
each under a version. The digests are parameters without collisions.
-/

namespace MyApiSpec.Identity

open Base

/-- The errors of the package: `ErrChannelQuotaIdentityKeysInvalid`, `…InputInvalid`, `…AliasConflict`,
`…RegistryConflict` and `…RegistryCorrupt`. -/
inductive IdentityError where
  | keysInvalid
  | inputInvalid
  | aliasConflict
  | registryConflict
  | registryCorrupt
  deriving DecidableEq, Repr

/-! ### Texts -/

def isLowerOrDigit (c : Char) : Bool := c.isLower || c.isDigit

/-- `^[a-z0-9][a-z0-9._-]{0,n-1}$`. -/
def matchesName (n : Nat) (value : String) : Bool :=
  match value.toList with
  | [] => false
  | c :: rest =>
    isLowerOrDigit c && rest.length < n &&
      rest.all (fun c => isLowerOrDigit c || c = '.' || c = '_' || c = '-')

/-- `canonicalChannelQuotaIdentityVersion`, the pattern of a key version. -/
def canonicalVersion (value : String) : Bool := matchesName 32 value

/-- The position of a character in the alphabet of `base64.RawURLEncoding`. -/
def base64Index (c : Char) : Option Nat :=
  if c.isUpper then some (c.toNat - 'A'.toNat)
  else if c.isLower then some (c.toNat - 'a'.toNat + 26)
  else if c.isDigit then some (c.toNat - '0'.toNat + 52)
  else if c = '-' then some 62
  else if c = '_' then some 63
  else none

/-- `canonicalChannelQuotaIdentitySubject`: the encoding of 32 bytes, whose last character has two unused
bits. -/
def canonicalSubject (value : String) : Bool :=
  value.toList.length = 43 && value.toList.all (fun c => (base64Index c).isSome) &&
    (value.toList.getLast?.bind base64Index).any (fun i => i % 4 = 0)

theorem canonicalSubject_ne_empty {value : String} (h : canonicalSubject value = true) : value ≠ "" := by
  rintro rfl
  revert h
  decide

/-- The result of `newChannelQuotaIdentitySubjectRef`: 32 random bytes, encoded. -/
abbrev Draw : Type := { value : String // canonicalSubject value = true }

/-! ### Keys -/

/-- `ChannelQuotaIdentityKey`. -/
structure Key where
  version : String
  secret : List UInt8
  deriving DecidableEq, Repr

/-- `ChannelQuotaIdentityKeyring`. -/
structure Keyring where
  active : Key
  retired : List Key
  deriving DecidableEq, Repr

/-- All keys, the active one first. -/
def Keyring.keys (k : Keyring) : List Key := k.active :: k.retired

/-- Provider, kind and material of an account or a credential. -/
structure AccountIdentity where
  provider : String
  kind : String
  material : List UInt8
  deriving DecidableEq, Repr

/-- `ChannelQuotaIdentityKeyFingerprint` and `ChannelQuotaIdentityLookupHMAC` of valid inputs. -/
structure Digests where
  fingerprint : List UInt8 → String
  lookupHMAC : List UInt8 → AccountIdentity → String
  fingerprint_injective : fingerprint.Injective
  lookupHMAC_injective : ∀ {k k' : List UInt8} {i i' : AccountIdentity},
    lookupHMAC k i = lookupHMAC k' i' → k = k' ∧ i = i'

/-- `validChannelQuotaIdentityKey`. -/
def Key.valid (k : Key) : Bool :=
  canonicalVersion k.version && 32 ≤ k.secret.length && k.secret.length ≤ 64

/-- The inputs that `ChannelQuotaIdentityLookupHMAC` accepts. -/
def AccountIdentity.valid (i : AccountIdentity) : Bool :=
  matchesName 64 i.provider && (i.kind = "provider_account" || i.kind = "credential") &&
    i.material ≠ [] && i.material.length ≤ 64 * 1024

/-- `ValidateChannelQuotaIdentityKeyring`. -/
def validateKeyring (d : Digests) (k : Keyring) : Except IdentityError Unit :=
  check (k.active.valid = true ∧ k.retired.length ≤ 4 ∧ (∀ key ∈ k.keys, key.valid = true) ∧
    (k.keys.map Key.version).Nodup ∧ (k.keys.map fun key => d.fingerprint key.secret).Nodup) .keysInvalid

/-- `channelQuotaIdentityLookup`. -/
structure Lookup where
  version : String
  fingerprint : String
  digest : String
  deriving DecidableEq, Repr

/-- The lookup of a key; `EnsureChannelQuotaIdentityKeyring` has no identity and no digest. -/
def lookupOf (d : Digests) (identity : Option AccountIdentity) (key : Key) : Lookup where
  version := key.version
  fingerprint := d.fingerprint key.secret
  digest := (identity.map (d.lookupHMAC key.secret)).getD ""

/-- The lookups of a keyring by version; versions are different, so that digests need not be compared. -/
def lookups (d : Digests) (identity : Option AccountIdentity) (k : Keyring) : List Lookup :=
  (k.keys.map (lookupOf d identity)).insertionSort fun a b => a.version ≤ b.version

theorem mem_lookups {d : Digests} {identity : Option AccountIdentity} {k : Keyring} {l : Lookup} :
    l ∈ lookups d identity k ↔ ∃ key ∈ k.keys, lookupOf d identity key = l := by
  rw [lookups, (List.perm_insertionSort _ _).mem_iff, List.mem_map]

end MyApiSpec.Identity
