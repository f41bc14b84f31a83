import TokenHub.Providers
import TokenHub.Utf8

/-!
# The vault

`vault.py`. The cipher, the key derivation and base64 are left abstract (`Crypto`): a keyed cipher in CBC mode that refuses
data not a whole number of 16-byte blocks and that decryption inverts, a derivation that is some function of password and
salt, and a base64 that decodes what it encoded. Everything else is the source's: the padding is counted in characters
(`len(plaintext)`) but the cipher is given the UTF-8 bytes, and the padding is taken off by the value of the last byte.

The `key` attribute is not a field: the source sets it only together with the salt, to the derivation of the password and
the salt, so it is that function of the two (`SecureVault.key`). `os.urandom(16)` is an argument (`Urandom`), one per call
that draws it.

`export_encrypted` returns the vault's own dict object, not a copy, so a vault that imports it shares that dict with the
exporter from then on. Here an export is a value (`Exported`), which is what it is where the service uses it: `_save_vault`
serializes it with `json.dumps` at once, and the service imports only what `load_vault_data` builds afresh with
`json.loads`. An import of the live dict of another vault, and the writes that would then show through, are not modelled.
-/

namespace TokenHub

/-- What `os.urandom(16)` returned: sixteen bytes. -/
structure Urandom where
  bytes : List UInt8
  length_eq : bytes.length = 16

/-- AES-256-CBC, PBKDF2-HMAC-SHA256 and base64, as the vault uses them. `encrypt key iv data` is the encryptor's
`update(data) + finalize()`, `decrypt key iv data` the decryptor's. -/
structure Crypto where
  deriveKey : String → List UInt8 → List UInt8
  encrypt : List UInt8 → List UInt8 → List UInt8 → Option (List UInt8)
  decrypt : List UInt8 → List UInt8 → List UInt8 → Option (List UInt8)
  b64encode : List UInt8 → String
  b64decode : String → Option (List UInt8)
  /-- The encryptor raises exactly on data that is not a whole number of blocks. -/
  encrypt_isSome : ∀ key iv data, (encrypt key iv data).isSome ↔ data.length % 16 = 0
  /-- Decryption under the same key and vector inverts encryption. -/
  decrypt_encrypt : ∀ key iv data ct, encrypt key iv data = some ct → decrypt key iv ct = some data
  /-- Base64 decodes what it encoded. -/
  b64decode_b64encode : ∀ b, b64decode (b64encode b) = some b

/-- A `SecureVault`: its password, its salt, and `_data`, the base64 texts of the encrypted values by key. -/
structure SecureVault where
  password : String
  salt : List UInt8
  data : PyDict String

/-- What `export_encrypted` returns: the salt in base64, and the stored texts. -/
structure Exported where
  salt : String
  data : PyDict String

namespace SecureVault

variable (crypto : Crypto)

/-- The `key` attribute: `_derive_key(password, salt)`. -/
def key (v : SecureVault) : List UInt8 := crypto.deriveKey v.password v.salt

/-- `SecureVault(password, salt)`: the salt given, or sixteen random bytes when it is `None` or empty. -/
def init (password : String) (salt : Option (List UInt8)) (random : Urandom) : SecureVault where
  password := password
  salt := match salt with
    | some s => if s.isEmpty then random.bytes else s
    | none => random.bytes
  data := PyDict.empty

/-- The padding `_encrypt` appends: `chr(n) * n`. -/
def padding (n : Nat) : String := String.mk (List.replicate n (Char.ofNat n))

/-- `_encrypt`: pad to a multiple of 16 characters, encrypt the UTF-8 bytes under a fresh vector, and give the base64 of
vector and ciphertext. -/
def encrypt (v : SecureVault) (plaintext : String) (iv : Urandom) : Except HubError String :=
  let paddingLength := 16 - plaintext.length % 16
  let paddedPlaintext := plaintext ++ padding paddingLength
  match crypto.encrypt (v.key crypto) iv.bytes (utf8Encode paddedPlaintext) with
  | some ciphertext => .ok (crypto.b64encode (iv.bytes ++ ciphertext))
  | none => .error .notBlockAligned

/-- `padded_plaintext[:-n]`: all but the last `n` bytes, and nothing when `n` is zero (`[:-0]` is `[:0]`). -/
def dropPadding (padded : List UInt8) (n : Nat) : List UInt8 :=
  if n = 0 then [] else padded.take (padded.length - n)

/-- `_decrypt`: the first sixteen bytes are the vector, the rest the ciphertext; the last byte of the plaintext says how many
bytes of padding to take off. -/
def decrypt (v : SecureVault) (encrypted : String) : Except HubError String :=
  match crypto.b64decode encrypted with
  | none => .error (.external "Incorrect padding")
  | some data =>
    match crypto.decrypt (v.key crypto) (data.take 16) (data.drop 16) with
    | none => .error .notBlockAligned
    | some padded =>
      match padded.getLast? with
      | none => .error (.external "index out of range")
      | some last =>
        match utf8Decode (dropPadding padded last.toNat) with
        | some plaintext => .ok plaintext
        | none => .error (.external "'utf-8' codec can't decode")

/-- `store`: `self._data[key] = self._encrypt(value)`; when `_encrypt` raises, nothing is assigned. -/
def store (v : SecureVault) (key value : String) (iv : Urandom) : Except HubError SecureVault := do
  let encrypted ← v.encrypt crypto value iv
  pure { v with data := v.data.set key encrypted }

/-- `retrieve`: `None` for a key not held, else the decryption of what is held. -/
def retrieve (v : SecureVault) (key : String) : Except HubError (Option String) :=
  match v.data.get? key with
  | none => .ok none
  | some encrypted => some <$> v.decrypt crypto encrypted

/-- `delete`: the vault without the key, and whether it held it. -/
def delete (v : SecureVault) (key : String) : SecureVault × Bool :=
  if v.data.contains key then ({ v with data := v.data.erase key }, true) else (v, false)

/-- `list_keys`. -/
def listKeys (v : SecureVault) : List String := v.data.keys

/-- `export_encrypted`. -/
def exportEncrypted (v : SecureVault) : Exported := ⟨crypto.b64encode v.salt, v.data⟩

/-- `import_encrypted`: the salt decoded (the key is derived anew from it), and the stored texts replaced. When the salt
does not decode, the raise comes before any assignment. -/
def importEncrypted (v : SecureVault) (exported : Exported) : Except HubError SecureVault :=
  match crypto.b64decode exported.salt with
  | some salt => .ok { v with salt := salt, data := exported.data }
  | none => .error (.external "Incorrect padding")

/-- `clear`. -/
def clear (v : SecureVault) : SecureVault := { v with data := PyDict.empty }

end SecureVault

end TokenHub
