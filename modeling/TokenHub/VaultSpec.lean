import TokenHub.Persistence

/-!
# What the vault is for

A vault is meant to behave as a plain finite map from keys to strings: `store` sets a key, `delete` and `clear` remove,
`retrieve` looks up, and importing another vault's export takes over the map that vault held (`mapRun`). A vault holds a
map when retrieving any key gives the map's value for it (`Holds`).

A caller's session is a list of calls on one vault (`VaultOp`, run by `runOps` as the source's methods run, the first raise
ending it). It implements a list of map operations call by call (`Implements`): each store of a value whose UTF-8 bytes
and characters agree modulo 16 (`Aligned`), and each import of a row of the database that holds the export of a vault of
the same password holding some map.

The imports of a session are of rows the database holds, as the service's are: `load_vault_data` builds the row's dict
afresh with `json.loads`, so the vault that imports it is the only one that holds it. An import of the dict another vault's
`export_encrypted` returned, which is that vault's own `_data`, would share it with the exporter, and a write to either
would show through the other; such sessions are not in the model.
-/

namespace TokenHub

/-- An operation on a plain map. -/
inductive MapOp where
  | store (key value : String)
  | retrieve (key : String)
  | delete (key : String)
  | clear
  | load (m : PyDict String)

/-- A run of map operations: the final map, and what each retrieve returned. -/
def mapRun : PyDict String → List MapOp → PyDict String × List (Option String)
  | m, [] => (m, [])
  | m, .store key value :: ops => mapRun (m.set key value) ops
  | m, .retrieve key :: ops => ((mapRun m ops).1, m.get? key :: (mapRun m ops).2)
  | m, .delete key :: ops => mapRun (m.erase key) ops
  | _, .clear :: ops => mapRun PyDict.empty ops
  | _, .load m' :: ops => mapRun m' ops

/-- A call a caller makes on a vault. -/
inductive VaultOp where
  | store (key value : String) (iv : Urandom)
  | retrieve (key : String)
  | delete (key : String)
  | clear
  /-- `import_encrypted` of the row `load_vault_data` returned. -/
  | importEncrypted (row : VaultRow)

/-- A session of calls on one vault: the vault after them and what each `retrieve` returned, or the first raise. -/
def runOps (crypto : Crypto) : SecureVault → List VaultOp → Except HubError (SecureVault × List (Option String))
  | v, [] => .ok (v, [])
  | v, .store key value iv :: ops => do
    let v' ← v.store crypto key value iv
    runOps crypto v' ops
  | v, .retrieve key :: ops => do
    let r ← v.retrieve crypto key
    let (v', outs) ← runOps crypto v ops
    pure (v', r :: outs)
  | v, .delete key :: ops => runOps crypto (v.delete key).1 ops
  | v, .clear :: ops => runOps crypto v.clear ops
  | v, .importEncrypted row :: ops => do
    let v' ← v.importEncrypted crypto ⟨row.salt, row.data⟩
    runOps crypto v' ops

/-- A string whose UTF-8 bytes and characters are as many modulo 16. -/
def Aligned (value : String) : Prop := (utf8Encode value).length % 16 = value.length % 16

instance (value : String) : Decidable (Aligned value) := inferInstanceAs (Decidable (_ = _))

/-- A vault holds a map: retrieving any key gives the map's value for it. -/
def Holds (crypto : Crypto) (v : SecureVault) (m : PyDict String) : Prop :=
  ∀ key, v.retrieve crypto key = .ok (m.get? key)

/-- A call implements a map operation, on a vault of the given password. -/
inductive Implements (crypto : Crypto) (password : String) : VaultOp → MapOp → Prop where
  | store {key value : String} (iv : Urandom) : Aligned value → Implements crypto password (.store key value iv)
      (.store key value)
  | retrieve (key : String) : Implements crypto password (.retrieve key) (.retrieve key)
  | delete (key : String) : Implements crypto password (.delete key) (.delete key)
  | clear : Implements crypto password .clear .clear
  | importEncrypted {w : SecureVault} {m : PyDict String} : w.password = password → Holds crypto w m →
      Implements crypto password
        (.importEncrypted ⟨(w.exportEncrypted crypto).salt, (w.exportEncrypted crypto).data⟩) (.load m)

/-- Sixteen zero bytes, for the vectors and salts the examples draw. -/
def zeroUrandom : Urandom := ⟨List.replicate 16 0, rfl⟩

/-- A cipher that is the identity on whole blocks, and a base64 that writes each byte as the character of its value: a
model of the primitives' laws. -/
def plainCrypto : Crypto where
  deriveKey _ _ := []
  encrypt _ _ data := if data.length % 16 = 0 then some data else none
  decrypt _ _ data := some data
  b64encode b := String.mk (b.map (fun x => Char.ofNat x.toNat))
  b64decode s := some (s.data.map (fun c => UInt8.ofNat c.toNat))
  encrypt_isSome _ _ data := by
    by_cases h : data.length % 16 = 0 <;> simp [h]
  decrypt_encrypt _ _ data ct h := by
    by_cases hd : data.length % 16 = 0 <;> simp_all
  b64decode_b64encode b := by
    have hx : ∀ x : UInt8, UInt8.ofNat (Char.ofNat x.toNat).toNat = x := by
      intro x
      have hlt := UInt8.toNat_lt_size x
      have hc : (Char.ofNat x.toNat).toNat = x.toNat := by
        rw [Char.ofNat, dif_pos (Or.inl (by simp only [UInt8.size] at hlt; omega))]
        rfl
      rw [hc]
      apply UInt8.eq_of_val_eq
      simp [UInt8.ofNat, UInt8.toNat]
    simp [Function.comp_def, hx]

end TokenHub
