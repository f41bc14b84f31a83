import TokenHub.VaultSpec

/-!
# The vault against a plain map

`_encrypt` counts the padding in characters (`len(plaintext)`) but hands the cipher the UTF-8 bytes. The padding's own
characters are below `0x80`, one byte each, so the cipher gets a whole number of blocks exactly when the value's bytes and
characters are as many modulo 16 (`Aligned`), and `store` raises on every other value (`store_ok_iff_aligned`), `"é"`
among them (`store_two_byte_char`), whatever the cipher, the derivation and the encoding.

On aligned values the vault is the map it is meant to be: a session of stores of aligned values, retrieves, deletes,
clears, and imports of database rows that hold exports made under the same password, runs without a raise, every retrieve returns what the map
holds, and the vault holds the map the operations make of it (`runOps_refines_mapRun`). One step lemma per method
(`holds_store`, `holds_delete`, `holds_clear`, `holds_import`), and the run lemma by induction over the session.
-/

namespace TokenHub

open SecureVault Utf8Aux

namespace VaultAux

variable (crypto : Crypto)

/-- The padding is one byte per character, each its length. -/
theorem utf8Encode_padding {n : Nat} (h : n < 0x80) : utf8Encode (padding n) = List.replicate n (UInt8.ofNat n) := by
  have hrep : ∀ k, (List.replicate k (Char.ofNat n)).flatMap utf8Char = List.replicate k (UInt8.ofNat n) := by
    intro k
    induction k with
    | zero => rfl
    | succ k ih => simp [List.replicate_succ, ih, utf8Char_of_lt h]
  exact hrep n

/-- The bytes `_encrypt` hands the cipher: the value's, then the padding's. -/
def paddedBytes (value : String) : List UInt8 :=
  utf8Encode value ++ List.replicate (16 - value.length % 16) (UInt8.ofNat (16 - value.length % 16))

theorem paddedBytes_length_mod (value : String) : (paddedBytes value).length % 16 = 0 ↔ Aligned value := by
  simp only [paddedBytes, List.length_append, List.length_replicate, Aligned]
  omega

theorem encrypt_eq (v : SecureVault) (value : String) (iv : Urandom) :
    v.encrypt crypto value iv =
      match crypto.encrypt (v.key crypto) iv.bytes (paddedBytes value) with
      | some c => .ok (crypto.b64encode (iv.bytes ++ c))
      | none => .error .notBlockAligned := by
  simp only [SecureVault.encrypt, utf8Encode_append, utf8Encode_padding (show 16 - value.length % 16 < 0x80 by omega)]
  rfl

/-- `_encrypt` raises on a value that is not aligned. -/
theorem encrypt_error (v : SecureVault) (value : String) (iv : Urandom) (h : ¬ Aligned value) :
    v.encrypt crypto value iv = .error .notBlockAligned := by
  have hnone : crypto.encrypt (v.key crypto) iv.bytes (paddedBytes value) = none := by
    rw [← Option.not_isSome_iff_eq_none, crypto.encrypt_isSome, paddedBytes_length_mod]
    exact h
  rw [encrypt_eq, hnone]

/-- `_encrypt` of an aligned value is the encoding of the vector and the ciphertext. -/
theorem encrypt_ok (v : SecureVault) (value : String) (iv : Urandom) (h : Aligned value) :
    ∃ c, crypto.encrypt (v.key crypto) iv.bytes (paddedBytes value) = some c ∧
      v.encrypt crypto value iv = .ok (crypto.b64encode (iv.bytes ++ c)) := by
  obtain ⟨c, hc⟩ :=
    Option.isSome_iff_exists.mp ((crypto.encrypt_isSome _ _ _).mpr ((paddedBytes_length_mod value).mpr h))
  exact ⟨c, hc, by rw [encrypt_eq, hc]⟩

/-- A store that succeeds stored an aligned value. -/
theorem aligned_of_store_ok {v v' : SecureVault} {key value : String} {iv : Urandom}
    (h : v.store crypto key value iv = .ok v') : Aligned value := by
  by_contra hal
  rw [store, encrypt_error crypto v value iv hal] at h
  cases h

/-- Under the key it was encrypted with, `_decrypt` gives the value back: the last byte is the padding's length. -/
theorem decrypt_encrypt {u v : SecureVault} {value : String} {iv : Urandom} {c : List UInt8}
    (hkey : u.key crypto = v.key crypto) (hc : crypto.encrypt (v.key crypto) iv.bytes (paddedBytes value) = some c) :
    u.decrypt crypto (crypto.b64encode (iv.bytes ++ c)) = .ok value := by
  have hn : 0 < 16 - value.length % 16 ∧ 16 - value.length % 16 < 256 := by omega
  obtain ⟨k, hk⟩ : ∃ k, 16 - value.length % 16 = k + 1 := ⟨_, (Nat.succ_pred_eq_of_pos hn.1).symm⟩
  have hlast : (paddedBytes value).getLast? = some (UInt8.ofNat (16 - value.length % 16)) := by
    rw [paddedBytes, hk]
    simp [List.replicate_succ', List.getLast?_append]
  have hdrop : dropPadding (paddedBytes value) (16 - value.length % 16) = utf8Encode value := by
    rw [dropPadding, if_neg (by omega), paddedBytes, List.length_append, List.length_replicate, Nat.add_sub_cancel,
      List.take_left' rfl]
  simp only [SecureVault.decrypt, crypto.b64decode_b64encode, List.take_left' iv.length_eq,
    List.drop_left' iv.length_eq, hkey, crypto.decrypt_encrypt _ _ _ _ hc, hlast, toNat_ofNat hn.2, hdrop,
    utf8Decode_utf8Encode]

/-- `retrieve` reads only the key and the stored text. -/
theorem retrieve_congr {u v : SecureVault} {key : String} (hkey : u.key crypto = v.key crypto)
    (hdata : u.data.get? key = v.data.get? key) : u.retrieve crypto key = v.retrieve crypto key := by
  unfold SecureVault.retrieve SecureVault.decrypt
  rw [hdata, hkey]

/-! ## One step per method -/

/-- A store of an aligned value succeeds, keeps the password, and the vault then holds the map with the key set. -/
theorem holds_store {v : SecureVault} {m : PyDict String} {key value : String} (iv : Urandom) (hv : Holds crypto v m)
    (h : Aligned value) :
    ∃ v', v.store crypto key value iv = .ok v' ∧ v'.password = v.password ∧ Holds crypto v' (m.set key value) := by
  obtain ⟨c, hc, henc⟩ := encrypt_ok crypto v value iv h
  refine ⟨{ v with data := v.data.set key (crypto.b64encode (iv.bytes ++ c)) }, by rw [store, henc]; rfl, rfl, ?_⟩
  intro j
  by_cases hj : j = key
  · subst hj
    have hd : SecureVault.decrypt crypto { v with data := v.data.set j (crypto.b64encode (iv.bytes ++ c)) }
        (crypto.b64encode (iv.bytes ++ c)) = .ok value := decrypt_encrypt crypto rfl hc
    simp only [SecureVault.retrieve, PyDict.get?_set, if_true, hd]
    rfl
  · rw [PyDict.get?_set, if_neg hj, ← hv j]
    exact retrieve_congr crypto rfl (by simp [hj])

/-- A delete keeps the password, and the vault then holds the map without the key. -/
theorem holds_delete {v : SecureVault} {m : PyDict String} (key : String) (hv : Holds crypto v m) :
    (v.delete key).1.password = v.password ∧ Holds crypto (v.delete key).1 (m.erase key) := by
  unfold SecureVault.delete
  split
  · refine ⟨rfl, fun j => ?_⟩
    by_cases hj : j = key
    · subst hj
      simp [SecureVault.retrieve]
    · rw [PyDict.get?_erase, if_neg hj, ← hv j]
      exact retrieve_congr crypto rfl (by simp [hj])
  · rename_i hk
    have hnone : v.data.get? key = none := by simpa [PyDict.contains] using hk
    refine ⟨rfl, fun j => ?_⟩
    rw [hv, PyDict.get?_erase]
    split
    · subst j
      have h := hv key
      rw [SecureVault.retrieve, hnone] at h
      exact h.symm
    · rfl

/-- After a clear the vault holds the empty map. -/
theorem holds_clear (v : SecureVault) : Holds crypto v.clear PyDict.empty := fun _ => rfl

/-- Importing the export of a vault of the same password keeps the password, and the importer then holds what the
exporter held. -/
theorem holds_import {v w : SecureVault} {m : PyDict String} (hp : w.password = v.password) (hw : Holds crypto w m) :
    ∃ v', v.importEncrypted crypto (w.exportEncrypted crypto) = .ok v' ∧ v'.password = v.password ∧ Holds crypto v' m := by
  refine ⟨{ v with salt := w.salt, data := w.data }, ?_, rfl, fun j => ?_⟩
  · simp only [importEncrypted, exportEncrypted, crypto.b64decode_b64encode]
  · rw [← hw j]
    exact retrieve_congr crypto (by simp only [SecureVault.key, hp]) rfl

/-- A fresh vault holds the empty map. -/
theorem holds_init (password : String) (salt : Option (List UInt8)) (random : Urandom) :
    Holds crypto (SecureVault.init password salt random) PyDict.empty := fun _ => rfl

/-- The run lemma: a session that implements map operations on vaults of one password runs without a raise, and the
vault holds the map they make. -/
theorem runOps_holds {p : String} {ops : List VaultOp} {aops : List MapOp}
    (h : List.Forall₂ (Implements crypto p) ops aops) :
    ∀ v m, v.password = p → Holds crypto v m →
      ∃ v', runOps crypto v ops = .ok (v', (mapRun m aops).2) ∧ Holds crypto v' (mapRun m aops).1 := by
  induction h with
  | nil => exact fun v m _ hv => ⟨v, rfl, hv⟩
  | cons hop _ ih =>
    intro v m hp hv
    cases hop with
    | store iv hal =>
      obtain ⟨v', hs, hp', hv'⟩ := holds_store crypto iv hv hal
      obtain ⟨v'', hrun, hv''⟩ := ih v' _ (hp'.trans hp) hv'
      exact ⟨v'', by rw [runOps, hs]; exact hrun, hv''⟩
    | retrieve key =>
      obtain ⟨v', hrun, hv'⟩ := ih v m hp hv
      exact ⟨v', by rw [runOps, hv key]; simp only [hrun]; rfl, hv'⟩
    | delete key =>
      obtain ⟨hp', hv'⟩ := holds_delete crypto key hv
      exact ih _ _ (hp'.trans hp) hv'
    | clear => exact ih _ _ hp (holds_clear crypto v)
    | importEncrypted hpw hw =>
      obtain ⟨v', hi, hp', hv'⟩ := holds_import crypto (hpw.trans hp.symm) hw
      obtain ⟨v'', hrun, hv''⟩ := ih v' _ (hp'.trans hp) hv'
      exact ⟨v'', by rw [runOps]; dsimp only; rw [hi]; exact hrun, hv''⟩

end VaultAux

open VaultAux

/-! ## Where `store` raises -/

/-- Whatever the primitives, `store` succeeds exactly on values whose UTF-8 bytes and characters are as many modulo 16. -/
theorem store_ok_iff_aligned (crypto : Crypto) (v : SecureVault) (key value : String) (iv : Urandom) :
    (∃ v', v.store crypto key value iv = .ok v') ↔ Aligned value := by
  constructor
  · rintro ⟨v', h⟩
    exact aligned_of_store_ok crypto h
  · intro hal
    obtain ⟨c, -, henc⟩ := encrypt_ok crypto v value iv hal
    exact ⟨_, by rw [store, henc]; rfl⟩

/-- Whatever the primitives, `store` raises on `"é"`: one character of two bytes, padded with fifteen characters of one
byte, is seventeen bytes. -/
theorem store_two_byte_char (crypto : Crypto) (v : SecureVault) (key : String) (iv : Urandom) :
    v.store crypto key "é" iv = .error .notBlockAligned := by
  rw [store, encrypt_error crypto v "é" iv (by decide)]
  rfl

/-! ## The refinement -/

/-- A session of calls on a vault that holds a map, each implementing a map operation (stores of aligned values, and
imports of exports made under the vault's password), runs without a raise: every retrieve returns the map's value, and
the vault ends holding the map the operations make. -/
theorem runOps_refines_mapRun (crypto : Crypto) (v : SecureVault) (m : PyDict String) (ops : List VaultOp)
    (aops : List MapOp) (hv : Holds crypto v m) (h : List.Forall₂ (Implements crypto v.password) ops aops) :
    ∃ v', runOps crypto v ops = .ok (v', (mapRun m aops).2) ∧ Holds crypto v' (mapRun m aops).1 :=
  runOps_holds crypto h v m rfl hv

/-- A fresh vault: store `abc`, retrieve it, delete it, retrieve nothing. -/
theorem runOps_refines_mapRun_plain :
    Holds plainCrypto (SecureVault.init "pw" none zeroUrandom) PyDict.empty ∧
    List.Forall₂ (Implements plainCrypto (SecureVault.init "pw" none zeroUrandom).password)
      [.store "k" "abc" zeroUrandom, .retrieve "k", .delete "k", .retrieve "k"]
      [.store "k" "abc", .retrieve "k", .delete "k", .retrieve "k"] ∧
    ∃ v', runOps plainCrypto (SecureVault.init "pw" none zeroUrandom)
        [.store "k" "abc" zeroUrandom, .retrieve "k", .delete "k", .retrieve "k"] =
        .ok (v', (mapRun PyDict.empty [.store "k" "abc", .retrieve "k", .delete "k", .retrieve "k"]).2) ∧
      Holds plainCrypto v' (mapRun PyDict.empty [.store "k" "abc", .retrieve "k", .delete "k", .retrieve "k"]).1 :=
  have hv := holds_init plainCrypto "pw" none zeroUrandom
  have h : List.Forall₂ (Implements plainCrypto (SecureVault.init "pw" none zeroUrandom).password)
      [.store "k" "abc" zeroUrandom, .retrieve "k", .delete "k", .retrieve "k"]
      [.store "k" "abc", .retrieve "k", .delete "k", .retrieve "k"] :=
    .cons (.store _ (by decide)) (.cons (.retrieve _) (.cons (.delete _) (.cons (.retrieve _) .nil)))
  ⟨hv, h, runOps_refines_mapRun plainCrypto _ _ _ _ hv h⟩

end TokenHub
