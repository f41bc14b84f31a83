import TokenHub.Registry
import TokenHub.Theorems.VaultRefinement

/-!
# What a failed `add_provider` leaves behind

`add_provider` resolves the key, stores it in the vault when asked to, and only then looks up the provider class and
builds the adapter. A raise leaves the adapters and the classes as they were (`addProvider_error_inv`), but a raise after
the store leaves the new key in the vault. So a call with an unknown type overwrites the key of a provider already
registered under that name, whose adapter keeps the old one (`addProvider_unknown_type_overwrites_key`). The rest of the
source pairs an adapter with its vault key: `remove_provider` deletes both, and the route saves the vault only after a
call that returned. A key a call that returned stored in the vault is the one the name's next lookup without a key finds
(`addProvider_stored_key_resolves`).
-/

namespace TokenHub

open ProviderRegistry VaultAux

namespace AddProviderAux

variable (crypto : Crypto) (env : String → Option String)

/-- The registry after the vault write of `add_provider`, or the raise of the store. -/
def storeKey (r : ProviderRegistry) (name key : String) (storeInVault : Bool) (iv : Urandom) :
    Except HubError ProviderRegistry :=
  if storeInVault then
    match r.vault with
    | some v => (fun v' => { r with vault := some v' }) <$> v.store crypto (vaultKey name) key iv
    | none => .ok r
  else .ok r

/-- `add_provider`, step by step. -/
theorem addProvider_apply (r : ProviderRegistry) (name providerType : String) (apiKey : Option String)
    (storeInVault : Bool) (config : Config) (iv : Urandom) :
    addProvider crypto env name providerType apiKey storeInVault config iv r =
      match r.resolveApiKey crypto env name apiKey with
      | .error e => (.error e, r)
      | .ok none => (.error (.noApiKey name), r)
      | .ok (some k) =>
        match storeKey crypto r name k storeInVault iv with
        | .error e => (.error e, r)
        | .ok r₁ =>
          match r₁.providerClasses.get? providerType with
          | none => (.error (.unknownProviderType providerType), r₁)
          | some c =>
            match c k config with
            | .error e => (.error e, r₁)
            | .ok p => (.ok (), { r₁ with providers := r₁.providers.set name p }) := by
  unfold addProvider storeKey
  simp only [Run.bind_apply, Run.get_apply, Run.lift_apply]
  rcases r.resolveApiKey crypto env name apiKey with e | _ | k
  · rfl
  · rfl
  dsimp only
  have hclass : ∀ r₁ : ProviderRegistry,
      (do
        let r ← Run.get
        let some providerClass := r.providerClasses.get? providerType
          | throw (HubError.unknownProviderType providerType)
        let provider ← Run.lift (providerClass k config)
        Run.set { r with providers := r.providers.set name provider } : Run HubError ProviderRegistry Unit) r₁ =
      match r₁.providerClasses.get? providerType with
      | none => (.error (.unknownProviderType providerType), r₁)
      | some c =>
        match c k config with
        | .error e => (.error e, r₁)
        | .ok p => (.ok (), { r₁ with providers := r₁.providers.set name p }) := by
    intro r₁
    simp only [Run.bind_apply, Run.get_apply]
    rcases r₁.providerClasses.get? providerType with _ | c
    · rfl
    · simp only [Run.bind_apply, Run.lift_apply]
      rcases c k config with e | p <;> rfl
  cases storeInVault
  · exact hclass r
  · rcases r.vault with _ | v
    · exact hclass r
    · simp only [Run.bind_apply, Run.lift_apply]
      rcases v.store crypto (vaultKey name) k iv with e | v'
      · rfl
      · exact hclass _

/-- The vault write leaves the adapters and the classes, and the vault unless it stored the key. -/
theorem storeKey_ok {r r₁ : ProviderRegistry} {name key : String} {storeInVault : Bool} {iv : Urandom}
    (h : storeKey crypto r name key storeInVault iv = .ok r₁) :
    r₁.providers = r.providers ∧ r₁.providerClasses = r.providerClasses ∧
      (r₁.vault = r.vault ∨ ∃ v v', r.vault = some v ∧ storeInVault = true ∧
        v.store crypto (vaultKey name) key iv = .ok v' ∧ r₁.vault = some v') := by
  unfold storeKey at h
  cases storeInVault
  · cases h
    exact ⟨rfl, rfl, .inl rfl⟩
  · rw [if_pos rfl] at h
    rcases hv : r.vault with _ | v <;> rw [hv] at h <;> dsimp only at h
    · cases h
      exact ⟨rfl, rfl, .inl hv⟩
    · rcases hs : v.store crypto (vaultKey name) key iv with e | v' <;> rw [hs] at h <;> cases h
      exact ⟨rfl, rfl, .inr ⟨v, v', rfl, rfl, hs, rfl⟩⟩

/-- A call of `add_provider` that returns: the key resolved, the vault write done, the class found and the adapter built
and set under the name. -/
theorem addProvider_ok_inv {r r' : ProviderRegistry} {name providerType : String} {apiKey : Option String}
    {storeInVault : Bool} {config : Config} {iv : Urandom}
    (h : addProvider crypto env name providerType apiKey storeInVault config iv r = (.ok (), r')) :
    ∃ k r₁ c p, r.resolveApiKey crypto env name apiKey = .ok (some k) ∧
      storeKey crypto r name k storeInVault iv = .ok r₁ ∧ r₁.providerClasses.get? providerType = some c ∧
      c k config = .ok p ∧ r' = { r₁ with providers := r₁.providers.set name p } := by
  rw [addProvider_apply] at h
  rcases hk : r.resolveApiKey crypto env name apiKey with e | _ | k <;> rw [hk] at h <;> dsimp only at h
  · cases h
  · cases h
  rcases hs : storeKey crypto r name k storeInVault iv with e | r₁ <;> rw [hs] at h <;> dsimp only at h
  · cases h
  rcases hcl : r₁.providerClasses.get? providerType with _ | c <;> rw [hcl] at h <;> dsimp only at h
  · cases h
  rcases hck : c k config with e | p <;> rw [hck] at h <;> cases h
  exact ⟨k, r₁, c, p, rfl, hs, hcl, hck, rfl⟩

/-- A vault a store succeeded on holds the map with the key set. -/
theorem holds_of_store_ok {v v' : SecureVault} {key value : String} {iv : Urandom}
    (h : v.store crypto key value iv = .ok v') (m : PyDict String) (hv : Holds crypto v m) :
    Holds crypto v' (m.set key value) := by
  obtain ⟨v'', h', hv''⟩ := holds_store crypto iv hv (aligned_of_store_ok crypto h)
  rw [h] at h'
  cases h'
  exact hv''.2

/-- `add_provider` keeps a vault: the registry after it, raise or not, has one exactly when the registry before did. -/
theorem addProvider_vault_isSome (r : ProviderRegistry) (name providerType : String) (apiKey : Option String)
    (storeInVault : Bool) (config : Config) (iv : Urandom) :
    (addProvider crypto env name providerType apiKey storeInVault config iv r).2.vault.isSome = r.vault.isSome := by
  rw [addProvider_apply]
  rcases r.resolveApiKey crypto env name apiKey with _ | _ | k <;> dsimp only
  rcases hs : storeKey crypto r name k storeInVault iv with _ | r₁ <;> dsimp only
  have hv : r₁.vault.isSome = r.vault.isSome := by
    rcases (storeKey_ok crypto hs).2.2 with h | ⟨v, v', hv, -, -, hv'⟩
    · rw [h]
    · rw [hv, hv']
      rfl
  rcases r₁.providerClasses.get? providerType with _ | c <;> dsimp only
  · exact hv
  · rcases c k config with _ | p <;> exact hv

/-- A raise of `add_provider` leaves the adapters and the classes. -/
theorem addProvider_error_inv {r r' : ProviderRegistry} {name providerType : String} {apiKey : Option String}
    {storeInVault : Bool} {config : Config} {iv : Urandom} {err : HubError}
    (h : addProvider crypto env name providerType apiKey storeInVault config iv r = (.error err, r')) :
    r'.providers = r.providers ∧ r'.providerClasses = r.providerClasses := by
  rw [addProvider_apply] at h
  rcases hk : r.resolveApiKey crypto env name apiKey with _ | _ | k <;> rw [hk] at h <;> dsimp only at h
  · cases h
    exact ⟨rfl, rfl⟩
  · cases h
    exact ⟨rfl, rfl⟩
  rcases hs : storeKey crypto r name k storeInVault iv with _ | r₁ <;> rw [hs] at h <;> dsimp only at h
  · cases h
    exact ⟨rfl, rfl⟩
  obtain ⟨hp, hc, -⟩ := storeKey_ok crypto hs
  rcases hcl : r₁.providerClasses.get? providerType with _ | c <;> rw [hcl] at h <;> dsimp only at h
  · cases h
    exact ⟨hp, hc⟩
  · rcases hck : c k config with _ | p <;> rw [hck] at h <;> cases h
    exact ⟨hp, hc⟩

/-- What `add_provider` does to the adapters, raise or not: they stay, or take under the name the adapter a registered class
built from the resolved key; the classes stay. -/
theorem addProvider_providers (r : ProviderRegistry) (name providerType : String) (apiKey : Option String)
    (storeInVault : Bool) (config : Config) (iv : Urandom) :
    (addProvider crypto env name providerType apiKey storeInVault config iv r).2.providerClasses = r.providerClasses ∧
    ((addProvider crypto env name providerType apiKey storeInVault config iv r).2.providers = r.providers ∨
      ∃ k c p, r.resolveApiKey crypto env name apiKey = .ok (some k) ∧ r.providerClasses.get? providerType = some c ∧
        c k config = .ok p ∧
        (addProvider crypto env name providerType apiKey storeInVault config iv r).2.providers = r.providers.set name p) := by
  rcases h : addProvider crypto env name providerType apiKey storeInVault config iv r with ⟨_ | ⟨⟩, r'⟩
  · obtain ⟨hp, hc⟩ := addProvider_error_inv crypto env h
    exact ⟨hc, .inl hp⟩
  · obtain ⟨k, r₁, c, p, hk, hs, hcl, hck, rfl⟩ := addProvider_ok_inv crypto env h
    obtain ⟨hp, hc, -⟩ := storeKey_ok crypto hs
    exact ⟨hc, .inr ⟨k, c, p, hk, hc ▸ hcl, hck, by rw [hp]⟩⟩

end AddProviderAux

open AddProviderAux

/-- A registry over a vault of password `pw`, with the mock provider `p` added under the key `old`, stored in the
vault. -/
def vaultedRegistry : ProviderRegistry :=
  (addProvider plainCrypto (fun _ => none) "p" "mock" (some "old") true [] zeroUrandom
    (ProviderRegistry.init (some (SecureVault.init "pw" none zeroUrandom)))).2

/-- Adding `p` again with an unknown type raises, but the vault now holds the new key for `p`, whose adapter still has
the old one. -/
theorem addProvider_unknown_type_overwrites_key :
    (addProvider plainCrypto (fun _ => none) "p" "unknown" (some "new") true [] zeroUrandom vaultedRegistry).1 =
      .error (.unknownProviderType "unknown") ∧
    vaultedRegistry.getProvider "p" = some ⟨"mock", "old", []⟩ ∧
    (addProvider plainCrypto (fun _ => none) "p" "unknown" (some "new") true [] zeroUrandom
      vaultedRegistry).2.getProvider "p" = some ⟨"mock", "old", []⟩ ∧
    (vaultedRegistry.vault.map fun v => v.retrieve plainCrypto (vaultKey "p")) = some (.ok (some "old")) ∧
    ((addProvider plainCrypto (fun _ => none) "p" "unknown" (some "new") true [] zeroUrandom vaultedRegistry).2.vault.map
      fun v => v.retrieve plainCrypto (vaultKey "p")) = some (.ok (some "new")) :=
  ⟨rfl, rfl, rfl, rfl, rfl⟩

/-- A key `add_provider` stored is the one the next `add_provider` for the name resolves: after a call that returns,
given a key and storing it in a vault that holds a map, the name's key resolves from the vault to the key stored. -/
theorem addProvider_stored_key_resolves (crypto : Crypto) (env : String → Option String) (r : ProviderRegistry)
    (name providerType key : String) (config : Config) (iv : Urandom) (r' : ProviderRegistry) (v : SecureVault)
    (m : PyDict String) (hv : r.vault = some v) (hm : Holds crypto v m)
    (h : addProvider crypto env name providerType (some key) true config iv r = (.ok (), r')) :
    r'.resolveApiKey crypto env name none = .ok (some key) := by
  obtain ⟨k, r₁, c, p, hk, hs, -, -, rfl⟩ := addProvider_ok_inv crypto env h
  cases hk
  rw [storeKey, if_pos rfl, hv] at hs
  dsimp only at hs
  rcases hst : v.store crypto (vaultKey name) key iv with e | v' <;> rw [hst] at hs <;> cases hs
  have hret : v'.retrieve crypto (vaultKey name) = .ok (some key) := by
    rw [holds_of_store_ok crypto hst m hm, PyDict.get?_set, if_pos rfl]
  simp only [resolveApiKey, hret]
  rfl

/-- The mock provider `p` added to a registry over a fresh vault, storing its key. -/
theorem addProvider_stored_key_resolves_fresh :
    (ProviderRegistry.init (some (SecureVault.init "pw" none zeroUrandom))).vault =
      some (SecureVault.init "pw" none zeroUrandom) ∧
    Holds plainCrypto (SecureVault.init "pw" none zeroUrandom) PyDict.empty ∧
    addProvider plainCrypto (fun _ => none) "p" "mock" (some "k") true [] zeroUrandom
        (ProviderRegistry.init (some (SecureVault.init "pw" none zeroUrandom))) =
      (.ok (), (addProvider plainCrypto (fun _ => none) "p" "mock" (some "k") true [] zeroUrandom
        (ProviderRegistry.init (some (SecureVault.init "pw" none zeroUrandom)))).2) ∧
    (addProvider plainCrypto (fun _ => none) "p" "mock" (some "k") true [] zeroUrandom
        (ProviderRegistry.init (some (SecureVault.init "pw" none zeroUrandom)))).2.resolveApiKey plainCrypto
      (fun _ => none) "p" none = .ok (some "k") :=
  have hm := holds_init plainCrypto "pw" none zeroUrandom
  ⟨rfl, hm, rfl, addProvider_stored_key_resolves plainCrypto (fun _ => none)
    (ProviderRegistry.init (some (SecureVault.init "pw" none zeroUrandom))) "p" "mock" "k" [] zeroUrandom _ _ _ rfl hm
    rfl⟩

end TokenHub
