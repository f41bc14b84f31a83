import TokenHub.Lemmas.Service

/-!
# What the database keeps across a restart

The service writes its vault to the database after each `add_provider` that returns, and its catalog after each
`register_model`; at start it reads both back. `Persisted` is what holds while every such write succeeds: the vault is of
the admin password, the catalog keys each model by its name with the two defaults first, and the database holds the vault
and the catalog. A fresh service has it (`persisted_fresh`), a request keeps it unless it is an add answered 500
(`handle_persisted`), so a run keeps it (`run_persisted`), and a service started on the database of a service that has it
has the same catalog and a vault that gives back every key, and has it too (`init_persisted`): `restart_restores_service`.

The two ways an add is answered 500 after changing the service are the ways the database falls behind: `add_provider` raising
after its vault write (an unknown provider type) leaves the new key out of the database, and `_save_models` raising leaves the
new model out of it. The second one lasts: a model whose context size or weight does not fit in 64 bits makes every later
`_save_models` raise, so the models table never changes again until an `add_model` replaces that model
(`unbindable_model_blocks_model_saves`). The first one does not last, and not in the way one might hope: no request removes
a key from the vault, and the next `add_provider` answered 200 writes the whole vault, so the key of the rejected provider
reaches the database then (`vault_keys_saved_by_next_add`).
-/

namespace TokenHub

open TokenHubAPI Database PyDict CatalogAux AddProviderAux

/-- What the service keeps true while every write to its database succeeds. -/
structure TokenHubAPI.Persisted (crypto : Crypto) (s : TokenHubAPI) : Prop where
  vault_password : s.vault.password = s.adminPassword
  keys_named : ∀ e ∈ s.modelRegistry.models.entries, e.2.name = e.1
  defaults_first : List.IsPrefix ModelRegistry.init.models.keys s.modelRegistry.models.keys
  vault_saved : (s.persistence.loadVaultData = none ∧ s.vault.data = PyDict.empty) ∨
    s.persistence.loadVaultData = some (s.vault.exportEncrypted crypto)
  models_saved : (s.persistence.models = [] ∧ s.modelRegistry = ModelRegistry.init) ∨
    s.persistence.models = s.modelRegistry.exportModels.map rowOf

/-- An `add_model`: the name its body gives, if any. -/
def Request.modelName : Request → Option String
  | .addModel _ data => data.name
  | _ => none

/-- An `add_model` request. -/
def Request.isAddModel : Request → Bool
  | .addModel .. => true
  | _ => false

namespace DurabilityAux

variable (crypto : Crypto) (env : String → Option String) (w : World)

/-- A store keeps the vault's password and salt. -/
theorem store_password_salt {v v' : SecureVault} {key value : String} {iv : Urandom}
    (h : v.store crypto key value iv = .ok v') : v'.password = v.password ∧ v'.salt = v.salt := by
  unfold SecureVault.store at h
  rcases he : v.encrypt crypto value iv with _ | encrypted <;> rw [he] at h <;> cases h
  exact ⟨rfl, rfl⟩

/-- The registry after an `add_provider` that returned, storing in the vault: a vault of the same password. -/
theorem addProvider_ok_vault {r r' : ProviderRegistry} {v : SecureVault} {name providerType apiKey : String}
    {config : Config} {iv : Urandom} (hv : r.vault = some v)
    (h : r.addProvider crypto env name providerType (some apiKey) true config iv = (.ok (), r')) :
    ∃ v', r'.vault = some v' ∧ v'.password = v.password := by
  obtain ⟨k, r₁, c, p, -, hs, -, -, rfl⟩ := addProvider_ok_inv crypto env h
  rcases (storeKey_ok crypto hs).2.2 with h₁ | ⟨v₀, v', hv₀, -, hst, h₁⟩
  · exact ⟨v, h₁.trans hv, rfl⟩
  · rw [hv] at hv₀
    cases hv₀
    exact ⟨v', h₁, (store_password_salt crypto hst).1⟩

/-- The data `load_models` reads back from the rows of a catalog that keys each model by its name is the catalog's. -/
theorem loadModels_rows (R : ModelRegistry) (hR : ∀ e ∈ R.models.entries, e.2.name = e.1) (db : Database)
    (h : db.models = R.exportModels.map rowOf) : db.loadModels = R.exportModels := by
  have hnd : (db.models.map ModelRow.name).Nodup := by
    rw [h, List.map_map]
    exact R.models.nodup
  rw [loadModels_eq db hnd, h, List.map_map]
  conv_rhs => rw [← List.map_id R.exportModels]
  apply List.map_congr_left
  intro e he
  obtain ⟨k, ⟨n, p, c, cs, wt⟩⟩ := e
  have hn : n = k := hR _ he
  subst hn
  rfl

/-- Importing a list into `ModelRegistry()` only when it is not empty imports it. -/
theorem ite_isEmpty_importModels (l : List (String × ModelMetadata)) :
    (if l.isEmpty then ModelRegistry.init else ModelRegistry.init.importModels l) = ModelRegistry.init.importModels l := by
  split
  · rename_i h
    rw [List.isEmpty_iff.mp h]
    rfl
  · rfl

/-- The catalog `__init__` loads from the database of a service that keeps `Persisted` is the service's. -/
theorem loadCatalog_persisted {s : TokenHubAPI} (hs : s.Persisted crypto) : loadCatalog s.persistence = s.modelRegistry := by
  unfold loadCatalog
  rw [ite_isEmpty_importModels]
  rcases hs.models_saved with ⟨h, hR⟩ | h
  · have : s.persistence.loadModels = [] := by simp only [loadModels, h, List.foldl_nil]; rfl
    rw [this, hR]
    rfl
  · rw [loadModels_rows s.modelRegistry hs.keys_named _ h]
    exact importModels_exportModels _ _ hs.defaults_first

/-- The vault `__init__` loads from the database of a service that keeps `Persisted`: the service's own, or, when none was
saved, an empty one, like the service's. -/
theorem loadVault_persisted {s : TokenHubAPI} (hs : s.Persisted crypto) (salt : Urandom) :
    ∃ v, loadVault crypto s.adminPassword s.persistence salt = .ok v ∧
      ((v.data = PyDict.empty ∧ s.vault.data = PyDict.empty ∧ s.persistence.loadVaultData = none) ∨ v = s.vault) ∧
      v.password = s.adminPassword := by
  unfold loadVault
  rcases hs.vault_saved with ⟨h, hd⟩ | h
  · exact ⟨_, by rw [h], .inl ⟨rfl, hd, h⟩, rfl⟩
  · refine ⟨s.vault, ?_, .inr rfl, hs.vault_password⟩
    rw [h]
    simp only [SecureVault.importEncrypted, SecureVault.exportEncrypted, crypto.b64decode_b64encode]
    rw [← hs.vault_password]
    rfl

/-- A body `ModelBody.parse` builds a model from gives the model's name. -/
theorem name_of_parse {data : ModelBody} {model : ModelMetadata} (h : data.parse = .ok model) :
    data.name = some model.name := by
  rw [ModelBody.parse_eq_ok.mp h]

/-- A store keeps every key the vault held. -/
theorem keys_subset_store {v v' : SecureVault} {key value : String} {iv : Urandom}
    (h : v.store crypto key value iv = .ok v') : v.data.keys ⊆ v'.data.keys := by
  unfold SecureVault.store at h
  rcases he : v.encrypt crypto value iv with _ | encrypted <;> rw [he] at h <;> cases h
  exact fun k hk => (mem_keys_set _ _ _ _).mpr (.inr hk)

/-- `add_provider` keeps every key of the registry's vault, whether it returns or raises. -/
theorem addProvider_vault_keys {r : ProviderRegistry} {v : SecureVault} (hv : r.vault = some v)
    (name providerType : String) (apiKey : Option String) (storeInVault : Bool) (config : Config) (iv : Urandom) :
    ∃ v', (r.addProvider crypto env name providerType apiKey storeInVault config iv).2.vault = some v' ∧
      v.data.keys ⊆ v'.data.keys := by
  have hsame : ∃ v', r.vault = some v' ∧ v.data.keys ⊆ v'.data.keys := ⟨v, hv, List.Subset.refl _⟩
  rw [addProvider_apply]
  rcases r.resolveApiKey crypto env name apiKey with _ | _ | k <;> dsimp only
  · exact hsame
  · exact hsame
  rcases hs : storeKey crypto r name k storeInVault iv with _ | r₁ <;> dsimp only
  · exact hsame
  have h₁ : ∃ v', r₁.vault = some v' ∧ v.data.keys ⊆ v'.data.keys := by
    rcases (storeKey_ok crypto hs).2.2 with h | ⟨v₀, v', hv₀, -, hst, h'⟩
    · exact ⟨v, h.trans hv, List.Subset.refl _⟩
    · rw [hv] at hv₀
      cases hv₀
      exact ⟨v', h', keys_subset_store crypto hst⟩
  rcases r₁.providerClasses.get? providerType with _ | c <;> dsimp only
  · exact h₁
  rcases c k config with _ | p <;> exact h₁

/-- `POST /admin/providers` keeps every key of the vault; answered 200, it has written the whole vault to the database. -/
theorem addProvider_route_vault (s : TokenHubAPI) (auth : String) (data : ProviderBody) (iv : Urandom) :
    s.vault.data.keys ⊆ (s.addProvider crypto env auth data iv).2.vault.data.keys ∧
      ((s.addProvider crypto env auth data iv).1.status = 200 →
        (s.addProvider crypto env auth data iv).2.persistence.loadVaultData =
          some ((s.addProvider crypto env auth data iv).2.vault.exportEncrypted crypto)) := by
  rcases addProvider_cases crypto env s auth data iv with ⟨h, hs⟩ | ⟨name, providerType, apiKey, -, -, -, -, hvs, h⟩
  · rw [h]
    exact ⟨List.Subset.refl _, fun h200 => by omega⟩
  obtain ⟨v', hv', hsub⟩ := addProvider_vault_keys crypto env s.registry_vault name providerType (some apiKey) true [] iv
  have hget : Option.get _ hvs = v' := Option.some_inj.mp ((Option.some_get hvs).trans hv')
  have hsub' : s.vault.data.keys ⊆ (Option.get _ hvs).data.keys := hget ▸ hsub
  rw [h]
  rcases (s.providerRegistry.addProvider crypto env name providerType (some apiKey) true [] iv).1 with e | ⟨⟩
  · exact ⟨hsub', fun h200 => absurd h200 (by simp)⟩
  · exact ⟨hsub', fun _ => rfl⟩

/-- The step: no request removes a key from the vault. -/
theorem handle_vault_keys (r : Request) (st : TokenHubAPI × List ProviderCall) :
    st.1.vault.data.keys ⊆ (handle crypto env w r st).2.1.vault.data.keys := by
  cases r with
  | addProvider auth data iv => exact (addProvider_route_vault crypto env st.1 auth data iv).1
  | addModel auth data =>
    show _ ⊆ (st.1.addModel auth data).2.vault.data.keys
    rw [(addModel_providerRegistry_vault st.1 auth data).2]
    exact List.Subset.refl _
  | _ => exact List.Subset.refl _

/-- The run: no run removes a key from the vault. -/
theorem run_vault_keys (rs : List Request) : ∀ st : TokenHubAPI × List ProviderCall,
    st.1.vault.data.keys ⊆ (run crypto env w rs st).2.1.vault.data.keys := by
  induction rs with
  | nil => exact fun _ => List.Subset.refl _
  | cons r rs ih => exact fun st => (handle_vault_keys crypto env w r st).trans (ih _)

end DurabilityAux

open DurabilityAux

namespace TokenHubAPI

variable (crypto : Crypto) (env : String → Option String) (w : World)

/-- A fresh service keeps `Persisted`. -/
theorem persisted_fresh (adminPassword : String) (salt : Urandom) : (fresh adminPassword salt).Persisted crypto where
  vault_password := rfl
  keys_named := show ∀ e ∈ ModelRegistry.init.models.entries, e.2.name = e.1 by decide
  defaults_first := List.prefix_refl _
  vault_saved := .inl ⟨rfl, rfl⟩
  models_saved := .inl ⟨rfl, rfl⟩

/-- Starting the service on the database of one that keeps `Persisted`, with its password: the start succeeds, with the same
catalog, a vault that gives back every key the old one held, no adapter, and `Persisted`. -/
theorem init_persisted {s : TokenHubAPI} (hs : s.Persisted crypto) (salt : Urandom) :
    ∃ s', init crypto s.adminPassword s.persistence salt = .ok s' ∧ s'.modelRegistry = s.modelRegistry ∧
      (∀ key, s'.vault.retrieve crypto key = s.vault.retrieve crypto key) ∧
      s'.providerRegistry.providers = PyDict.empty ∧ s'.Persisted crypto := by
  obtain ⟨v, hv, hsame, hpw⟩ := loadVault_persisted crypto hs salt
  have hcat := loadCatalog_persisted crypto hs
  refine ⟨⟨s.adminPassword, s.persistence, v, ProviderRegistry.init (some v), s.modelRegistry, rfl⟩, ?_, rfl, ?_, rfl,
    ⟨hpw, hs.keys_named, hs.defaults_first, ?_, hs.models_saved⟩⟩
  · simp only [init, hv, hcat]
    rfl
  · rcases hsame with ⟨hv', hs', -⟩ | rfl
    · intro key
      simp only [SecureVault.retrieve, hv', hs', get?_empty]
    · exact fun _ => rfl
  · rcases hsame with ⟨hv', -, hl⟩ | rfl
    · exact .inl ⟨hl, hv'⟩
    · exact hs.vault_saved

/-- The step: a request keeps `Persisted` unless it is an add answered 500. -/
theorem handle_persisted (r : Request) (s : TokenHubAPI) (calls : List ProviderCall) (hs : s.Persisted crypto)
    (hok : r.isAdd = true → (handle crypto env w r (s, calls)).1.status ≠ 500) :
    (handle crypto env w r (s, calls)).2.1.Persisted crypto := by
  cases r with
  | addProvider auth data iv =>
    specialize hok rfl
    change (s.addProvider crypto env auth data iv).1.status ≠ 500 at hok
    show (s.addProvider crypto env auth data iv).2.Persisted crypto
    rcases addProvider_cases crypto env s auth data iv with ⟨h, -⟩ | ⟨name, providerType, apiKey, -, -, -, -, hvs, h⟩
    · rw [h]
      exact hs
    rw [h] at hok ⊢
    rcases hres : (s.providerRegistry.addProvider crypto env name providerType (some apiKey) true [] iv).1 with _ | ⟨⟩
    · rw [hres] at hok
      exact absurd rfl hok
    obtain ⟨v', hv', hpw⟩ := addProvider_ok_vault crypto env s.registry_vault (Prod.ext hres rfl)
    have hget := Option.some_inj.mp ((Option.some_get hvs).trans hv')
    refine ⟨?_, hs.keys_named, hs.defaults_first, .inr rfl, hs.models_saved⟩
    show (Option.get _ hvs).password = s.adminPassword
    rw [hget, hpw, hs.vault_password]
  | addModel auth data =>
    specialize hok rfl
    change (s.addModel auth data).1.status ≠ 500 at hok
    show (s.addModel auth data).2.Persisted crypto
    rcases addModel_cases s auth data with ⟨h, -⟩ | ⟨model, -, -, h⟩
    · rw [h]
      exact hs
    rw [h, saveModels_eq] at hok ⊢
    by_cases hb : ∀ item ∈ (s.modelRegistry.registerModel model).exportModels, Bindable item.2
    · rw [if_pos hb]
      have hnamed : ∀ e ∈ (s.modelRegistry.registerModel model).models.entries, e.2.name = e.1 := fun e he =>
        (mem_setItems he).elim (fun h => h ▸ rfl) (hs.keys_named e)
      have hprefix := keys_prefix_set s.modelRegistry.models model.name model
      refine ⟨hs.vault_password, hnamed, hs.defaults_first.trans hprefix, hs.vault_saved, .inr ?_⟩
      apply writeRows_entries
      intro row hrow
      rcases hs.models_saved with ⟨h0, -⟩ | h0
      · rw [h0] at hrow
        cases hrow
      · rw [h0, List.mem_map] at hrow
        obtain ⟨e, he, rfl⟩ := hrow
        exact hprefix.subset (List.mem_map_of_mem Prod.fst he)
    · rw [if_neg hb] at hok
      exact absurd rfl hok
  | _ => exact hs

/-- The run: a run in which no add is answered 500 keeps `Persisted`. -/
theorem run_persisted (rs : List Request) : ∀ (s : TokenHubAPI) (calls : List ProviderCall), s.Persisted crypto →
    (∀ p ∈ (run crypto env w rs (s, calls)).1, p.1.isAdd = true → p.2.status ≠ 500) →
    (run crypto env w rs (s, calls)).2.1.Persisted crypto := by
  induction rs with
  | nil => exact fun _ _ hs _ => hs
  | cons r rs ih =>
    intro s calls hs hok
    simp only [run_cons, List.mem_cons, forall_eq_or_imp] at hok ⊢
    exact ih _ _ (handle_persisted crypto env w r s calls hs hok.1) hok.2

/-- The step: a catalog holding, under `key`, a model `save_models` cannot bind keeps it through any request that does not
add a model of that name, no request writes the models table, and no `add_model` is answered 200. -/
theorem handle_unbindable (r : Request) (s : TokenHubAPI) (calls : List ProviderCall) {key : String} {m : ModelMetadata}
    (hkey : s.modelRegistry.getModel key = some m) (hm : ¬Bindable m) (hr : r.modelName ≠ some key) :
    (handle crypto env w r (s, calls)).2.1.persistence.models = s.persistence.models ∧
      (handle crypto env w r (s, calls)).2.1.modelRegistry.getModel key = some m ∧
      (r.isAddModel = true → (handle crypto env w r (s, calls)).1.status ≠ 200) := by
  cases r with
  | addProvider auth data iv =>
    show (s.addProvider crypto env auth data iv).2.persistence.models = _ ∧
      (s.addProvider crypto env auth data iv).2.modelRegistry.getModel key = _ ∧ (false = true → _)
    rcases addProvider_cases crypto env s auth data iv with ⟨h, -⟩ | ⟨_, _, _, -, -, -, -, _, h⟩
    · rw [h]
      exact ⟨rfl, hkey, nofun⟩
    · rw [h]
      split
      · exact ⟨rfl, hkey, nofun⟩
      · exact ⟨rfl, hkey, nofun⟩
  | addModel auth data =>
    show (s.addModel auth data).2.persistence.models = _ ∧ (s.addModel auth data).2.modelRegistry.getModel key = _ ∧
      (true = true → (s.addModel auth data).1.status ≠ 200)
    rcases addModel_cases s auth data with ⟨h, hstatus⟩ | ⟨model, -, hparse, h⟩
    · rw [h]
      exact ⟨rfl, hkey, fun _ => hstatus⟩
    have hname : key ≠ model.name := fun he => hr (he ▸ name_of_parse hparse)
    have hkey' : (s.modelRegistry.registerModel model).getModel key = some m := by
      rw [ModelRegistry.getModel_registerModel, if_neg hname, hkey]
    have hb : ¬∀ item ∈ (s.modelRegistry.registerModel model).exportModels, Bindable item.2 :=
      fun hall => hm (hall _ (mem_entries_of_get? hkey'))
    rw [h, saveModels_eq, if_neg hb]
    exact ⟨rfl, hkey', fun _ => by simp⟩
  | _ => exact ⟨rfl, hkey, nofun⟩

end TokenHubAPI

/-- A restart loses nothing the service saved: after any run of requests from a service that keeps `Persisted` (a fresh
one, or one started on such a service's database), whatever the backends answer, if no add request was answered 500, then
starting the service again on its database, with its password, succeeds, with the same catalog and a vault that gives back
what the running one gives for every key, and keeps `Persisted`, so it holds over any number of restarts. The adapters are not
saved: the restarted service has none. -/
theorem restart_restores_service (crypto : Crypto) (env : String → Option String) (w : World) (s : TokenHubAPI)
    (hs : s.Persisted crypto) (rs : List Request) (calls : List ProviderCall) (salt : Urandom)
    (hok : ∀ p ∈ (run crypto env w rs (s, calls)).1, p.1.isAdd = true → p.2.status ≠ 500) :
    ∃ s', init crypto (run crypto env w rs (s, calls)).2.1.adminPassword (run crypto env w rs (s, calls)).2.1.persistence
        salt = .ok s' ∧
      s'.modelRegistry = (run crypto env w rs (s, calls)).2.1.modelRegistry ∧
      (∀ key, s'.vault.retrieve crypto key = (run crypto env w rs (s, calls)).2.1.vault.retrieve crypto key) ∧
      s'.providerRegistry.providers = PyDict.empty ∧ s'.Persisted crypto :=
  init_persisted crypto (run_persisted crypto env w rs s calls hs hok) salt

/-- A fresh service with the admin password `pw`, after `add_model` of a model of the mock provider and `add_provider` of
the mock provider. -/
theorem restart_restores_service_after_adds :
    (fresh "pw" zeroUrandom).Persisted plainCrypto ∧
    (∀ p ∈ (run plainCrypto (fun _ => none) mockWorld
        [.addModel "Bearer pw" ⟨some "m", some "mock", some 1, some 1000, some 10⟩,
          .addProvider "Bearer pw" ⟨some "mock", some "mock", some "sk"⟩ zeroUrandom] (fresh "pw" zeroUrandom, [])).1,
      p.1.isAdd = true → p.2.status ≠ 500) ∧
    ∃ s', init plainCrypto (run plainCrypto (fun _ => none) mockWorld
          [.addModel "Bearer pw" ⟨some "m", some "mock", some 1, some 1000, some 10⟩,
            .addProvider "Bearer pw" ⟨some "mock", some "mock", some "sk"⟩ zeroUrandom]
          (fresh "pw" zeroUrandom, [])).2.1.adminPassword
        (run plainCrypto (fun _ => none) mockWorld
          [.addModel "Bearer pw" ⟨some "m", some "mock", some 1, some 1000, some 10⟩,
            .addProvider "Bearer pw" ⟨some "mock", some "mock", some "sk"⟩ zeroUrandom]
          (fresh "pw" zeroUrandom, [])).2.1.persistence zeroUrandom = .ok s' ∧
      s'.modelRegistry = (run plainCrypto (fun _ => none) mockWorld
          [.addModel "Bearer pw" ⟨some "m", some "mock", some 1, some 1000, some 10⟩,
            .addProvider "Bearer pw" ⟨some "mock", some "mock", some "sk"⟩ zeroUrandom]
          (fresh "pw" zeroUrandom, [])).2.1.modelRegistry ∧
      (∀ key, s'.vault.retrieve plainCrypto key = (run plainCrypto (fun _ => none) mockWorld
          [.addModel "Bearer pw" ⟨some "m", some "mock", some 1, some 1000, some 10⟩,
            .addProvider "Bearer pw" ⟨some "mock", some "mock", some "sk"⟩ zeroUrandom]
          (fresh "pw" zeroUrandom, [])).2.1.vault.retrieve plainCrypto key) ∧
      s'.providerRegistry.providers = PyDict.empty ∧ s'.Persisted plainCrypto :=
  have hok : ∀ p ∈ (run plainCrypto (fun _ => none) mockWorld
      [.addModel "Bearer pw" ⟨some "m", some "mock", some 1, some 1000, some 10⟩,
        .addProvider "Bearer pw" ⟨some "mock", some "mock", some "sk"⟩ zeroUrandom] (fresh "pw" zeroUrandom, [])).1,
      p.1.isAdd = true → p.2.status ≠ 500 := by decide
  ⟨persisted_fresh plainCrypto "pw" zeroUrandom, hok, restart_restores_service plainCrypto (fun _ => none) mockWorld _
    (persisted_fresh plainCrypto "pw" zeroUrandom) _ [] zeroUrandom hok⟩

/-- A model `save_models` cannot bind blocks the database for good: once the catalog holds, under `key`, a model whose context
size or weight does not fit in 64 bits, then over any run of requests none of which adds a model named `key`, whatever the
backends answer, the models table stays as it is, the model stays in the catalog, and no `add_model` is answered 200. -/
theorem unbindable_model_blocks_model_saves (crypto : Crypto) (env : String → Option String) (w : World)
    (s : TokenHubAPI) (key : String) (m : ModelMetadata) (hkey : s.modelRegistry.getModel key = some m)
    (hm : ¬Bindable m) (rs : List Request) (calls : List ProviderCall) (hrs : ∀ r ∈ rs, r.modelName ≠ some key) :
    (run crypto env w rs (s, calls)).2.1.persistence.models = s.persistence.models ∧
      (run crypto env w rs (s, calls)).2.1.modelRegistry.getModel key = some m ∧
      ∀ p ∈ (run crypto env w rs (s, calls)).1, p.1.isAddModel = true → p.2.status ≠ 200 := by
  induction rs generalizing s calls with
  | nil => exact ⟨rfl, hkey, fun _ hp => absurd hp (List.not_mem_nil _)⟩
  | cons r rs ih =>
    rw [List.forall_mem_cons] at hrs
    obtain ⟨h1, h2, h3⟩ := handle_unbindable crypto env w r s calls hkey hm hrs.1
    obtain ⟨h1', h2', h3'⟩ := ih (handle crypto env w r (s, calls)).2.1 h2 (handle crypto env w r (s, calls)).2.2 hrs.2
    simp only [run_cons, List.mem_cons, forall_eq_or_imp]
    exact ⟨h1'.trans h1, h2', h3, h3'⟩

/-- A fresh service given `add_model` of a model of context size `2 ^ 63`, then `add_model` of a model that fits. -/
theorem unbindable_model_blocks_model_saves_after_big_model :
    ((fresh "pw" zeroUrandom).addModel "Bearer pw" ⟨some "big", some "mock", some 1, some (2 ^ 63), some 1⟩).2.modelRegistry.getModel
        "big" = some ⟨"big", "mock", 1, 2 ^ 63, 1⟩ ∧
    ¬Bindable ⟨"big", "mock", 1, 2 ^ 63, 1⟩ ∧
    (∀ r ∈ [Request.addModel "Bearer pw" ⟨some "m", some "mock", some 1, some 1000, some 10⟩],
      r.modelName ≠ some "big") ∧
    (run plainCrypto (fun _ => none) mockWorld [.addModel "Bearer pw" ⟨some "m", some "mock", some 1, some 1000, some 10⟩]
        (((fresh "pw" zeroUrandom).addModel "Bearer pw" ⟨some "big", some "mock", some 1, some (2 ^ 63), some 1⟩).2,
          [])).2.1.persistence.models =
      ((fresh "pw" zeroUrandom).addModel "Bearer pw" ⟨some "big", some "mock", some 1, some (2 ^ 63), some 1⟩).2.persistence.models ∧
    (run plainCrypto (fun _ => none) mockWorld [.addModel "Bearer pw" ⟨some "m", some "mock", some 1, some 1000, some 10⟩]
        (((fresh "pw" zeroUrandom).addModel "Bearer pw" ⟨some "big", some "mock", some 1, some (2 ^ 63), some 1⟩).2,
          [])).2.1.modelRegistry.getModel "big" = some ⟨"big", "mock", 1, 2 ^ 63, 1⟩ ∧
    ∀ p ∈ (run plainCrypto (fun _ => none) mockWorld
        [.addModel "Bearer pw" ⟨some "m", some "mock", some 1, some 1000, some 10⟩]
        (((fresh "pw" zeroUrandom).addModel "Bearer pw" ⟨some "big", some "mock", some 1, some (2 ^ 63), some 1⟩).2,
          [])).1,
      p.1.isAddModel = true → p.2.status ≠ 200 :=
  have hkey : ((fresh "pw" zeroUrandom).addModel "Bearer pw"
      ⟨some "big", some "mock", some 1, some (2 ^ 63), some 1⟩).2.modelRegistry.getModel "big" =
      some ⟨"big", "mock", 1, 2 ^ 63, 1⟩ := rfl
  have hm : ¬Bindable ⟨"big", "mock", 1, 2 ^ 63, 1⟩ := by decide
  have hrs : ∀ r ∈ [Request.addModel "Bearer pw" ⟨some "m", some "mock", some 1, some 1000, some 10⟩],
      r.modelName ≠ some "big" := by decide
  ⟨hkey, hm, hrs, unbindable_model_blocks_model_saves plainCrypto (fun _ => none) mockWorld
    ((fresh "pw" zeroUrandom).addModel "Bearer pw" ⟨some "big", some "mock", some 1, some (2 ^ 63), some 1⟩).2 "big" _
    hkey hm _ [] hrs⟩

/-- The vault reaches the database whole at the next `add_provider` answered 200: no request removes a key from the
vault, and such an `add_provider` writes all of it. So after any run from any service, an `add_provider` answered 200 leaves
in the database every key the vault held when the run began, among them the key of an `add_provider` answered 500 because
its provider type was unknown, which the route stored in the vault before it raised. -/
theorem vault_keys_saved_by_next_add (crypto : Crypto) (env : String → Option String) (w : World) (s : TokenHubAPI)
    (rs : List Request) (calls : List ProviderCall) (auth : String) (data : ProviderBody) (iv : Urandom)
    (h : (handle crypto env w (.addProvider auth data iv) (run crypto env w rs (s, calls)).2).1.status = 200) :
    ∃ e, (handle crypto env w (.addProvider auth data iv) (run crypto env w rs (s, calls)).2).2.1.persistence.loadVaultData =
        some e ∧ ∀ key ∈ s.vault.data.keys, key ∈ e.data.keys := by
  obtain ⟨hkeys, hsaved⟩ := addProvider_route_vault crypto env (run crypto env w rs (s, calls)).2.1 auth data iv
  exact ⟨_, hsaved h, fun key hk => hkeys (run_vault_keys crypto env w rs (s, calls) hk)⟩

/-- An `add_provider` of an unknown type, answered 500, leaves its key in the vault; the next `add_provider` answered 200
writes it to the database. -/
theorem vault_keys_saved_by_next_add_after_unknown_type :
    ((fresh "pw" zeroUrandom).addProvider plainCrypto (fun _ => none) "Bearer pw"
        ⟨some "openai", some "openai", some "sk"⟩ zeroUrandom).1.status = 500 ∧
    ((fresh "pw" zeroUrandom).addProvider plainCrypto (fun _ => none) "Bearer pw"
        ⟨some "openai", some "openai", some "sk"⟩ zeroUrandom).2.vault.data.keys = ["provider_openai_api_key"] ∧
    (handle plainCrypto (fun _ => none) mockWorld (.addProvider "Bearer pw" ⟨some "mock", some "mock", some "sk"⟩ zeroUrandom)
        (run plainCrypto (fun _ => none) mockWorld [] (((fresh "pw" zeroUrandom).addProvider plainCrypto (fun _ => none)
          "Bearer pw" ⟨some "openai", some "openai", some "sk"⟩ zeroUrandom).2, [])).2).1.status = 200 ∧
    ∃ e, (handle plainCrypto (fun _ => none) mockWorld
          (.addProvider "Bearer pw" ⟨some "mock", some "mock", some "sk"⟩ zeroUrandom)
          (run plainCrypto (fun _ => none) mockWorld [] (((fresh "pw" zeroUrandom).addProvider plainCrypto (fun _ => none)
            "Bearer pw" ⟨some "openai", some "openai", some "sk"⟩ zeroUrandom).2, [])).2).2.1.persistence.loadVaultData =
        some e ∧ ∀ key ∈ ((fresh "pw" zeroUrandom).addProvider plainCrypto (fun _ => none) "Bearer pw"
          ⟨some "openai", some "openai", some "sk"⟩ zeroUrandom).2.vault.data.keys, key ∈ e.data.keys :=
  have h : (handle plainCrypto (fun _ => none) mockWorld
      (.addProvider "Bearer pw" ⟨some "mock", some "mock", some "sk"⟩ zeroUrandom)
      (run plainCrypto (fun _ => none) mockWorld [] (((fresh "pw" zeroUrandom).addProvider plainCrypto (fun _ => none)
        "Bearer pw" ⟨some "openai", some "openai", some "sk"⟩ zeroUrandom).2, [])).2).1.status = 200 := rfl
  ⟨rfl, rfl, h, vault_keys_saved_by_next_add plainCrypto (fun _ => none) mockWorld _ [] [] _ _ _ h⟩

end TokenHub
