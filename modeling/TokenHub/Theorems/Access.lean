import TokenHub.Lemmas.Service

/-!
# Who can change the service

Every admin route checks the `Authorization` header before it reads the body, and `chat`, the only route open to all,
changes nothing of the service: it only calls backends. So the service after a run of requests is what the run's add
requests that pass the check make of it, in their order, whatever else the run holds and whatever the backends answer
(`run_service_eq_authorized_adds`). The proof is a step lemma, that a request which is not such an add leaves the service
as it was (`handle_state_of_not_writes`), and a run lemma by induction over the requests, with the fact that what a request
does to the service does not depend on the calls made before it (`run_state_congr`).

The same shape gives what the backends see: `chat` calls only adapters of the directory, and the directory only gains an
adapter that a provider class built from the `api_key` of an `add_provider` passing the check (`handle_adapters`), so every
call of a run goes through an adapter the service started with or one built from a key an admin sent
(`run_calls_admin_adapters`). The check passes exactly on `Bearer ` followed by the admin password (`authorized_iff`).

What the service answers never depends on its vault: the routes write keys to it and no route reads one back, since
`add_provider` is always given the body's key and the routing engine reads the directory only through its adapters
(`executeWithRouting_directory`). So two services alike in all but their vaults (`SameButVault`) answer every run alike
(`run_answers_independent_of_vault`), a two-run property proved the same way: a step lemma for each route, then induction.

The metrics `chat` logs to its table are not modelled (`Persistence`): "the database" here is its vault and models tables.
-/

namespace TokenHub

open TokenHubAPI AddProviderAux VaultAux

/-- Two services alike in all but their vaults: the vault itself (password, salt, texts) and the vault row of the database
may differ. -/
structure SameButVault (s₁ s₂ : TokenHubAPI) : Prop where
  adminPassword : s₁.adminPassword = s₂.adminPassword
  models_table : s₁.persistence.models = s₂.persistence.models
  providers : s₁.providerRegistry.providers = s₂.providerRegistry.providers
  providerClasses : s₁.providerRegistry.providerClasses = s₂.providerRegistry.providerClasses
  modelRegistry : s₁.modelRegistry = s₂.modelRegistry

/-- An adapter that a run `rs` from the service `s` may put in the directory: one `s` had, or one a provider class of `s`
built from the key of an `add_provider` of `rs` that passes the check. -/
def AdminAdapter (s : TokenHubAPI) (rs : List Request) (a : ProviderAdapter) : Prop :=
  a ∈ s.providerRegistry.providers.values ∨
    ∃ auth data iv providerType apiKey cls, Request.addProvider auth data iv ∈ rs ∧ s.authorized auth = true ∧
      data.providerType = some providerType ∧ data.apiKey = some apiKey ∧
      s.providerRegistry.providerClasses.get? providerType = some cls ∧ cls apiKey [] = .ok a

namespace AccessAux

variable (crypto : Crypto) (env : String → Option String) (w : World)

/-- The service after a run does not depend on the calls the backends had before it. -/
theorem run_state_congr (rs : List Request) : ∀ st st' : TokenHubAPI × List ProviderCall, st.1 = st'.1 →
    (run crypto env w rs st).2.1 = (run crypto env w rs st').2.1 := by
  induction rs with
  | nil => exact fun _ _ h => h
  | cons r rs ih =>
    rintro ⟨s, calls⟩ ⟨s', calls'⟩ (rfl : s = s')
    exact ih _ _ (handle_state_calls crypto env w r s calls calls')

/-- The step: a request leaves the classes, keeps every adapter or adds one a class built from the key of an `add_provider`
passing the check, and calls backends only through adapters of the directory. -/
theorem handle_adapters (r : Request) (st : TokenHubAPI × List ProviderCall) :
    (handle crypto env w r st).2.1.providerRegistry.providerClasses = st.1.providerRegistry.providerClasses ∧
    (∀ a ∈ (handle crypto env w r st).2.1.providerRegistry.providers.values, a ∈ st.1.providerRegistry.providers.values ∨
      ∃ auth data iv providerType apiKey cls, r = .addProvider auth data iv ∧ st.1.authorized auth = true ∧
        data.providerType = some providerType ∧ data.apiKey = some apiKey ∧
        st.1.providerRegistry.providerClasses.get? providerType = some cls ∧ cls apiKey [] = .ok a) ∧
    ∃ added, (handle crypto env w r st).2.2 = st.2 ++ added ∧
      ∀ c ∈ added, c.adapter ∈ st.1.providerRegistry.providers.values := by
  have hnone : ∃ added, st.2 = st.2 ++ added ∧ ∀ c ∈ added, c.adapter ∈ st.1.providerRegistry.providers.values :=
    ⟨[], (List.append_nil _).symm, nofun⟩
  cases r with
  | chat data => exact ⟨rfl, fun a ha => .inl ha, chat_calls w st.1 data st.2⟩
  | addProvider auth data iv =>
    obtain ⟨hc, ha⟩ := addProvider_adapters crypto env st.1 auth data iv
    refine ⟨hc, fun a h => (ha a h).imp id ?_, hnone⟩
    rintro ⟨providerType, apiKey, cls, h⟩
    exact ⟨auth, data, iv, providerType, apiKey, cls, rfl, h⟩
  | addModel auth data =>
    have hreg := (addModel_providerRegistry_vault st.1 auth data).1
    exact ⟨congrArg ProviderRegistry.providerClasses hreg, fun a ha => .inl (hreg ▸ ha), hnone⟩
  | _ => exact ⟨rfl, fun a ha => .inl ha, hnone⟩

/-- The run: every call goes to an adapter the directory had from the start or one built from the key of an `add_provider`
of the run passing the check. -/
theorem run_adapters (s₀ : TokenHubAPI) (R : List Request) (rs : List Request) :
    ∀ st : TokenHubAPI × List ProviderCall, (∀ r ∈ rs, r ∈ R) → st.1.adminPassword = s₀.adminPassword →
      st.1.providerRegistry.providerClasses = s₀.providerRegistry.providerClasses →
      (∀ a ∈ st.1.providerRegistry.providers.values, AdminAdapter s₀ R a) →
      ∃ added, (run crypto env w rs st).2.2 = st.2 ++ added ∧ ∀ c ∈ added, AdminAdapter s₀ R c.adapter := by
  induction rs with
  | nil => exact fun st _ _ _ _ => ⟨[], (List.append_nil _).symm, nofun⟩
  | cons r rs ih =>
    intro st hR hpw hc hdir
    rw [List.forall_mem_cons] at hR
    obtain ⟨hc', hdir', added, hadded, hcalls⟩ := handle_adapters crypto env w r st
    have hdir₁ : ∀ a ∈ (handle crypto env w r st).2.1.providerRegistry.providers.values, AdminAdapter s₀ R a := by
      intro a ha
      rcases hdir' a ha with ha | ⟨auth, data, iv, providerType, apiKey, cls, rfl, hauth, ht, hk, hcl, hcls⟩
      · exact hdir a ha
      · refine .inr ⟨auth, data, iv, providerType, apiKey, cls, hR.1, ?_, ht, hk, hc ▸ hcl, hcls⟩
        simpa [authorized, hpw] using hauth
    obtain ⟨added', h', hcalls'⟩ := ih (handle crypto env w r st).2 hR.2
      ((handle_adminPassword crypto env w r st).trans hpw) (hc'.trans hc) hdir₁
    refine ⟨added ++ added', by rw [run_cons, h', hadded, List.append_assoc], fun c hc => ?_⟩
    rcases List.mem_append.mp hc with hc | hc
    · exact hdir _ (hcalls c hc)
    · exact hcalls' c hc

/-- Whether a store succeeds does not depend on the vault: both succeed, or both raise that the data is not aligned. -/
theorem store_shape (v₁ v₂ : SecureVault) (key value : String) (iv : Urandom) :
    (∃ v₁' v₂', v₁.store crypto key value iv = .ok v₁' ∧ v₂.store crypto key value iv = .ok v₂') ∨
      (v₁.store crypto key value iv = .error .notBlockAligned ∧ v₂.store crypto key value iv = .error .notBlockAligned) := by
  by_cases ha : Aligned value
  · obtain ⟨c₁, -, h₁⟩ := encrypt_ok crypto v₁ value iv ha
    obtain ⟨c₂, -, h₂⟩ := encrypt_ok crypto v₂ value iv ha
    exact .inl ⟨_, _, by rw [SecureVault.store, h₁]; rfl, by rw [SecureVault.store, h₂]; rfl⟩
  · exact .inr ⟨by rw [SecureVault.store, encrypt_error crypto v₁ value iv ha]; rfl,
      by rw [SecureVault.store, encrypt_error crypto v₂ value iv ha]; rfl⟩

/-- The vault write of `add_provider` on two registries with vaults: both return, or both raise the same error. -/
theorem storeKey_shape {r₁ r₂ : ProviderRegistry} {v₁ v₂ : SecureVault} (h₁ : r₁.vault = some v₁)
    (h₂ : r₂.vault = some v₂) (name key : String) (iv : Urandom) :
    (∃ r₁' r₂', storeKey crypto r₁ name key true iv = .ok r₁' ∧ storeKey crypto r₂ name key true iv = .ok r₂') ∨
      ∃ e, storeKey crypto r₁ name key true iv = .error e ∧ storeKey crypto r₂ name key true iv = .error e := by
  unfold storeKey
  rw [if_pos rfl, if_pos rfl, h₁, h₂]
  dsimp only
  rcases store_shape crypto v₁ v₂ (ProviderRegistry.vaultKey name) key iv with ⟨_, _, hs₁, hs₂⟩ | ⟨hs₁, hs₂⟩
  · exact .inl ⟨_, _, by rw [hs₁]; rfl, by rw [hs₂]; rfl⟩
  · exact .inr ⟨_, by rw [hs₁]; rfl, by rw [hs₂]; rfl⟩

/-- `add_provider` with a key given, storing it, on two registries alike but for their vaults: the same outcome, and
registries alike but for their vaults. -/
theorem addProvider_vault_congr {r₁ r₂ : ProviderRegistry} {v₁ v₂ : SecureVault} (h₁ : r₁.vault = some v₁)
    (h₂ : r₂.vault = some v₂) (hp : r₁.providers = r₂.providers) (hc : r₁.providerClasses = r₂.providerClasses)
    (name providerType apiKey : String) (config : Config) (iv : Urandom) :
    (r₁.addProvider crypto env name providerType (some apiKey) true config iv).1 =
        (r₂.addProvider crypto env name providerType (some apiKey) true config iv).1 ∧
      (r₁.addProvider crypto env name providerType (some apiKey) true config iv).2.providers =
        (r₂.addProvider crypto env name providerType (some apiKey) true config iv).2.providers ∧
      (r₁.addProvider crypto env name providerType (some apiKey) true config iv).2.providerClasses =
        (r₂.addProvider crypto env name providerType (some apiKey) true config iv).2.providerClasses := by
  rw [addProvider_apply, addProvider_apply]
  dsimp only [ProviderRegistry.resolveApiKey]
  rcases storeKey_shape crypto h₁ h₂ name apiKey iv with ⟨r₁', r₂', hs₁, hs₂⟩ | ⟨e, hs₁, hs₂⟩ <;> rw [hs₁, hs₂]
  · obtain ⟨hp₁, hc₁, -⟩ := storeKey_ok crypto hs₁
    obtain ⟨hp₂, hc₂, -⟩ := storeKey_ok crypto hs₂
    have hp' : r₁'.providers = r₂'.providers := by rw [hp₁, hp₂, hp]
    have hc' : r₁'.providerClasses = r₂'.providerClasses := by rw [hc₁, hc₂, hc]
    dsimp only
    rw [hc']
    rcases r₂'.providerClasses.get? providerType with _ | c
    · exact ⟨rfl, hp', hc'⟩
    · dsimp only
      rcases c apiKey config with _ | a
      · exact ⟨rfl, hp', hc'⟩
      · exact ⟨rfl, congrArg (PyDict.set · name a) hp', rfl⟩
  · exact ⟨rfl, hp, hc⟩

/-- The routing engine reads the directory only through its adapters: two engines of one catalog, one default policy and
the same adapters route alike, whatever their vaults and classes. -/
theorem executeWithRouting_directory {e₁ e₂ : RoutingEngine} (hm : e₁.modelRegistry = e₂.modelRegistry)
    (hp : e₁.providerRegistry.providers = e₂.providerRegistry.providers) (hd : e₁.defaultPolicy = e₂.defaultPolicy) :
    e₁.executeWithRouting w = e₂.executeWithRouting w := by
  obtain ⟨m, ⟨v₁, p, c₁⟩, d⟩ := e₁
  obtain ⟨_, ⟨v₂, _, c₂⟩, _⟩ := e₂
  cases hm
  cases hp
  cases hd
  rfl

variable {s₁ s₂ : TokenHubAPI}

theorem authorized_vault_congr (h : SameButVault s₁ s₂) : s₁.authorized = s₂.authorized := by
  funext auth
  simp only [authorized, h.adminPassword]

theorem chat_vault_congr (h : SameButVault s₁ s₂) (data : ChatBody) (calls : List ProviderCall) :
    s₁.chat w data calls = s₂.chat w data calls := by
  have he : s₁.orchestrationEngine w = s₂.orchestrationEngine w :=
    congrArg (OrchestrationEngine.init · none) (executeWithRouting_directory w h.modelRegistry h.providers rfl)
  simp only [chat, he]

theorem listProviders_vault_congr (h : SameButVault s₁ s₂) (auth : String) :
    s₁.listProviders auth = s₂.listProviders auth := by
  simp only [listProviders, ProviderRegistry.listProviders, authorized_vault_congr h, h.providers]

theorem addModel_vault_congr (h : SameButVault s₁ s₂) (auth : String) (data : ModelBody) :
    (s₁.addModel auth data).1 = (s₂.addModel auth data).1 ∧
      SameButVault (s₁.addModel auth data).2 (s₂.addModel auth data).2 := by
  unfold addModel
  rw [authorized_vault_congr h]
  by_cases ha : s₂.authorized auth
  swap
  · rw [if_pos (by simp [ha]), if_pos (by simp [ha])]
    exact ⟨rfl, h⟩
  rw [if_neg (by simp [ha]), if_neg (by simp [ha])]
  rcases data.parse with e | model
  · exact ⟨rfl, h⟩
  dsimp only [saveModels]
  rw [Database.saveModels_eq, Database.saveModels_eq, h.models_table, h.modelRegistry]
  split_ifs
  · exact ⟨rfl, h.adminPassword, rfl, h.providers, h.providerClasses, rfl⟩
  · exact ⟨rfl, h.adminPassword, h.models_table, h.providers, h.providerClasses, rfl⟩

theorem addProvider_route_vault_congr (h : SameButVault s₁ s₂) (auth : String) (data : ProviderBody) (iv : Urandom) :
    (s₁.addProvider crypto env auth data iv).1 = (s₂.addProvider crypto env auth data iv).1 ∧
      SameButVault (s₁.addProvider crypto env auth data iv).2 (s₂.addProvider crypto env auth data iv).2 := by
  unfold TokenHubAPI.addProvider
  rw [authorized_vault_congr h]
  by_cases ha : s₂.authorized auth
  swap
  · rw [if_pos (by simp [ha]), if_pos (by simp [ha])]
    exact ⟨rfl, h⟩
  rw [if_neg (by simp [ha]), if_neg (by simp [ha])]
  rcases data with ⟨_ | name, _ | providerType, _ | apiKey⟩ <;> dsimp only
  all_goals try exact ⟨rfl, h⟩
  split_ifs
  · exact ⟨rfl, h⟩
  obtain ⟨hres, hp, hc⟩ := addProvider_vault_congr crypto env s₁.registry_vault s₂.registry_vault h.providers
    h.providerClasses name providerType apiKey [] iv
  rw [hres]
  rcases (s₂.providerRegistry.addProvider crypto env name providerType (some apiKey) true [] iv).1 with _ | ⟨⟩ <;>
    exact ⟨rfl, h.adminPassword, h.models_table, hp, hc, h.modelRegistry⟩

/-- The step: from two services alike but for their vaults, a request gets the same answer and makes the same calls, and
leaves two services alike but for their vaults. -/
theorem handle_vault_congr (h : SameButVault s₁ s₂) (r : Request) (calls : List ProviderCall) :
    (handle crypto env w r (s₁, calls)).1 = (handle crypto env w r (s₂, calls)).1 ∧
      (handle crypto env w r (s₁, calls)).2.2 = (handle crypto env w r (s₂, calls)).2.2 ∧
      SameButVault (handle crypto env w r (s₁, calls)).2.1 (handle crypto env w r (s₂, calls)).2.1 := by
  cases r with
  | chat data =>
    obtain ⟨hr, hc⟩ := Prod.ext_iff.mp (chat_vault_congr w h data calls)
    exact ⟨hr, hc, h⟩
  | addProvider auth data iv =>
    obtain ⟨hr, hs⟩ := addProvider_route_vault_congr crypto env h auth data iv
    exact ⟨hr, rfl, hs⟩
  | listProviders auth => exact ⟨listProviders_vault_congr h auth, rfl, h⟩
  | addModel auth data =>
    obtain ⟨hr, hs⟩ := addModel_vault_congr h auth data
    exact ⟨hr, rfl, hs⟩
  | health => exact ⟨rfl, rfl, h⟩

end AccessAux

open AccessAux

/-- Only an add request that passes the admin check changes the service: after any run of requests, whatever the backends
answer, the service (its password, the vault and models tables of its database, vault, adapters, provider classes and
catalog) is what the run's adds that pass the check make of it alone, in their order. Chat requests, listings, health checks and requests that fail the check
change nothing, wherever they stand in the run. -/
theorem run_service_eq_authorized_adds (crypto : Crypto) (env : String → Option String) (w : World) (s : TokenHubAPI)
    (rs : List Request) (calls calls' : List ProviderCall) :
    (run crypto env w rs (s, calls)).2.1 = (run crypto env w (rs.filter (Request.writes s)) (s, calls')).2.1 := by
  suffices h : ∀ (st : TokenHubAPI × List ProviderCall) (calls' : List ProviderCall),
      (run crypto env w rs st).2.1 = (run crypto env w (rs.filter (Request.writes st.1)) (st.1, calls')).2.1 from
    h (s, calls) calls'
  induction rs with
  | nil => exact fun _ _ => rfl
  | cons r rs ih =>
    intro st calls'
    have hpw := handle_adminPassword crypto env w r st
    by_cases hr : r.writes st.1
    · -- an authorized add: both runs make it, from the same service
      rw [List.filter_cons_of_pos hr]
      show (run crypto env w rs (handle crypto env w r st).2).2.1 =
        (run crypto env w (rs.filter (Request.writes st.1)) (handle crypto env w r (st.1, calls')).2).2.1
      rw [ih, writes_congr hpw]
      exact run_state_congr crypto env w _ _ _ (handle_state_calls crypto env w r st.1 st.2 calls')
    · -- any other request: the service is as it was
      rw [List.filter_cons_of_neg hr]
      have hs := handle_state_of_not_writes crypto env w r st (by simpa using hr)
      show (run crypto env w rs (handle crypto env w r st).2).2.1 = _
      rw [ih, hs]

/-- The service calls backends only with keys an admin gave it: over any run of requests, whatever the backends answer,
every call the service makes goes through an adapter it had at the start, or one a provider class built from the `api_key`
of an `add_provider` of the run that passed the admin check. A service just started has no adapter, so every call it makes
carries a key sent by an admin. -/
theorem run_calls_admin_adapters (crypto : Crypto) (env : String → Option String) (w : World) (s : TokenHubAPI)
    (rs : List Request) (calls : List ProviderCall) :
    ∃ added, (run crypto env w rs (s, calls)).2.2 = calls ++ added ∧ ∀ c ∈ added, AdminAdapter s rs c.adapter :=
  run_adapters crypto env w s rs rs (s, calls) (fun _ h => h) rfl rfl (fun _ h => .inl h)

/-- The vault is written and never read: two services alike in all but their vaults (the keys stored, the salt, the
password it was opened with, and the vault row of the database) answer every run of requests alike, make the same calls to
the backends, and stay alike but for their vaults. No route reads a key back: `add_provider` is always given the body's
key, and the adapters carry their own. -/
theorem run_answers_independent_of_vault (crypto : Crypto) (env : String → Option String) (w : World)
    {s₁ s₂ : TokenHubAPI} (h : SameButVault s₁ s₂) (rs : List Request) (calls : List ProviderCall) :
    (run crypto env w rs (s₁, calls)).1 = (run crypto env w rs (s₂, calls)).1 ∧
      (run crypto env w rs (s₁, calls)).2.2 = (run crypto env w rs (s₂, calls)).2.2 ∧
      SameButVault (run crypto env w rs (s₁, calls)).2.1 (run crypto env w rs (s₂, calls)).2.1 := by
  suffices hst : ∀ st₁ st₂ : TokenHubAPI × List ProviderCall, st₁.2 = st₂.2 → SameButVault st₁.1 st₂.1 →
      (run crypto env w rs st₁).1 = (run crypto env w rs st₂).1 ∧
        (run crypto env w rs st₁).2.2 = (run crypto env w rs st₂).2.2 ∧
        SameButVault (run crypto env w rs st₁).2.1 (run crypto env w rs st₂).2.1 from
    hst (s₁, calls) (s₂, calls) rfl h
  induction rs with
  | nil => exact fun _ _ hc h => ⟨rfl, hc, h⟩
  | cons r rs ih =>
    rintro ⟨s₁, calls⟩ ⟨s₂, _⟩ (rfl : calls = _) h
    obtain ⟨hr, hc, hs⟩ := handle_vault_congr crypto env w h r calls
    obtain ⟨ih₁, ih₂, ih₃⟩ := ih _ _ hc hs
    refine ⟨?_, ih₂, ih₃⟩
    rw [run_cons, run_cons, hr, ih₁]

/-- A service, and the same service after an `add_provider` of an unknown type, which stored the key in the vault before it
raised. -/
theorem run_answers_independent_of_vault_after_failed_add :
    SameButVault (fresh "pw" zeroUrandom) ((fresh "pw" zeroUrandom).addProvider plainCrypto (fun _ => none) "Bearer pw"
      ⟨some "openai", some "openai", some "sk"⟩ zeroUrandom).2 ∧
    (run plainCrypto (fun _ => none) mockWorld [.listProviders "Bearer pw"] (fresh "pw" zeroUrandom, [])).1 =
      (run plainCrypto (fun _ => none) mockWorld [.listProviders "Bearer pw"]
        (((fresh "pw" zeroUrandom).addProvider plainCrypto (fun _ => none) "Bearer pw"
          ⟨some "openai", some "openai", some "sk"⟩ zeroUrandom).2, [])).1 :=
  have h : SameButVault (fresh "pw" zeroUrandom) ((fresh "pw" zeroUrandom).addProvider plainCrypto (fun _ => none)
      "Bearer pw" ⟨some "openai", some "openai", some "sk"⟩ zeroUrandom).2 := ⟨rfl, rfl, rfl, rfl, rfl⟩
  ⟨h, (run_answers_independent_of_vault plainCrypto (fun _ => none) mockWorld h [.listProviders "Bearer pw"] []).1⟩

end TokenHub
