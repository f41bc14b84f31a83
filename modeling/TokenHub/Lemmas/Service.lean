import TokenHub.Service
import TokenHub.Lemmas.Persistence
import TokenHub.Theorems.System

/-!
# What each route of the service does, said once

One lemma per admin route says what it can do (`addProvider_cases`, `addModel_cases`): fail the check or the body and leave
the service as it was, or run `add_provider` or `register_model` and the save after it. The theorems about the service
start from these and from three facts of `handle`: the state after a request does not depend on the backends' record, no
request changes the admin password, and a request that is not an add passing the check changes nothing.

The bodies come first: a model is built exactly from a body of the five fields, and every refusal of a body raises an
error that names a field the route reads (`ModelBody.parse_error`, `ChatBody.parse_error`). The admin check accepts
exactly `Bearer ` followed by the password (`authorized_iff`).
-/

namespace TokenHub

/-- An add request, of a provider or of a model, that passes the admin check of the service `s`. -/
def Request.writes (s : TokenHubAPI) : Request → Bool
  | .addProvider auth _ _ => s.authorized auth
  | .addModel auth _ => s.authorized auth
  | _ => false

/-- An add request, of a provider or of a model. -/
def Request.isAdd : Request → Bool
  | .addProvider .. => true
  | .addModel .. => true
  | _ => false

/-! ## The request bodies -/

/-- `add_model` builds a model exactly from a body of the five fields, and the model is theirs. -/
theorem ModelBody.parse_eq_ok {data : ModelBody} {m : ModelMetadata} :
    data.parse = .ok m ↔ data = ⟨some m.name, some m.provider, some m.costPer1kTokens, some m.contextSize, some m.weight⟩ := by
  constructor
  · intro h
    obtain ⟨_ | name, _ | provider, _ | cost, _ | contextSize, _ | weight⟩ := data <;> cases h
    rfl
  · rintro rfl
    rfl

/-- A body `add_model` refuses raises the `KeyError` of the first field it lacks, in the order the route reads them. -/
theorem ModelBody.parse_error {data : ModelBody} {e : HubError} (h : data.parse = .error e) :
    ∃ key ∈ ["name", "provider", "cost_per_1k_tokens", "context_size", "weight"], e = .external (pyRepr key) := by
  obtain ⟨name, provider, cost, contextSize, weight⟩ := data
  rcases name with _ | name
  · cases h
    exact ⟨"name", by simp only [List.mem_cons, true_or], rfl⟩
  rcases provider with _ | provider
  · cases h
    exact ⟨"provider", by simp only [List.mem_cons, true_or, or_true], rfl⟩
  rcases cost with _ | cost
  · cases h
    exact ⟨"cost_per_1k_tokens", by simp only [List.mem_cons, true_or, or_true], rfl⟩
  rcases contextSize with _ | contextSize
  · cases h
    exact ⟨"context_size", by simp only [List.mem_cons, true_or, or_true], rfl⟩
  rcases weight with _ | weight
  · cases h
    exact ⟨"weight", by simp only [List.mem_cons, true_or, or_true], rfl⟩
  cases h

/-- Messages `chat` refuses raise the `KeyError` of `role` or `content`. -/
theorem MessageBody.mapM_parse_error {msgs : List MessageBody} {e : HubError}
    (h : msgs.mapM MessageBody.parse = .error e) : ∃ key ∈ ["role", "content"], e = .external (pyRepr key) := by
  induction msgs with
  | nil => cases h
  | cons msg msgs ih =>
    rw [List.mapM_cons] at h
    rcases hm : msg.parse with e' | m <;> rw [hm] at h
    · cases h
      obtain ⟨role, content⟩ := msg
      rcases role with _ | role
      · cases hm
        exact ⟨"role", by simp only [List.mem_cons, true_or], rfl⟩
      rcases content with _ | content
      · cases hm
        exact ⟨"content", by simp only [List.mem_cons, true_or, or_true], rfl⟩
      cases hm
    · rcases hr : msgs.mapM MessageBody.parse with e'' | ms <;> rw [hr] at h
      · cases h
        exact ih hr
      · cases h

/-- A body `chat` refuses raises the `KeyError` of a message's `role` or `content`, or the `ValueError` of an
`orchestration_mode` it was sent; the default mode, `"simple"`, passes. -/
theorem ChatBody.parse_error {data : ChatBody} {e : HubError} (h : data.parse = .error e) :
    (∃ key ∈ ["role", "content"], e = .external (pyRepr key)) ∨
      ∃ value, data.orchestrationMode = some value ∧ e = .external (pyRepr value ++ " is not a valid OrchestrationMode") := by
  unfold ChatBody.parse at h
  rcases hm : data.messages.mapM MessageBody.parse with e' | messages <;> rw [hm] at h
  · cases h
    exact .inl (MessageBody.mapM_parse_error hm)
  rcases hmode : OrchestrationMode.ofValue (data.orchestrationMode.getD "simple") with e' | mode <;> rw [hmode] at h
  · cases h
    rcases ho : data.orchestrationMode with _ | value <;> rw [ho] at hmode
    · cases hmode
    · refine .inr ⟨value, rfl, ?_⟩
      unfold OrchestrationMode.ofValue at hmode
      split_ifs at hmode
      exact (Except.error.inj hmode).symm
  · cases h

namespace TokenHubAPI

open AddProviderAux PyDict

variable (crypto : Crypto) (env : String → Option String) (w : World)

@[simp] theorem setProviderRegistry_adminPassword (s : TokenHubAPI) (r : ProviderRegistry) (h : r.vault.isSome) :
    (s.setProviderRegistry r h).adminPassword = s.adminPassword := rfl

@[simp] theorem setProviderRegistry_persistence (s : TokenHubAPI) (r : ProviderRegistry) (h : r.vault.isSome) :
    (s.setProviderRegistry r h).persistence = s.persistence := rfl

@[simp] theorem setProviderRegistry_modelRegistry (s : TokenHubAPI) (r : ProviderRegistry) (h : r.vault.isSome) :
    (s.setProviderRegistry r h).modelRegistry = s.modelRegistry := rfl

@[simp] theorem setProviderRegistry_providerRegistry (s : TokenHubAPI) (r : ProviderRegistry) (h : r.vault.isSome) :
    (s.setProviderRegistry r h).providerRegistry = r := rfl

@[simp] theorem saveVault_adminPassword (s : TokenHubAPI) : (s.saveVault crypto).adminPassword = s.adminPassword := rfl

@[simp] theorem saveVault_modelRegistry (s : TokenHubAPI) : (s.saveVault crypto).modelRegistry = s.modelRegistry := rfl

@[simp] theorem saveVault_providerRegistry (s : TokenHubAPI) :
    (s.saveVault crypto).providerRegistry = s.providerRegistry := rfl

@[simp] theorem saveVault_vault (s : TokenHubAPI) : (s.saveVault crypto).vault = s.vault := rfl

@[simp] theorem saveVault_persistence (s : TokenHubAPI) :
    (s.saveVault crypto).persistence = s.persistence.saveVaultData (s.vault.exportEncrypted crypto) := rfl

/-- The service `__init__` builds on a new file. -/
def fresh (adminPassword : String) (salt : Urandom) : TokenHubAPI :=
  ⟨adminPassword, Database.empty, SecureVault.init adminPassword none salt,
    ProviderRegistry.init (some (SecureVault.init adminPassword none salt)), ModelRegistry.init, rfl⟩

/-- The admin check accepts exactly the header `Bearer ` followed by the admin password: `startswith` and the slice
`[7:]` together say no more and no less. -/
theorem authorized_iff (s : TokenHubAPI) (auth : String) :
    s.authorized auth = true ↔ auth = "Bearer " ++ s.adminPassword := by
  rw [authorized, Bool.and_eq_true, List.isPrefixOf_iff_prefix, beq_iff_eq, String.ext_iff, String.data_append]
  show "Bearer ".data <+: auth.data ∧ auth.data.drop 7 = s.adminPassword.data ↔ _
  have h7 : "Bearer ".data.length = 7 := rfl
  constructor
  · rintro ⟨⟨t, ht⟩, hd⟩
    rw [← ht, List.drop_left' h7] at hd
    rw [← ht, hd]
  · intro h
    rw [h]
    exact ⟨List.prefix_append _ _, List.drop_left' h7⟩

/-- `POST /admin/providers`: the service as it was and an answer 400 or 401 (a field or the check failed), or the
check and the fields passed and `add_provider` ran, the vault being saved when it returned. -/
theorem addProvider_cases (s : TokenHubAPI) (auth : String) (data : ProviderBody) (iv : Urandom) :
    ((s.addProvider crypto env auth data iv).2 = s ∧
      ((s.addProvider crypto env auth data iv).1.status = 400 ∨ (s.addProvider crypto env auth data iv).1.status = 401)) ∨
    ∃ name providerType apiKey, s.authorized auth = true ∧ data.name = some name ∧
      data.providerType = some providerType ∧ data.apiKey = some apiKey ∧
      ∃ h, s.addProvider crypto env auth data iv =
        match (s.providerRegistry.addProvider crypto env name providerType (some apiKey) true [] iv).1 with
        | .ok () => (⟨200, .message "Provider added successfully"⟩, (s.setProviderRegistry
            (s.providerRegistry.addProvider crypto env name providerType (some apiKey) true [] iv).2 h).saveVault crypto)
        | .error e => (⟨500, .error e.message⟩, s.setProviderRegistry
            (s.providerRegistry.addProvider crypto env name providerType (some apiKey) true [] iv).2 h) := by
  unfold addProvider
  by_cases ha : s.authorized auth
  · rw [if_neg (by simp [ha])]
    rcases data with ⟨_ | name, _ | providerType, _ | apiKey⟩ <;> dsimp only
    all_goals try exact .inl ⟨rfl, .inl rfl⟩
    split
    · exact .inl ⟨rfl, .inl rfl⟩
    · exact .inr ⟨name, providerType, apiKey, ha, rfl, rfl, rfl,
        (addProvider_vault_isSome crypto env _ _ _ _ _ _ _).trans (congrArg Option.isSome s.registry_vault), rfl⟩
  · rw [if_pos (by simp [ha])]
    exact .inl ⟨rfl, .inr rfl⟩

/-- `POST /admin/models`: the service as it was and an answer other than 200 (the check or a field failed), or the check
passed, the model was registered, and the catalog saved or the save raised. -/
theorem addModel_cases (s : TokenHubAPI) (auth : String) (data : ModelBody) :
    ((s.addModel auth data).2 = s ∧ (s.addModel auth data).1.status ≠ 200) ∨
    ∃ model, s.authorized auth = true ∧ data.parse = .ok model ∧
      s.addModel auth data =
        match s.persistence.saveModels (s.modelRegistry.registerModel model).exportModels with
        | .ok db => (⟨200, .message "Model added successfully"⟩,
            { s with modelRegistry := s.modelRegistry.registerModel model, persistence := db })
        | .error e => (⟨500, .error e.message⟩, { s with modelRegistry := s.modelRegistry.registerModel model }) := by
  unfold addModel
  by_cases ha : s.authorized auth
  · rw [if_neg (by simp [ha])]
    rcases hp : data.parse with e | model
    · exact .inl ⟨rfl, by simp [unauthorized]⟩
    · refine .inr ⟨model, ha, rfl, ?_⟩
      dsimp only [saveModels]
      rcases s.persistence.saveModels (s.modelRegistry.registerModel model).exportModels with _ | _ <;> rfl
  · rw [if_pos (by simp [ha])]
    exact .inl ⟨rfl, by simp [unauthorized]⟩

/-- `POST /admin/providers` leaves the catalog as it is. -/
theorem addProvider_modelRegistry (s : TokenHubAPI) (auth : String) (data : ProviderBody) (iv : Urandom) :
    (s.addProvider crypto env auth data iv).2.modelRegistry = s.modelRegistry := by
  rcases addProvider_cases crypto env s auth data iv with ⟨h, -⟩ | ⟨_, _, _, -, -, -, -, _, h⟩
  · rw [h]
  · rw [h]
    split <;> rfl

/-- `POST /admin/models` leaves the directory and the vault as they are. -/
theorem addModel_providerRegistry_vault (s : TokenHubAPI) (auth : String) (data : ModelBody) :
    (s.addModel auth data).2.providerRegistry = s.providerRegistry ∧ (s.addModel auth data).2.vault = s.vault := by
  rcases addModel_cases s auth data with ⟨h, -⟩ | ⟨_, -, -, h⟩
  · rw [h]
    exact ⟨rfl, rfl⟩
  · rw [h]
    split <;> exact ⟨rfl, rfl⟩

/-- The adapters after `POST /admin/providers`: those before, and perhaps one a registered class built from the body's key,
when the request passed the check; the classes stay. -/
theorem addProvider_adapters (s : TokenHubAPI) (auth : String) (data : ProviderBody) (iv : Urandom) :
    (s.addProvider crypto env auth data iv).2.providerRegistry.providerClasses = s.providerRegistry.providerClasses ∧
    ∀ a ∈ (s.addProvider crypto env auth data iv).2.providerRegistry.providers.values,
      a ∈ s.providerRegistry.providers.values ∨
      ∃ providerType apiKey cls, s.authorized auth = true ∧ data.providerType = some providerType ∧
        data.apiKey = some apiKey ∧ s.providerRegistry.providerClasses.get? providerType = some cls ∧
        cls apiKey [] = .ok a := by
  rcases addProvider_cases crypto env s auth data iv with ⟨h, -⟩ | ⟨name, providerType, apiKey, hauth, -, ht, hk, hvs, h⟩
  · rw [h]
    exact ⟨rfl, fun a ha => .inl ha⟩
  have hreg : (s.addProvider crypto env auth data iv).2.providerRegistry =
      (s.providerRegistry.addProvider crypto env name providerType (some apiKey) true [] iv).2 := by
    rw [h]
    split <;> rfl
  rw [hreg]
  obtain ⟨hc, hp | ⟨k, c, p, hres, hcl, hck, hp⟩⟩ :=
    addProvider_providers crypto env s.providerRegistry name providerType (some apiKey) true [] iv
  · exact ⟨hc, fun a ha => .inl (hp ▸ ha)⟩
  · cases hres
    refine ⟨hc, fun a ha => ?_⟩
    rw [hp] at ha
    rcases mem_values_set ha with rfl | ha
    · exact .inr ⟨providerType, apiKey, c, hauth, ht, hk, hcl, hck⟩
    · exact .inl ha

/-- The calls after `chat`: those the orchestrator left, when the body parses, and those before otherwise. -/
theorem chat_snd (s : TokenHubAPI) (data : ChatBody) (calls : List ProviderCall) :
    (s.chat w data calls).2 = match data.parse with
      | .ok (chatRequest, config) => ((s.orchestrationEngine w).execute chatRequest (some config) none calls).2
      | .error _ => calls := by
  unfold chat
  rcases data.parse with e | ⟨chatRequest, config⟩
  · rfl
  dsimp only
  rcases (s.orchestrationEngine w).execute chatRequest (some config) none calls with ⟨_ | result, calls'⟩
  · rfl
  · dsimp only
    split <;> rfl

/-- `chat` only appends calls, each to an adapter of the directory. -/
theorem chat_calls (s : TokenHubAPI) (data : ChatBody) (calls : List ProviderCall) :
    ∃ added, (s.chat w data calls).2 = calls ++ added ∧ ∀ c ∈ added, c.adapter ∈ s.providerRegistry.providers.values := by
  rw [chat_snd]
  rcases data.parse with e | ⟨chatRequest, config⟩
  · exact ⟨[], (List.append_nil calls).symm, nofun⟩
  obtain ⟨added, h, -, hok⟩ := SystemAux.execute_appendsCalls s.routingEngine w none chatRequest (some config) none calls
  refine ⟨added, h, fun c hc => ?_⟩
  obtain ⟨m, -, hm⟩ := hok c hc
  exact List.mem_map_of_mem Prod.snd (mem_entries_of_get? hm)

end TokenHubAPI

open TokenHubAPI AddProviderAux

variable (crypto : Crypto) (env : String → Option String) (w : World)

@[simp] theorem run_nil (st : TokenHubAPI × List ProviderCall) : run crypto env w [] st = ([], st) := rfl

@[simp] theorem run_cons (r : Request) (rs : List Request) (st : TokenHubAPI × List ProviderCall) :
    run crypto env w (r :: rs) st =
      ((r, (handle crypto env w r st).1) :: (run crypto env w rs (handle crypto env w r st).2).1,
        (run crypto env w rs (handle crypto env w r st).2).2) := rfl

/-- The service after a request does not depend on the calls the backends had before it. -/
theorem handle_state_calls (r : Request) (s : TokenHubAPI) (calls calls' : List ProviderCall) :
    (handle crypto env w r (s, calls)).2.1 = (handle crypto env w r (s, calls')).2.1 := by
  cases r <;> rfl

/-- A request that is not an add passing the check leaves the service as it was. -/
theorem handle_state_of_not_writes (r : Request) (st : TokenHubAPI × List ProviderCall)
    (h : r.writes st.1 = false) : (handle crypto env w r st).2.1 = st.1 := by
  cases r with
  | addProvider auth data iv =>
    simp only [Request.writes] at h
    simp [handle, TokenHubAPI.addProvider, h]
  | addModel auth data =>
    simp only [Request.writes] at h
    simp [handle, TokenHubAPI.addModel, h]
  | _ => rfl

/-- No request changes the admin password. -/
theorem handle_adminPassword (r : Request) (st : TokenHubAPI × List ProviderCall) :
    (handle crypto env w r st).2.1.adminPassword = st.1.adminPassword := by
  cases r with
  | addProvider auth data iv =>
    rcases addProvider_cases crypto env st.1 auth data iv with ⟨h, -⟩ | ⟨_, _, _, -, -, -, -, _, h⟩
    · exact congrArg TokenHubAPI.adminPassword h
    · show (st.1.addProvider crypto env auth data iv).2.adminPassword = _
      rw [h]
      split <;> rfl
  | addModel auth data =>
    rcases addModel_cases st.1 auth data with ⟨h, -⟩ | ⟨_, -, -, h⟩
    · exact congrArg TokenHubAPI.adminPassword h
    · show (st.1.addModel auth data).2.adminPassword = _
      rw [h]
      split <;> rfl
  | _ => rfl

/-- Whether a request writes depends on the service only through its password. -/
theorem writes_congr {s s' : TokenHubAPI} (h : s'.adminPassword = s.adminPassword) : Request.writes s' = Request.writes s := by
  funext r
  cases r <;> simp [Request.writes, authorized, h]

end TokenHub
