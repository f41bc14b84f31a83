import TokenHub.Theorems.Access

/-!
# The directory and the catalog after a run, and the service after a restart

`GET /admin/providers` lists a name exactly when the directory had it before a run or an `add_provider` of that name in
the run was answered 200 (`run_listed_iff`): an `add_provider` answered 500, even one that stored its key in the vault
before the class lookup raised, lists nothing. The step is `addProvider_directory`, what the route does to the directory;
the run follows by induction.

The catalog is the start's with the model of each `add_model` that passes the check and has a complete body registered in
turn (`run_catalog_eq`), answered 200 or not: `register_model` runs before `_save_models`, whose raise does not undo it.

The adapters are not saved, so a service just constructed on any database has none, and over any run in which no
`add_provider` is answered 200 it calls no backend and answers every chat 500 (`restarted_service_refuses_chats`): the
routing engine raises before its first call when the directory is empty, and so does the orchestrator over it, in either
mode.
-/

namespace TokenHub

open TokenHubAPI AddProviderAux PyDict

/-- The name of the provider an `add_provider` request adds. -/
def Request.providerName : Request → Option String
  | .addProvider _ data _ => data.name
  | _ => none

/-- An `add_provider` request. -/
def Request.isAddProvider : Request → Bool
  | .addProvider .. => true
  | _ => false

/-- A chat request. -/
def Request.isChat : Request → Bool
  | .chat .. => true
  | _ => false

/-- The model an `add_model` request registers on a service of the password of `s`: the body's model, when the request
passes the check and the body has the five fields. -/
def Request.registeredModel (s : TokenHubAPI) : Request → Option ModelMetadata
  | .addModel auth data => if s.authorized auth then data.parse.toOption else none
  | _ => none

namespace DirectoryAux

variable (crypto : Crypto) (env : String → Option String) (w : World)

/-- `POST /admin/providers`, by what it does to the directory: nothing, and an answer other than 200; or the adapter set
under the body's name, and 200. -/
theorem addProvider_directory (s : TokenHubAPI) (auth : String) (data : ProviderBody) (iv : Urandom) :
    ((s.addProvider crypto env auth data iv).2.providerRegistry.providers = s.providerRegistry.providers ∧
        (s.addProvider crypto env auth data iv).1.status ≠ 200) ∨
      ∃ name p, data.name = some name ∧ (s.addProvider crypto env auth data iv).1.status = 200 ∧
        (s.addProvider crypto env auth data iv).2.providerRegistry.providers = s.providerRegistry.providers.set name p := by
  rcases addProvider_cases crypto env s auth data iv with ⟨h, hs⟩ | ⟨name, providerType, apiKey, -, hn, -, -, hvs, h⟩
  · rw [h]
    exact .inl ⟨rfl, by omega⟩
  rw [h]
  rcases hres : (s.providerRegistry.addProvider crypto env name providerType (some apiKey) true [] iv).1 with e | ⟨⟩
  · exact .inl ⟨(addProvider_error_inv crypto env (Prod.ext hres rfl)).1, by simp⟩
  · obtain ⟨k, r₁, c, p, -, hs, -, -, hr⟩ := addProvider_ok_inv crypto env (Prod.ext hres rfl)
    exact .inr ⟨name, p, hn, rfl,
      (congrArg ProviderRegistry.providers hr).trans (congrArg (PyDict.set · name p) (storeKey_ok crypto hs).1)⟩

/-- The step: after a request the directory lists the names it listed before, and the name of an `add_provider` answered
200. -/
theorem handle_listed (r : Request) (st : TokenHubAPI × List ProviderCall) (name : String) :
    name ∈ (handle crypto env w r st).2.1.providerRegistry.listProviders ↔
      name ∈ st.1.providerRegistry.listProviders ∨
        (r.providerName = some name ∧ (handle crypto env w r st).1.status = 200) := by
  cases r with
  | addProvider auth data iv =>
    show name ∈ (st.1.addProvider crypto env auth data iv).2.providerRegistry.providers.keys ↔
      name ∈ st.1.providerRegistry.providers.keys ∨ (data.name = some name ∧ (st.1.addProvider crypto env auth data iv).1.status = 200)
    rcases addProvider_directory crypto env st.1 auth data iv with ⟨hp, hs⟩ | ⟨name', p, hn, hs, hp⟩
    · rw [hp]
      simp [hs]
    · rw [hp, mem_keys_set, hn, hs, Option.some_inj]
      exact or_comm.trans (or_congr_right ⟨fun h => ⟨h.symm, rfl⟩, fun h => h.1.symm⟩)
  | addModel auth data =>
    show name ∈ (st.1.addModel auth data).2.providerRegistry.listProviders ↔ _
    rw [(addModel_providerRegistry_vault st.1 auth data).1]
    simp [Request.providerName]
  | _ => simp [handle, Request.providerName]

/-- The step: a request registers the model `registeredModel` names, and no other changes the catalog. -/
theorem handle_modelRegistry (r : Request) (st : TokenHubAPI × List ProviderCall) :
    (handle crypto env w r st).2.1.modelRegistry =
      ((r.registeredModel st.1).map (st.1.modelRegistry.registerModel ·)).getD st.1.modelRegistry := by
  cases r with
  | addProvider auth data iv => exact addProvider_modelRegistry crypto env st.1 auth data iv
  | addModel auth data =>
    show (st.1.addModel auth data).2.modelRegistry = _
    unfold TokenHubAPI.addModel
    dsimp only [Request.registeredModel]
    by_cases ha : st.1.authorized auth
    · rw [if_neg (by simp [ha]), if_pos ha]
      rcases data.parse with e | model
      · rfl
      · dsimp only [saveModels]
        rcases st.1.persistence.saveModels (st.1.modelRegistry.registerModel model).exportModels with _ | _ <;> rfl
    · rw [if_pos (by simp [ha]), if_neg ha]
      rfl
  | _ => rfl

/-- The routing engine over an empty directory raises before its first call. -/
theorem router_refuses (e : RoutingEngine) (he : e.providerRegistry.providers = PyDict.empty) (request : ChatRequest)
    (policy : Option RoutingPolicy) (calls : List ProviderCall) :
    ∃ err, e.router w request policy calls = (.error err, calls) := by
  rw [RoutingEngine.router, SystemAux.executeWithRouting_getD, RoutingAux.executeWithRouting_apply]
  rcases e.selectModel request (some (policy.getD e.defaultPolicy)) with _ | m
  · exact ⟨_, rfl⟩
  · dsimp only
    rw [show e.providerRegistry.getProvider m.provider = none by simp [ProviderRegistry.getProvider, he]]
    exact ⟨_, rfl⟩

/-- The orchestrator over a router that raises before any call raises before any call, in either mode. -/
theorem execute_refuses {σ : Type} {route : Router σ}
    (hroute : ∀ request policy s, ∃ err, route request policy s = (.error err, s)) (defaultConfig : Option OrchestrationConfig)
    (request : ChatRequest) (config : Option OrchestrationConfig) (policy : Option RoutingPolicy) (s : σ) :
    ∃ err, (OrchestrationEngine.init route defaultConfig).execute request config policy s = (.error err, s) := by
  unfold OrchestrationEngine.execute
  cases (config.getD (OrchestrationEngine.init route defaultConfig).defaultConfig).mode
  · obtain ⟨err, h⟩ := hroute request policy s
    exact ⟨err, by simp only [OrchestrationEngine.executeSimple, OrchestrationEngine.init, Run.bind_apply, h]⟩
  · obtain ⟨err, h⟩ := hroute (OrchestrationEngine.planRequest request (config.getD (defaultConfig.getD {}))) policy s
    exact ⟨err, by simp only [OrchestrationEngine.executeAdversarial, OrchestrationEngine.init, Run.bind_apply, h]⟩

/-- `chat` on a service whose directory is empty: answered 500, and no call. -/
theorem chat_refused (s : TokenHubAPI) (he : s.providerRegistry.providers = PyDict.empty) (data : ChatBody)
    (calls : List ProviderCall) :
    (s.chat w data calls).1.status = 500 ∧ (s.chat w data calls).2 = calls := by
  unfold chat
  rcases data.parse with e | ⟨chatRequest, config⟩
  · exact ⟨rfl, rfl⟩
  obtain ⟨err, h⟩ := execute_refuses (router_refuses w s.routingEngine he) none chatRequest (some config) none calls
  dsimp only [orchestrationEngine]
  rw [h]
  exact ⟨rfl, rfl⟩

/-- The step: on a service whose directory is empty, a request other than an `add_provider` answered 200 leaves it empty,
calls nothing, and a chat is answered 500. -/
theorem handle_refused (r : Request) (st : TokenHubAPI × List ProviderCall)
    (he : st.1.providerRegistry.providers = PyDict.empty)
    (hadd : r.isAddProvider = true → (handle crypto env w r st).1.status ≠ 200) :
    (handle crypto env w r st).2.1.providerRegistry.providers = PyDict.empty ∧ (handle crypto env w r st).2.2 = st.2 ∧
      (r.isChat = true → (handle crypto env w r st).1.status = 500) := by
  cases r with
  | chat data =>
    obtain ⟨hs, hc⟩ := chat_refused w st.1 he data st.2
    exact ⟨he, hc, fun _ => hs⟩
  | addProvider auth data iv =>
    rcases addProvider_directory crypto env st.1 auth data iv with ⟨hp, -⟩ | ⟨_, _, -, hs, -⟩
    · exact ⟨hp.trans he, rfl, nofun⟩
    · exact absurd hs (hadd rfl)
  | addModel auth data =>
    exact ⟨(congrArg ProviderRegistry.providers (addModel_providerRegistry_vault st.1 auth data).1).trans he, rfl, nofun⟩
  | listProviders auth => exact ⟨he, rfl, nofun⟩
  | health => exact ⟨he, rfl, nofun⟩

end DirectoryAux

open DirectoryAux

/-- The directory is what the run's successful adds made it: after any run of requests from any service, whatever the
backends answer, `list_providers` lists a name exactly when it listed it before the run or an `add_provider` of that name
was answered 200. An `add_provider` answered 500 lists nothing, though its key may be in the vault. -/
theorem run_listed_iff (crypto : Crypto) (env : String → Option String) (w : World) (s : TokenHubAPI)
    (rs : List Request) (calls : List ProviderCall) (name : String) :
    name ∈ (run crypto env w rs (s, calls)).2.1.providerRegistry.listProviders ↔
      name ∈ s.providerRegistry.listProviders ∨
        ∃ p ∈ (run crypto env w rs (s, calls)).1, p.1.providerName = some name ∧ p.2.status = 200 := by
  suffices h : ∀ st : TokenHubAPI × List ProviderCall,
      name ∈ (run crypto env w rs st).2.1.providerRegistry.listProviders ↔
        name ∈ st.1.providerRegistry.listProviders ∨
          ∃ p ∈ (run crypto env w rs st).1, p.1.providerName = some name ∧ p.2.status = 200 from h (s, calls)
  induction rs with
  | nil => simp
  | cons r rs ih =>
    intro st
    rw [run_cons, ih, handle_listed]
    simp only [List.mem_cons, or_and_right, exists_or, exists_eq_left, or_assoc]

/-- The catalog is what the authorized adds of models made it: after any run of requests from any service, whatever the
backends answer, the catalog is the start's with the model of each `add_model` that carries `Bearer <admin password>` and
a body of the five fields registered in turn. Those answered 500 because `save_models` raised count too: the model stays
registered in memory, though not in the database. -/
theorem run_catalog_eq (crypto : Crypto) (env : String → Option String) (w : World) (s : TokenHubAPI)
    (rs : List Request) (calls : List ProviderCall) :
    (run crypto env w rs (s, calls)).2.1.modelRegistry =
      (rs.filterMap (Request.registeredModel s)).foldl ModelRegistry.registerModel s.modelRegistry := by
  suffices h : ∀ st : TokenHubAPI × List ProviderCall, st.1.adminPassword = s.adminPassword →
      (run crypto env w rs st).2.1.modelRegistry =
        (rs.filterMap (Request.registeredModel s)).foldl ModelRegistry.registerModel st.1.modelRegistry from h (s, calls) rfl
  induction rs with
  | nil => exact fun _ _ => rfl
  | cons r rs ih =>
    intro st hpw
    have hreg : r.registeredModel st.1 = r.registeredModel s := by
      cases r <;> simp [Request.registeredModel, authorized, hpw]
    rw [run_cons, ih _ ((handle_adminPassword crypto env w r st).trans hpw), handle_modelRegistry, List.filterMap_cons,
      hreg]
    rcases r.registeredModel s with _ | m <;> rfl

/-- A restarted service answers no chat until an `add_provider` succeeds: the adapters are not saved, so a service just
constructed, on any database, has none, and over any run in which no `add_provider` is answered 200, whatever the backends
would answer, it calls no backend, answers every chat 500, and lists no provider. -/
theorem restarted_service_refuses_chats (crypto : Crypto) (env : String → Option String) (w : World)
    (adminPassword : String) (db : Database) (salt : Urandom) (s : TokenHubAPI)
    (hinit : init crypto adminPassword db salt = .ok s) (rs : List Request) (calls : List ProviderCall)
    (hadd : ∀ p ∈ (run crypto env w rs (s, calls)).1, p.1.isAddProvider = true → p.2.status ≠ 200) :
    (run crypto env w rs (s, calls)).2.2 = calls ∧
      (∀ p ∈ (run crypto env w rs (s, calls)).1, p.1.isChat = true → p.2.status = 500) ∧
      (run crypto env w rs (s, calls)).2.1.providerRegistry.listProviders = [] := by
  have he : s.providerRegistry.providers = PyDict.empty := by
    unfold init at hinit
    rcases hv : loadVault crypto adminPassword db salt with e | v <;> rw [hv] at hinit <;> cases hinit
    rfl
  suffices h : ∀ st : TokenHubAPI × List ProviderCall, st.1.providerRegistry.providers = PyDict.empty →
      (∀ p ∈ (run crypto env w rs st).1, p.1.isAddProvider = true → p.2.status ≠ 200) →
      (run crypto env w rs st).2.2 = st.2 ∧ (∀ p ∈ (run crypto env w rs st).1, p.1.isChat = true → p.2.status = 500) ∧
        (run crypto env w rs st).2.1.providerRegistry.providers = PyDict.empty by
    obtain ⟨hc, hchat, hp⟩ := h (s, calls) he hadd
    exact ⟨hc, hchat, by rw [ProviderRegistry.listProviders, hp]; rfl⟩
  clear hadd
  induction rs with
  | nil => exact fun _ he _ => ⟨rfl, fun _ hp => absurd hp (List.not_mem_nil _), he⟩
  | cons r rs ih =>
    intro st he hadd
    simp only [run_cons, List.mem_cons, forall_eq_or_imp] at hadd ⊢
    obtain ⟨he', hc, hchat⟩ := handle_refused crypto env w r st he hadd.1
    obtain ⟨hc', hchat', hp'⟩ := ih _ he' hadd.2
    exact ⟨hc'.trans hc, ⟨hchat, hchat'⟩, hp'⟩

/-- A service started on an empty database, asked to chat before any provider is added. -/
theorem restarted_service_refuses_chats_fresh :
    init plainCrypto "pw" Database.empty zeroUrandom = .ok (fresh "pw" zeroUrandom) ∧
    (∀ p ∈ (run plainCrypto (fun _ => none) mockWorld [.chat { messages := [{ role := "user", content := "Hi" }] }]
        (fresh "pw" zeroUrandom, [])).1, p.1.isAddProvider = true → p.2.status ≠ 200) ∧
    (run plainCrypto (fun _ => none) mockWorld [.chat { messages := [{ role := "user", content := "Hi" }] }]
        (fresh "pw" zeroUrandom, [])).2.2 = [] :=
  have hinit : init plainCrypto "pw" Database.empty zeroUrandom = .ok (fresh "pw" zeroUrandom) := rfl
  have hadd : ∀ p ∈ (run plainCrypto (fun _ => none) mockWorld [.chat { messages := [{ role := "user", content := "Hi" }] }]
      (fresh "pw" zeroUrandom, [])).1, p.1.isAddProvider = true → p.2.status ≠ 200 := by
    simp [Request.isAddProvider]
  ⟨hinit, hadd, (restarted_service_refuses_chats plainCrypto (fun _ => none) mockWorld "pw" Database.empty zeroUrandom
    (fresh "pw" zeroUrandom) hinit [.chat { messages := [{ role := "user", content := "Hi" }] }] [] hadd).1⟩

end TokenHub
