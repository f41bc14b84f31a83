import TokenHub.Persistence
import TokenHub.Orchestration
import TokenHub.Theorems.AddProvider

/-!
# The service

`api.py`. A `TokenHubAPI` is the admin password, its database, and what `__init__` builds: a vault, a provider registry over
that vault, a catalog, and the routing and orchestration engines over the two registries. `__init__` then loads the stored
vault and models (`TokenHubAPI.init`). The routes are functions of the service and the request's body; `handle` dispatches a
request, and `run` answers a list of them in turn.

A request's JSON body is a record of the fields its route reads, each absent or of the type the route uses it at; a field
sent as `null` where the route has a default other than `None`, a field of another JSON type, and a body that is not an
object are not represented. The Prometheus counters are not modelled, and neither is the `/metrics` route that shows them,
except where they change an answer: the token counter refuses a negative count, which makes `chat` answer 500. The metrics
`chat` logs to the database are read by nothing (`persistence.py`).

`self.vault` and the provider registry's vault are one object, which `add_provider` changes in place: the service carries
the vault beside the registry, with the proof that the registry's vault is it (`registry_vault`).
-/

namespace TokenHub

open AddProviderAux

/-! ## Texts of Python's errors -/

/-- Two lowercase hexadecimal digits of a byte. -/
def hexByte (n : Nat) : String := String.mk [Nat.digitChar (n / 16), Nat.digitChar (n % 16)]

/-- A character of `repr` of a `str` written between the quote `quote`: the quote and the backslash escaped, tab, newline
and carriage return by name, the other ASCII control characters in hexadecimal. (Python also escapes the non-ASCII characters
it does not count printable; they are kept here.) -/
def reprChar (quote c : Char) : String :=
  if c = quote ∨ c = '\\' then String.mk ['\\', c]
  else if c = '\t' then "\\t"
  else if c = '\n' then "\\n"
  else if c = '\r' then "\\r"
  else if c.toNat < 32 ∨ c.toNat = 127 then "\\x" ++ hexByte c.toNat
  else c.toString

/-- `repr` of a `str`: between single quotes, or between double quotes when it holds a single quote and no double quote. -/
def pyRepr (s : String) : String :=
  let quote := if s.toList.contains (Char.ofNat 39) && !s.toList.contains (Char.ofNat 34) then Char.ofNat 34
    else Char.ofNat 39
  quote.toString ++ String.join (s.toList.map (reprChar quote)) ++ quote.toString

/-! ## Requests and answers -/

/-- `data[key]`: the value, or the `KeyError`, whose text is the key's `repr`. -/
def required {α : Type} (key : String) : Option α → Except HubError α
  | some a => .ok a
  | none => .error (.external (pyRepr key))

/-- A message of the `messages` of `POST /v1/chat`: its `role` and `content`. -/
structure MessageBody where
  role : Option String := none
  content : Option String := none

/-- `ChatMessage(role=msg["role"], content=msg["content"])`. -/
def MessageBody.parse (msg : MessageBody) : Except HubError ChatMessage := do
  let role ← required "role" msg.role
  let content ← required "content" msg.content
  pure ⟨role, content⟩

/-- `OrchestrationMode(value)`: the member of that value, or the `ValueError`. -/
def OrchestrationMode.ofValue (value : String) : Except HubError OrchestrationMode :=
  if value = "simple" then .ok .simple
  else if value = "adversarial" then .ok .adversarial
  else .error (.external (pyRepr value ++ " is not a valid OrchestrationMode"))

/-- The body of `POST /v1/chat`. -/
structure ChatBody where
  messages : List MessageBody := []
  model : Option String := none
  maxTokens : Option Int := none
  temperature : Option ℚ := none
  orchestrationMode : Option String := none
  plannerModel : Option String := none
  criticModel : Option String := none
  maxRefinementIterations : Option Int := none
  enableRefinement : Option Bool := none

/-- What `chat` builds from the body before it runs the engine: the messages in order, the request, then the configuration,
of mode `"simple"`, one refinement and refinement off by default. -/
def ChatBody.parse (data : ChatBody) : Except HubError (ChatRequest × OrchestrationConfig) := do
  let messages ← data.messages.mapM MessageBody.parse
  let chatRequest : ChatRequest := ⟨messages, data.model, data.maxTokens, data.temperature⟩
  let mode ← OrchestrationMode.ofValue (data.orchestrationMode.getD "simple")
  pure (chatRequest, ⟨mode, data.plannerModel, data.criticModel, data.maxRefinementIterations.getD 1,
    data.enableRefinement.getD false⟩)

/-- The body of `POST /admin/providers`. -/
structure ProviderBody where
  name : Option String := none
  providerType : Option String := none
  apiKey : Option String := none

/-- The body of `POST /admin/models`. -/
structure ModelBody where
  name : Option String := none
  provider : Option String := none
  costPer1kTokens : Option ℚ := none
  contextSize : Option Int := none
  weight : Option Int := none

/-- `ModelMetadata(name=data["name"], ...)`: the five fields looked up in order, the first absent one raising. -/
def ModelBody.parse (data : ModelBody) : Except HubError ModelMetadata := do
  let name ← required "name" data.name
  let provider ← required "provider" data.provider
  let costPer1kTokens ← required "cost_per_1k_tokens" data.costPer1kTokens
  let contextSize ← required "context_size" data.contextSize
  let weight ← required "weight" data.weight
  pure ⟨name, provider, costPer1kTokens, contextSize, weight⟩

/-- The JSON object a route answers with. -/
inductive Reply where
  /-- `{"error": message}`. -/
  | error (message : String)
  /-- `{"message": text}`. -/
  | message (text : String)
  /-- `{"providers": names}`. -/
  | providers (names : List String)
  /-- The `response`, `model`, `tokens_used` and `finish_reason` of the final response, and in adversarial mode the
  summary under `adversarial`. -/
  | chat (finalResponse : ChatResponse) (adversarial : Option (PyDict SummaryValue))
  /-- `{"status": text}`. -/
  | status (text : String)

/-- A route's answer: the HTTP status and the JSON object. -/
structure Response where
  status : Nat
  reply : Reply

/-- A request to the service. An `add_provider` carries the sixteen bytes the vault's store draws for it. -/
inductive Request where
  | chat (data : ChatBody)
  | addProvider (auth : String) (data : ProviderBody) (iv : Urandom)
  | listProviders (auth : String)
  | addModel (auth : String) (data : ModelBody)
  | health

/-! ## The service -/

/-- A `TokenHubAPI`: the admin password, the database, the vault, and the two registries. The provider registry holds the
service's vault (`registry_vault`). The engines hold the registries and nothing else, so a route builds them from these. -/
structure TokenHubAPI where
  adminPassword : String
  persistence : Database
  vault : SecureVault
  providerRegistry : ProviderRegistry
  modelRegistry : ModelRegistry
  registry_vault : providerRegistry.vault = some vault

namespace TokenHubAPI

variable (crypto : Crypto) (env : String → Option String) (w : World)

/-- `self.routing_engine`: over the service's registries, with `RoutingPolicy()`. -/
def routingEngine (s : TokenHubAPI) : RoutingEngine := RoutingEngine.init s.modelRegistry s.providerRegistry none

/-- `self.orchestration_engine`, with `OrchestrationConfig()`, whose backends `w` answers. -/
def orchestrationEngine (s : TokenHubAPI) : OrchestrationEngine (List ProviderCall) :=
  OrchestrationEngine.init (s.routingEngine.router w) none

/-- The vault part of `_load_persisted_data`: the stored vault, when there is one, imported into the fresh vault, whose
salt the import replaces; a stored salt that does not decode raises. -/
def loadVault (adminPassword : String) (db : Database) (salt : Urandom) : Except HubError SecureVault :=
  match db.loadVaultData with
  | some vaultData => (SecureVault.init adminPassword none salt).importEncrypted crypto vaultData
  | none => .ok (SecureVault.init adminPassword none salt)

/-- The catalog part of `_load_persisted_data`: the stored models, when there are any, imported into `ModelRegistry()`. -/
def loadCatalog (db : Database) : ModelRegistry :=
  let modelsData := db.loadModels
  if modelsData.isEmpty then ModelRegistry.init else ModelRegistry.init.importModels modelsData

/-- `TokenHubAPI(admin_password, db_path)` on the file's tables: a vault of a fresh salt, the registries over it, then
`_load_persisted_data`, the vault first. A raise of the import comes out of `__init__`. -/
def init (adminPassword : String) (db : Database) (salt : Urandom) : Except HubError TokenHubAPI := do
  let vault ← loadVault crypto adminPassword db salt
  pure ⟨adminPassword, db, vault, ProviderRegistry.init (some vault), loadCatalog db, rfl⟩

/-- `create_app(admin_password, db_path)`: the password given, else `TOKENHUB_ADMIN_PASSWORD`, else `"changeme"`. -/
def createApp (adminPassword : Option String) (db : Database) (salt : Urandom) : Except HubError TokenHubAPI :=
  init crypto (adminPassword.getD ((env "TOKENHUB_ADMIN_PASSWORD").getD "changeme")) db salt

/-- The check each admin route makes first: the `Authorization` header (`''` when there is none) starts with `Bearer `, and
what follows its first seven characters is the admin password. -/
def authorized (s : TokenHubAPI) (auth : String) : Bool :=
  "Bearer ".toList.isPrefixOf auth.toList && auth.toList.drop 7 == s.adminPassword.toList

/-- An admin route's answer to a request that fails the check. -/
def unauthorized : Response := ⟨401, .error "Unauthorized"⟩

/-- `_save_vault`: the vault's export written to the database. -/
def saveVault (s : TokenHubAPI) : TokenHubAPI :=
  { s with persistence := s.persistence.saveVaultData (s.vault.exportEncrypted crypto) }

/-- `_save_models`: the catalog's export written to the database. -/
def saveModels (s : TokenHubAPI) : Except HubError TokenHubAPI := do
  let db ← s.persistence.saveModels s.modelRegistry.exportModels
  pure { s with persistence := db }

/-- The service with the provider registry `r`, whose vault is the service's: `add_provider` changes the vault in place. -/
def setProviderRegistry (s : TokenHubAPI) (r : ProviderRegistry) (h : r.vault.isSome) : TokenHubAPI :=
  { s with providerRegistry := r, vault := r.vault.get h, registry_vault := (Option.some_get h).symm }

/-- `POST /admin/providers`: the check, the three fields (each must be true), `add_provider` storing the key in the vault,
then `_save_vault`. A raise is answered 500 with its text, and what `add_provider` did before it stays. -/
def addProvider (s : TokenHubAPI) (auth : String) (data : ProviderBody) (iv : Urandom) : Response × TokenHubAPI :=
  if !s.authorized auth then (unauthorized, s) else
  match data.name, data.providerType, data.apiKey with
  | some name, some providerType, some apiKey =>
    if name = "" ∨ providerType = "" ∨ apiKey = "" then (⟨400, .error "Missing required fields"⟩, s) else
    let added := s.providerRegistry.addProvider crypto env name providerType (some apiKey) true [] iv
    let s := s.setProviderRegistry added.2
      ((addProvider_vault_isSome crypto env _ _ _ _ _ _ _).trans (congrArg Option.isSome s.registry_vault))
    match added.1 with
    | .ok () => (⟨200, .message "Provider added successfully"⟩, s.saveVault crypto)
    | .error e => (⟨500, .error e.message⟩, s)
  | _, _, _ => (⟨400, .error "Missing required fields"⟩, s)

/-- `GET /admin/providers`: the check, then the names of the adapters. -/
def listProviders (s : TokenHubAPI) (auth : String) : Response :=
  if !s.authorized auth then unauthorized else ⟨200, .providers s.providerRegistry.listProviders⟩

/-- `POST /admin/models`: the check, the model built from the body, `register_model`, then `_save_models`. A raise is
answered 500 with its text; a model registered before `_save_models` raised stays registered. -/
def addModel (s : TokenHubAPI) (auth : String) (data : ModelBody) : Response × TokenHubAPI :=
  if !s.authorized auth then (unauthorized, s) else
  match data.parse with
  | .error e => (⟨500, .error e.message⟩, s)
  | .ok model =>
    let s := { s with modelRegistry := s.modelRegistry.registerModel model }
    match s.saveModels with
    | .ok s => (⟨200, .message "Model added successfully"⟩, s)
    | .error e => (⟨500, .error e.message⟩, s)

/-- The `ValueError` of a Prometheus counter incremented by a negative amount. -/
def negativeIncrement : HubError := .external "Counters can only be incremented by non-negative amounts."

/-- `POST /v1/chat`: the request and configuration built from the body, the orchestration engine run on them with no policy,
and the final response answered, with the summary in adversarial mode. A raise is answered 500 with its text: of the body,
of the engine, or of the token counter, which refuses a negative count after the engine has run. -/
def chat (s : TokenHubAPI) (data : ChatBody) (calls : List ProviderCall) : Response × List ProviderCall :=
  match data.parse with
  | .error e => (⟨500, .error e.message⟩, calls)
  | .ok (chatRequest, config) =>
    match (s.orchestrationEngine w).execute chatRequest (some config) none calls with
    | (.error e, calls) => (⟨500, .error e.message⟩, calls)
    | (.ok result, calls) =>
      if result.finalResponse.tokensUsed < 0 then (⟨500, .error negativeIncrement.message⟩, calls) else
      (⟨200, .chat result.finalResponse
        (if config.mode = .adversarial then some (OrchestrationEngine.createAdversarialSummary result) else none)⟩,
        calls)

/-- `GET /health`. -/
def health : Response := ⟨200, .status "healthy"⟩

end TokenHubAPI

open TokenHubAPI

variable (crypto : Crypto) (env : String → Option String) (w : World)

/-- The service answering a request, beside the record of the calls the backends have had; only `chat` calls them. -/
def handle : Request → TokenHubAPI × List ProviderCall → Response × (TokenHubAPI × List ProviderCall)
  | .chat data, st => let answer := st.1.chat w data st.2; (answer.1, (st.1, answer.2))
  | .addProvider auth data iv, st => let answer := st.1.addProvider crypto env auth data iv; (answer.1, (answer.2, st.2))
  | .listProviders auth, st => (st.1.listProviders auth, st)
  | .addModel auth data, st => let answer := st.1.addModel auth data; (answer.1, (answer.2, st.2))
  | .health, st => (TokenHubAPI.health, st)

/-- A run of requests, each answered in turn from the state the one before left: the requests with their answers, and the
state at the end. -/
def run : List Request → TokenHubAPI × List ProviderCall →
    List (Request × Response) × (TokenHubAPI × List ProviderCall)
  | [], st => ([], st)
  | r :: rs, st =>
    let answer := handle crypto env w r st
    let rest := run rs answer.2
    ((r, answer.1) :: rest.1, rest.2)

end TokenHub
