import TokenHub.Vault

/-!
# The provider registry

`registry.py`. The directory the routing engine reads (`getProvider`), and `add_provider`, which reads a key from the
argument, the vault or the environment, stores it in the vault, and only then looks up the provider class and builds the
adapter. It is a `Run` over the registry: when the class lookup or the constructor raises, the vault write before it stays.

`os.getenv` is an argument (`env`), and so is the vector the vault's store draws. `name.upper()` is `String.toUpper`,
which upper-cases ASCII letters only, where Python's `upper` upper-cases every cased letter: the environment variable
looked up for a name with a non-ASCII letter is another one, and such names, given without a key, are outside the model.
The service's route always passes a key, so it never looks one up. `validate_all_providers` calls the adapters' `validate_api_key`, which is not in
the model.
-/

namespace TokenHub

/-- A `ProviderRegistry`: its vault, if it has one, the adapters by name, and the provider classes by type. -/
structure ProviderRegistry where
  vault : Option SecureVault
  providers : PyDict ProviderAdapter
  providerClasses : PyDict ProviderClass

namespace ProviderRegistry

/-- `ProviderRegistry(vault)`: no adapters, and the mock class under `"mock"`. -/
def init (vault : Option SecureVault) : ProviderRegistry :=
  ⟨vault, PyDict.empty, PyDict.empty.set "mock" mockProviderAdapter⟩

/-- The vault key of a provider's API key, `f"provider_{name}_api_key"`. -/
def vaultKey (name : String) : String := "provider_" ++ name ++ "_api_key"

/-- `register_provider_class`. -/
def registerProviderClass (r : ProviderRegistry) (name : String) (providerClass : ProviderClass) : ProviderRegistry :=
  { r with providerClasses := r.providerClasses.set name providerClass }

/-- `get_provider`. -/
def getProvider (r : ProviderRegistry) (name : String) : Option ProviderAdapter := r.providers.get? name

/-- `list_providers`. -/
def listProviders (r : ProviderRegistry) : List String := r.providers.keys

variable (crypto : Crypto) (env : String → Option String)

/-- The key `add_provider` uses: the argument, else the vault's (whose `retrieve` may raise), else the environment's
`<NAME>_API_KEY`, the name upper-cased as Python does for ASCII names only. -/
def resolveApiKey (r : ProviderRegistry) (name : String) (apiKey : Option String) : Except HubError (Option String) :=
  match apiKey with
  | some k => .ok (some k)
  | none => do
    let fromVault ← match r.vault with
      | some v => v.retrieve crypto (vaultKey name)
      | none => .ok none
    pure (match fromVault with
      | some k => some k
      | none => env (name.toUpper ++ "_API_KEY"))

/-- `add_provider(name, provider_type, api_key, store_in_vault, **config)`. -/
def addProvider (name providerType : String) (apiKey : Option String) (storeInVault : Bool) (config : Config)
    (iv : Urandom) : Run HubError ProviderRegistry Unit := do
  let r ← Run.get
  let some apiKey ← Run.lift (r.resolveApiKey crypto env name apiKey) | throw (HubError.noApiKey name)
  if storeInVault then
    match r.vault with
    | some v => do
      let v' ← Run.lift (v.store crypto (vaultKey name) apiKey iv)
      Run.set { r with vault := some v' }
    | none => pure ()
  let r ← Run.get
  let some providerClass := r.providerClasses.get? providerType | throw (HubError.unknownProviderType providerType)
  let provider ← Run.lift (providerClass apiKey config)
  Run.set { r with providers := r.providers.set name provider }

/-- `remove_provider`: the adapter and, when there is a vault, its key in the vault are removed. -/
def removeProvider (r : ProviderRegistry) (name : String) : ProviderRegistry × Bool :=
  if r.providers.contains name then
    ({ r with providers := r.providers.erase name, vault := r.vault.map (fun v => (v.delete (vaultKey name)).1) }, true)
  else (r, false)

end ProviderRegistry

end TokenHub
