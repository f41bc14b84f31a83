import TokenHub.Python
import TokenHub.Providers
import TokenHub.Models
import TokenHub.Utf8
import TokenHub.Vault
import TokenHub.Registry
import TokenHub.Routing
import TokenHub.Orchestration
import TokenHub.Persistence
import TokenHub.Service
import TokenHub.RoutingSpec
import TokenHub.AdversarialSpec
import TokenHub.VaultSpec
import TokenHub.Lemmas.StableSort
import TokenHub.Lemmas.Routing
import TokenHub.Lemmas.Persistence
import TokenHub.Lemmas.Service
import TokenHub.Theorems.Selection
import TokenHub.Theorems.Escalation
import TokenHub.Theorems.Adversarial
import TokenHub.Theorems.VaultRefinement
import TokenHub.Theorems.AddProvider
import TokenHub.Theorems.Catalog
import TokenHub.Theorems.System
import TokenHub.Theorems.Access
import TokenHub.Theorems.Registries
import TokenHub.Theorems.Replies
import TokenHub.Theorems.Cost
import TokenHub.Theorems.Outcomes
import TokenHub.Theorems.Durability
