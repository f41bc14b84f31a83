import TokenHub.Vault
import TokenHub.Models

/-!
# The database

`persistence.py`. The tables of the SQLite file that the service reads back: `vault_data`, one row of the vault's export,
and `models`, one row per model. Each table is its rows in rowid order, which is the order a full scan returns them in
(`load_models` has no `ORDER BY`, and no index of the table covers the columns it selects).

Two things of SQLite are in the model because the service's behaviour turns on them. `INSERT OR REPLACE` deletes the row of
the same name and inserts the new one with a rowid above every other, so it moves to the end (`insertOrReplace`). And the
`sqlite3` module binds a Python `int` as a 64-bit integer and raises `OverflowError` for one outside that range
(`bindInteger`); the raise leaves the connection uncommitted, so the table is as it was before `save_models`. A cost is
a float here, as `ModelMetadata` types it, and `sqlite3` binds a float as a REAL that the column stores as it is, so it
comes back unchanged. A cost the JSON body gives as an integer is bound as an INTEGER instead, raises beyond 64 bits and
is rounded to a double by the column above 2^53; integer costs are not modelled.

The vault's dict of texts goes through `json.dumps` and comes back through `json.loads`, which give back a dict of texts as it
was, keys and order: the column holds the dict. The `metrics` table is written by `log_metric` and read by nothing the service
runs, and the `updated_at` and `timestamp` columns by nothing at all; they are not modelled.
-/

namespace TokenHub

/-- A row of `vault_data`: the salt in base64, and the dict of texts. -/
structure VaultRow where
  salt : String
  data : PyDict String

/-- A row of `models`. -/
structure ModelRow where
  name : String
  provider : String
  costPer1kTokens : ℚ
  contextSize : Int
  weight : Int
  deriving DecidableEq, Repr

/-- The data `load_models` gives a row: its five columns, which `from_dict` makes a model of. -/
def ModelRow.data (row : ModelRow) : ModelMetadata :=
  ⟨row.name, row.provider, row.costPer1kTokens, row.contextSize, row.weight⟩

/-- The tables of a `PersistenceManager`'s file, each in rowid order. -/
structure Database where
  vaultData : List VaultRow
  models : List ModelRow

namespace Database

/-- A new file: `_init_database` creates the tables, empty. -/
def empty : Database := ⟨[], []⟩

/-- `save_vault_data`: every row deleted, then the export inserted. -/
def saveVaultData (db : Database) (vaultData : Exported) : Database :=
  { db with vaultData := [⟨vaultData.salt, vaultData.data⟩] }

/-- `load_vault_data`: the row of the highest id, or `None`. -/
def loadVaultData (db : Database) : Option Exported :=
  db.vaultData.getLast?.map fun row => ⟨row.salt, row.data⟩

/-- The text of the `OverflowError` of `sqlite3` binding an `int` outside 64 bits. -/
def overflowError : HubError := .external "Python int too large to convert to SQLite INTEGER"

/-- `sqlite3` binding a Python `int` to a parameter: the integer, when it fits in 64 bits. -/
def bindInteger (n : Int) : Except HubError Int :=
  if -2 ^ 63 ≤ n ∧ n < 2 ^ 63 then .ok n else .error overflowError

/-- `INSERT OR REPLACE INTO models`: the row of the same name, if there is one, deleted, and the new row last. -/
def insertOrReplace (rows : List ModelRow) (row : ModelRow) : List ModelRow :=
  rows.filter (fun r => r.name ≠ row.name) ++ [row]

/-- One statement of the loop of `save_models`: the item's key and the fields of its data, bound in order. The two integer
fields go through `bindInteger`; the cost, a float, is bound as it is. -/
def saveModel (rows : List ModelRow) (item : String × ModelMetadata) : Except HubError (List ModelRow) := do
  let contextSize ← bindInteger item.2.contextSize
  let weight ← bindInteger item.2.weight
  pure (insertOrReplace rows ⟨item.1, item.2.provider, item.2.costPer1kTokens, contextSize, weight⟩)

/-- `save_models`: one `INSERT OR REPLACE` per item, then the commit. A raise comes before the commit, so the table is as it
was. -/
def saveModels (db : Database) (modelsData : List (String × ModelMetadata)) : Except HubError Database := do
  let rows ← modelsData.foldlM saveModel db.models
  pure { db with models := rows }

/-- `load_models`: a dict filled from the rows in rowid order, each under its name. -/
def loadModels (db : Database) : List (String × ModelMetadata) :=
  (db.models.foldl (fun models row => models.set row.name row.data) PyDict.empty).entries

end Database

end TokenHub
