import ModelVault.Storage.Nested
import ModelVault.Storage.Tables

/-! Stores of either engine behind one set of calls. -/

namespace ModelVault.Storage

/-- The engines a configuration can name. -/
inductive Engine where
  | memory
  | duckdb
  deriving DecidableEq

/-- A store of either engine. -/
inductive Store where
  | nested (store : NestedStore)
  | tabular (store : TableStore)
  deriving DecidableEq

def Engine.ofName? (name : String) : Option Engine :=
  if name = "memory" then some .memory
  else if name = "duckdb" then some .duckdb
  else none

/-- The store of an engine before its first call. -/
def Store.new : Engine → Store
  | .memory => .nested .empty
  | .duckdb => .tabular .empty

/-- The connection asks for tables that no file keeps. -/
def isTransient (connection : String) : Bool :=
  connection = "" || connection = ":memory:"

/-- Open the store that the configuration describes; `connect?` gives the database of a file, which may be a new
one, or nothing where there can be none. -/
def Store.create (connect? : String → Option Database) (engine connection : String) : Except StoreError Store :=
  match Engine.ofName? engine with
  | none => .error (.fault (.unsupportedEngine engine))
  | some .memory => .ok (.new .memory)
  | some .duckdb =>
    match if isTransient connection then some .new else connect? connection with
    | some database => .ok (.tabular (.ofDatabase database))
    | none => .error (.fault (.unopenable connection))

def Store.perform (call : Call) : Store → call.Reply × Store
  | nested store =>
    let (reply, store) := store.perform call
    (reply, nested store)
  | tabular store =>
    let (reply, store) := store.perform call
    (reply, tabular store)

instance : Backend Store := ⟨Store.perform⟩

end ModelVault.Storage
