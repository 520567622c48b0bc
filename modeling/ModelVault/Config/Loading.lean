import ModelVault.Config.Environment
import ModelVault.Config.FileFormat
import ModelVault.Config.Reading

/-!
Configurations from all sources: the defaults, over them a file, over both the environment, and over all the
command line. Within a file or an environment no order is fixed, and only what comes out at the end has to be
acceptable.
-/

namespace ModelVault.Config

/-- The settings that hold without any source. -/
def defaults : Setting :=
  .table [
    ("server", .table [
      ("host", .text "127.0.0.1"),
      ("port", .integer 9002),
      ("max_message_size", .integer 16777216)]),
    ("storage", .table [
      ("engine", .text "duckdb"),
      ("connection", .text ":memory:")]),
    ("transfer", .table [("chunk_size", .integer 5242880)])]

/-- The settings below the command line. -/
def merged (file environment : List (String × Setting)) : Setting :=
  (defaults.writeAll file).writeAll environment

/-- The configuration of a file's settings, the environment's and a command line. -/
def resolve (file environment : List (String × Setting)) (overrides : Overrides) :
    Except ConfigError Config :=
  match read? converting (merged file environment) with
  | none => .error .unreadable
  | some config =>
    let config := config.override overrides
    config.validate.map fun () => config

/-- An order in which to go through the settings of a source. -/
structure Arrangement where
  arrange : List (String × Setting) → List (String × Setting)
  perm (settings : List (String × Setting)) : (arrange settings).Perm settings

/-- The order in which the settings come. -/
def Arrangement.asGiven : Arrangement := ⟨id, .refl⟩

/-- What is left open of how sources are read: the formats of files, in the order in which their extensions are
tried, and the orders in which the settings of a file and those of the environment are written. -/
structure Loader where
  formats : List FileFormat
  file : Arrangement
  environment : Arrangement

/-- Files of the formats that are built in, and nothing rearranged. -/
def Loader.standard : Loader := ⟨[.toml, .json], .asGiven, .asGiven⟩

end ModelVault.Config
