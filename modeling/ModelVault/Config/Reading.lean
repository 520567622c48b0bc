import ModelVault.Config.Basic
import ModelVault.Config.Setting

/-!
Configurations from trees of values. One description of the groups and their settings serves both kinds of
trees: settings, whose values are converted to the type that is asked for, and JSON, whose values have to have
it.
-/

namespace ModelVault.Config

/-- How a kind of trees gives what a configuration needs. -/
structure Format (Value : Type) where
  /-- The values of a group by name. A list gives them in the order of the names. -/
  group? : List String → Value → Option (String → Option Value)
  /-- The value stands for nothing. -/
  isNull : Value → Bool
  text? : Value → Option String
  port? : Value → Option UInt16
  count? : Value → Option UInt64

/-- A group of settings, in the order in which a list gives them. -/
def serverNames : List String :=
  ["host", "port", "backend_wait_timeout_ms", "max_message_size", "tls_cert", "tls_key", "tls_client_ca"]

def required? (read? : Value → Option α) (value? : Option Value) : Option α :=
  value?.bind read?

def orDefault? (default : α) (read? : Value → Option α) (value? : Option Value) : Option α :=
  match value? with
  | some value => read? value
  | none => some default

def optional? (format : Format Value) (read? : Value → Option α) (value? : Option Value) :
    Option (Option α) :=
  match value? with
  | some value => if format.isNull value then some none else (read? value).map some
  | none => some none

/-- The configuration in a tree. Settings that are missing take their defaults, but host, port and engine have
none; names that are not known do not count. -/
def read? (format : Format Value) (tree : Value) : Option Config := do
  let groups ← format.group? ["server", "storage", "transfer"] tree
  let server ← (groups "server").bind (format.group? serverNames)
  let storage ← (groups "storage").bind (format.group? ["engine", "connection"])
  let transfer ← (groups "transfer").bind (format.group? ["chunk_size"])
  return {
    host := ← required? format.text? (server "host")
    port := ← required? format.port? (server "port")
    backendWait := ← optional? format format.count? (server "backend_wait_timeout_ms")
    maxMessageSize := ← orDefault? defaultMaxMessageSize format.count? (server "max_message_size")
    certificate := ← optional? format format.text? (server "tls_cert")
    privateKey := ← optional? format format.text? (server "tls_key")
    clientAuthority := ← optional? format format.text? (server "tls_client_ca")
    engine := ← required? format.text? (storage "engine")
    connection := ← orDefault? defaultConnection format.text? (storage "connection")
    chunkSize := ← orDefault? defaultChunkSize format.count? (transfer "chunk_size") }

private def atPlace (names : List String) (items : List Value) (name : String) : Option Value :=
  (names.idxOf? name).bind (items[·]?)

def settingText? : Setting → Option String
  | .text value => some value
  | .flag value => some (if value then "true" else "false")
  | .integer value => some (toString value)
  | .decimal value => some value.text
  | _ => none

private def switch? (text : String) : Option Nat :=
  let text := text.toLower
  if text = "true" || text = "on" || text = "yes" then some 1
  else if text = "false" || text = "off" || text = "no" then some 0
  else none

/-- The number from 0 to `2 ^ 64 - 1` that a scalar stands for: flags and their names are one and zero, decimals
are rounded. -/
def settingCount? : Setting → Option Nat
  | .integer value => if 0 ≤ value then some value.toNat else none
  | .flag value => some (if value then 1 else 0)
  | .decimal value => some value.roundToUnsigned
  | .text value => ((switch? value).or (Text.unsigned? value)).filter (· < UInt64.size)
  | _ => none

/-- Settings are converted. A port takes the low 16 bits of a number. -/
def converting : Format Setting where
  group? := fun names value =>
    match value with
    | .table members => some fun name => Setting.lookup? name members
    | .list items => some (atPlace names items)
    | _ => none
  isNull := fun value =>
    match value with
    | .absent => true
    | _ => false
  text? := settingText?
  port? := fun value => (settingCount? value).map UInt16.ofNat
  count? := fun value => (settingCount? value).map UInt64.ofNat

private def jsonNumber? (limit : Nat) : Json → Option Nat
  | .integer value => if 0 ≤ value ∧ value < limit then some value.toNat else none
  | _ => none

/-- The values of JSON are taken as they are, and a list must not be longer than the names. -/
def strict : Format Json where
  group? := fun names value =>
    match value with
    | .object members => some (Json.object members).member?
    | .array items => if items.length ≤ names.length then some (atPlace names items) else none
    | _ => none
  isNull := fun value =>
    match value with
    | .null => true
    | _ => false
  text? := fun value =>
    match value with
    | .string text => some text
    | _ => none
  port? := fun value => (jsonNumber? UInt16.size value).map UInt16.ofNat
  count? := fun value => (jsonNumber? UInt64.size value).map UInt64.ofNat

end ModelVault.Config
