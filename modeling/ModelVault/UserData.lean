import Std.Data.ExtTreeMap
import ModelVault.Json.Reader

/-!
The free entries that users attach to models and versions, and the JSON object that stores them.
-/

namespace ModelVault

/-- Texts by key, in the order of the keys' characters. -/
abbrev UserData := Std.ExtTreeMap String String

namespace UserData

/-- The entries of a list; of two entries with one key the later stays. -/
def ofPairs (pairs : List (String × String)) : UserData :=
  pairs.foldl (fun entries (key, value) => entries.insert key value) ∅

/-- The entries in the order of their keys. -/
def toPairs (entries : UserData) : List (String × String) :=
  entries.toList

/-- The JSON object of the entries. -/
def toJson (entries : UserData) : Json :=
  .object (entries.toPairs.map fun (key, value) => (key, .string value))

/-- The stored text: a compact JSON object. -/
def write (entries : UserData) : String :=
  entries.toJson.compact

/-- The names and texts of members that all hold strings. -/
def pairs? : List (String × Json) → Option (List (String × String))
  | [] => some []
  | (key, .string value) :: rest => (pairs? rest).map ((key, value) :: ·)
  | _ => none

/-- The entries of a stored text, which has to be a JSON object of strings. -/
def read? (text : String) : Option UserData :=
  match Json.read? text with
  | some (.object members) => (pairs? members).map ofPairs
  | _ => none

private theorem foldl_insert (pairs : List (String × String)) (entries : UserData) :
    pairs.foldl (fun entries (key, value) => entries.insert key value) entries =
      entries.insertMany pairs := by
  induction pairs generalizing entries with
  | nil => simp
  | cons pair pairs ih => rw [List.foldl_cons, ih, Std.ExtTreeMap.insertMany_cons]

/-- The entries can be listed in any order. -/
theorem ofPairs_of_perm {pairs : List (String × String)} {entries : UserData} (order : pairs.Perm entries.toPairs) :
    ofPairs pairs = entries := by
  have listed : ofPairs pairs = .ofList pairs := by
    rw [ofPairs, foldl_insert, Std.ExtTreeMap.ofList_eq_insertMany_empty]
  have distinct : pairs.Pairwise fun one other => ¬ compare one.1 other.1 = .eq :=
    Std.ExtTreeMap.distinct_keys_toList.perm order.symm fun differ same => differ (Std.OrientedCmp.eq_symm same)
  rw [listed]
  apply Std.ExtTreeMap.ext_getElem?
  intro key
  cases found : entries[key]? with
  | some value =>
    have member := order.mem_iff.mpr (Std.ExtTreeMap.mem_toList_iff_getElem?_eq_some.mpr found)
    exact Std.ExtTreeMap.getElem?_ofList_of_mem Std.ReflCmp.compare_self distinct member
  | none =>
    apply Std.ExtTreeMap.getElem?_ofList_of_contains_eq_false
    have keys : (pairs.map Prod.fst).Perm entries.keys := by
      rw [← Std.ExtTreeMap.map_fst_toList_eq_keys]
      exact order.map _
    rw [List.contains_eq_any_beq, keys.any_eq, ← List.contains_eq_any_beq]
    simpa [← Std.ExtTreeMap.contains_eq_isSome_getElem?] using found

end UserData

end ModelVault
