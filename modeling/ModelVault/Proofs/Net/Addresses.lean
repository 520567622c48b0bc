import Mathlib.Data.List.TakeWhile
import ModelVault.Net.Address
import ModelVault.Proofs.Text.Numerals

/-!
Addresses to listen on. Whether a host and a port make one is a matter of the host alone, which has to be an address
in numeric form, and the port is the one that was given.
-/

namespace ModelVault.SocketAddress

variable {α : Type} {stop : Char}

/-- What a reader of something at the front of a text leaves of it, with more behind. -/
def andThen (more : List Char) (found : α × List Char) : α × List Char :=
  (found.1, found.2 ++ more)

theorem takeWhile_append_stop {kind : Char → Bool} (stops : kind stop = false) (text tail : List Char) :
    (text ++ stop :: tail).takeWhile kind = text.takeWhile kind := by
  induction text with
  | nil => rw [List.nil_append, List.takeWhile_cons, stops]; rfl
  | cons c rest ih =>
    rw [List.cons_append, List.takeWhile_cons, List.takeWhile_cons, ih]

theorem drop_append_stop {kind : Char → Bool} (text more : List Char) :
    (text ++ more).drop (text.takeWhile kind).length = text.drop (text.takeWhile kind).length ++ more :=
  List.drop_append_of_le_length (List.takeWhile_prefix kind).length_le

theorem behind?_append {c : Char} (other : stop ≠ c) (text tail : List Char) :
    behind? c (text ++ stop :: tail) = (behind? c text).map (· ++ stop :: tail) := by
  cases text with
  | nil => rw [List.nil_append, behind?, if_neg other]; rfl
  | cons d rest =>
    rw [List.cons_append, behind?, behind?]
    split <;> rfl

theorem decimal?_append {limit : Nat} (stops : Text.isDigit stop = false) (text tail : List Char) :
    decimal? limit (text ++ stop :: tail) = (decimal? limit text).map (andThen (stop :: tail)) := by
  rw [decimal?, decimal?, takeWhile_append_stop stops, drop_append_stop]
  split <;> rfl

theorem octet?_append (stops : Text.isDigit stop = false) (text tail : List Char) :
    octet? (text ++ stop :: tail) = (octet? text).map (andThen (stop :: tail)) := by
  rw [octet?, octet?, takeWhile_append_stop stops, decimal?_append stops]
  simp only
  split
  · rfl
  · split
    · rfl
    · cases decimal? 256 text <;> rfl

theorem group?_append (stops : isHexDigit stop = false) (text tail : List Char) :
    group? (text ++ stop :: tail) = (group? text).map (andThen (stop :: tail)) := by
  rw [group?, group?, takeWhile_append_stop stops, drop_append_stop]
  simp only
  split <;> rfl

/-- A character that ends every part of an address of four octets. -/
structure EndsOctets (stop : Char) : Prop where
  digit : Text.isDigit stop = false
  point : stop ≠ '.'

theorem ipv4?_append (ends : EndsOctets stop) (text tail : List Char) :
    ipv4? (text ++ stop :: tail) = (ipv4? text).map (andThen (stop :: tail)) := by
  simp only [ipv4?, octet?_append ends.digit, Option.bind_eq_bind, Option.bind_map, Function.comp_def, andThen,
    behind?_append ends.point, Option.map_bind, Option.pure_def, Option.map_some]

/-- A character that ends every part of an address of groups. -/
structure EndsGroups (stop : Char) : Prop extends EndsOctets stop where
  hexDigit : isHexDigit stop = false
  colon : stop ≠ ':'

theorem groups_append (ends : EndsGroups stop) (isFirst : Bool) (most : Nat) (text tail : List Char) :
    groups isFirst most (text ++ stop :: tail) =
      ((groups isFirst most text).1, (groups isFirst most text).2.1,
        (groups isFirst most text).2.2 ++ stop :: tail) := by
  induction most generalizing isFirst text with
  | zero => rw [groups, groups]
  | succ more ih =>
    have entered : (if isFirst then some (text ++ stop :: tail) else behind? ':' (text ++ stop :: tail)) =
        (if isFirst then some text else behind? ':' text).map (· ++ stop :: tail) := by
      split
      · rfl
      · exact behind?_append ends.colon text tail
    rw [groups, groups, entered]
    cases (if isFirst then some text else behind? ':' text) with
    | none => rfl
    | some inner =>
      have octets : (if more = 0 then none else ipv4? (inner ++ stop :: tail)) =
          (if more = 0 then none else ipv4? inner).map (andThen (stop :: tail)) := by
        split
        · rfl
        · exact ipv4?_append ends.toEndsOctets inner tail
      simp only [Option.map_some, octets]
      cases (if more = 0 then none else ipv4? inner) with
      | some found => rfl
      | none =>
        simp only [Option.map_none, group?_append ends.hexDigit]
        cases group? inner with
        | none => rfl
        | some found => simp only [Option.map_some, andThen, ih]

theorem ipv6?_append (ends : EndsGroups stop) (text tail : List Char) :
    ipv6? (text ++ stop :: tail) = (ipv6? text).map (andThen (stop :: tail)) := by
  rw [ipv6?, ipv6?, groups_append ends]
  simp only
  split
  · rfl
  · split
    · rfl
    · simp only [behind?_append ends.colon, Option.bind_eq_bind, Option.bind_map, Function.comp_def, groups_append ends,
        Option.map_bind]
      congr 1
      funext rest
      congr 1
      funext rest
      split <;> rfl

/-- What a reader leaves of a text is its end. -/
def Leaves (read : List Char → Option (α × List Char)) : Prop :=
  ∀ {text value rest}, read text = some (value, rest) → rest <:+ text

theorem suffix_of_behind? {c : Char} {text rest : List Char} (found : behind? c text = some rest) : rest <:+ text := by
  cases text with
  | nil => cases found
  | cons d inner =>
    rw [behind?] at found
    split at found
    · cases found
      exact List.suffix_cons d rest
    · cases found

theorem leaves_decimal? (limit : Nat) : Leaves (decimal? limit) := by
  intro text value rest read
  rw [decimal?] at read
  split at read
  · cases read
  · cases read
    exact List.drop_suffix _ _

theorem leaves_octet? : Leaves octet? := by
  intro text value rest read
  rw [octet?] at read
  split at read
  · cases read
  · split at read
    · cases read
    · obtain ⟨found, taken, same⟩ := Option.bind_eq_some_iff.mp read
      cases same
      exact leaves_decimal? 256 taken

theorem leaves_group? : Leaves group? := by
  intro text value rest read
  rw [group?] at read
  split at read
  · cases read
  · cases read
    exact List.drop_suffix _ _

theorem leaves_ipv4? : Leaves ipv4? := by
  intro text value rest read
  simp only [ipv4?, Option.bind_eq_bind, Option.bind_eq_some_iff, Option.pure_def, Option.some.injEq] at read
  obtain ⟨first, one, _, point, second, two, _, pointed, third, three, _, ended, fourth, four, same⟩ := read
  cases same
  exact (leaves_octet? four).trans <| (suffix_of_behind? ended).trans <| (leaves_octet? three).trans <|
    (suffix_of_behind? pointed).trans <| (leaves_octet? two).trans <|
    (suffix_of_behind? point).trans (leaves_octet? one)

theorem suffix_groups (isFirst : Bool) (most : Nat) (text : List Char) : (groups isFirst most text).2.2 <:+ text := by
  induction most generalizing isFirst text with
  | zero =>
    unfold groups
    exact List.suffix_refl text
  | succ more ih =>
    rw [groups]
    split
    · exact List.suffix_refl text
    · next inner entered =>
      have within : inner <:+ text := by
        split at entered
        · cases entered
          exact List.suffix_refl text
        · exact suffix_of_behind? entered
      split
      · next address rest octets =>
        split at octets
        · cases octets
        · exact (leaves_ipv4? octets).trans within
      · split
        · exact List.suffix_refl text
        · next value rest read => exact (ih false rest).trans ((leaves_group? read).trans within)

theorem leaves_ipv6? : Leaves ipv6? := by
  intro text value rest read
  rw [ipv6?] at read
  have front := suffix_groups true 8 text
  simp only at read
  split at read
  · cases read
    exact front
  · split at read
    · cases read
    · simp only [Option.bind_eq_bind, Option.bind_eq_some_iff] at read
      obtain ⟨one, colon, two, colons, read⟩ := read
      split at read
      · cases read
        exact (suffix_groups true _ two).trans <| (suffix_of_behind? colons).trans <|
          (suffix_of_behind? colon).trans front
      · cases read

/-- The scope behind an address of groups, which is zero unless one is written there. -/
def zone (text : List Char) : Nat × List Char :=
  ((behind? '%' text).bind (decimal? 4294967296)).getD (0, text)

theorem zone_append (ends : EndsGroups stop) (other : stop ≠ '%') (text tail : List Char) :
    zone (text ++ stop :: tail) = andThen (stop :: tail) (zone text) := by
  rw [zone, zone, behind?_append other, Option.bind_map]
  cases behind? '%' text with
  | none => rfl
  | some digits =>
    simp only [Option.bind_some, Function.comp_apply, decimal?_append ends.digit]
    cases decimal? 4294967296 digits <;> rfl

theorem suffix_zone (text : List Char) : (zone text).2 <:+ text := by
  rw [zone]
  cases marked : behind? '%' text with
  | none => exact List.suffix_refl text
  | some digits =>
    rw [Option.bind_some]
    cases read : decimal? 4294967296 digits with
    | none => exact List.suffix_refl text
    | some found => exact (leaves_decimal? _ read).trans (suffix_of_behind? marked)

/-- An address of groups, its scope and a bracket behind them. -/
def bracketed? (text : List Char) : Option ((UInt16 → SocketAddress) × List Char) := do
  let (address, rest) ← ipv6? text
  return (.v6 address (UInt32.ofNat (zone rest).1), ← behind? ']' (zone rest).2)

theorem behind?_append_of_ne_nil {c : Char} {text : List Char} (nonempty : text ≠ []) (tail : List Char) :
    behind? c (text ++ tail) = (behind? c text).map (· ++ tail) := by
  cases text with
  | nil => exact absurd rfl nonempty
  | cons d rest =>
    rw [List.cons_append, behind?, behind?]
    split <;> rfl

theorem behind?_eq_none {c : Char} {text : List Char} (absent : c ∉ text) : behind? c text = none := by
  cases text with
  | nil => rfl
  | cons d rest =>
    rw [behind?, if_neg]
    rintro rfl
    exact absent List.mem_cons_self

theorem bracketed?_eq_none {text : List Char} (absent : ']' ∉ text) : bracketed? text = none := by
  rw [bracketed?]
  cases read : ipv6? text with
  | none => rfl
  | some found =>
    have within : (zone found.2).2 <:+ text := (suffix_zone found.2).trans (leaves_ipv6? read)
    simp [behind?_eq_none fun member => absent (within.subset member)]

theorem bracketed?_append (text tail : List Char) (absent : ']' ∉ tail) :
    bracketed? (text ++ tail) = (bracketed? text).map (andThen tail) := by
  -- Colons go on in an address of groups, so that it is the bracket and not the colon behind it that ends one.
  by_cases member : ']' ∈ text
  · obtain ⟨body, more, rfl, -⟩ := List.eq_append_cons_of_mem member
    have ends : EndsGroups ']' := { digit := by decide, point := by decide, hexDigit := by decide, colon := by decide }
    rw [List.append_assoc, List.cons_append, bracketed?, bracketed?, ipv6?_append ends, ipv6?_append ends]
    cases ipv6? body with
    | none => rfl
    | some found =>
      simp only [Option.map_some, Option.bind_eq_bind, Option.bind_some, andThen, zone_append ends (by decide)]
      rw [← List.cons_append, ← List.append_assoc, behind?_append_of_ne_nil (by simp)]
      cases behind? ']' ((zone found.2).2 ++ ']' :: more) <;> rfl
  · rw [bracketed?_eq_none member, bracketed?_eq_none]
    · rfl
    · exact fun inside => (List.mem_append.mp inside).elim member absent

def host? : List Char → Option ((UInt16 → SocketAddress) × List Char)
  | '[' :: rest => bracketed? rest
  | text => (ipv4? text).map fun (address, rest) => (.v4 address, rest)

/-- The address that a host writes for any port. -/
def ofHost? (host : String) : Option (UInt16 → SocketAddress) :=
  (host? host.toList).bind fun (make, rest) => if rest.isEmpty then some make else none

theorem read?_eq (text : String) :
    read? text = (host? text.toList).bind fun (make, rest) => (port? rest).map make := by
  rw [read?]
  split
  · next rest begins =>
    rw [begins, host?, bracketed?]
    simp only [Option.bind_eq_bind, Option.pure_def, Option.bind_assoc, Option.bind_some, ← zone.eq_1,
      Option.map_eq_bind, Function.comp_def]
  · next plain =>
    rw [host?]
    · simp only [Option.bind_eq_bind, Option.pure_def, Option.map_eq_bind, Function.comp_def, Option.bind_assoc,
        Option.bind_some]
    · exact plain

theorem host?_append (text tail : List Char) (absent : ']' ∉ tail) :
    host? (text ++ ':' :: tail) = (host? text).map (andThen (':' :: tail)) := by
  have plain (others : ∀ rest, text ≠ '[' :: rest) (longer : ∀ rest, text ++ ':' :: tail ≠ '[' :: rest) :
      host? (text ++ ':' :: tail) = (host? text).map (andThen (':' :: tail)) := by
    have ends : EndsOctets ':' := { digit := by decide, point := by decide }
    rw [host?, host?, ipv4?_append ends]
    · cases ipv4? text <;> rfl
    · exact others
    · exact longer
  cases text with
  | nil => exact plain nofun nofun
  | cons c rest =>
    by_cases opens : c = '['
    · subst opens
      exact bracketed?_append rest _ (by simpa using absent)
    · exact plain (by simpa using opens) (by simpa using opens)

theorem port?_append (text : List Char) (port : UInt16) :
    port? (text ++ ':' :: (toString port).toList) = if text.isEmpty then some port else none := by
  have stops : Text.isDigit ':' = false := by decide
  cases text with
  | nil =>
    have every : (toString port).toList.takeWhile Text.isDigit = (toString port).toList :=
      List.takeWhile_eq_self_iff.mpr fun _ => Text.isDigit_of_mem_toString
    have begun : (toString port).toList.isEmpty = false := by
      rw [List.isEmpty_eq_false_iff]
      simp [show toString port = toString port.toNat from rfl]
    have written : Text.ofDigits (toString port).toList = port.toNat := Text.ofDigits_toString port.toNat
    have small : port.toNat < 65536 := port.toNat_lt
    have read : decimal? 65536 (toString port).toList = some (port.toNat, []) := by
      rw [decimal?, every]
      simp only [begun, written, List.drop_length]
      exact if_neg (by simpa using small)
    simp [port?, behind?, read]
  | cons c rest =>
    rw [List.cons_append, port?, behind?]
    split
    · simp only [Option.bind_eq_bind, Option.bind_some, decimal?_append stops]
      cases decimal? 65536 rest with
      | none => rfl
      | some found => simp [andThen]
    · rfl

/-- A host and a port are an address exactly when the host is one in numeric form. -/
theorem read?_host (host : String) (port : UInt16) :
    read? (host ++ ":" ++ toString port) = (ofHost? host).map (· port) := by
  have absent : ']' ∉ (toString port).toList := fun member =>
    absurd (Text.isDigit_of_mem_toString member) (by decide)
  have text : (host ++ ":" ++ toString port).toList = host.toList ++ ':' :: (toString port).toList := by
    simp
  rw [read?_eq, text, host?_append _ _ absent, ofHost?, Option.bind_map]
  cases host? host.toList with
  | none => rfl
  | some found =>
    simp only [Function.comp_apply, andThen, Option.bind_some, port?_append]
    cases found.2.isEmpty <;> rfl

example : ofHost? "localhost" = none := by decide +kernel

example : (ofHost? "127.0.0.1").map (· 80) = some (.v4 ⟨127, 0, 0, 1⟩ 80) := by decide +kernel

end ModelVault.SocketAddress
