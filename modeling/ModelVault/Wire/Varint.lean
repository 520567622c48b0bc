import ModelVault.Bytes

/-!
Variable-length integers: seven bits an octet, the lowest first, and the high bit set on all octets
but the last.
-/

namespace ModelVault.Wire.Varint

def write (number : Nat) : Bytes :=
  if number < 128 then [UInt8.ofNat number]
  else UInt8.ofNat (number % 128 + 128) :: write (number / 128)

/-- How many octets a number takes. -/
def size (number : Nat) : Nat :=
  if number < 128 then 1 else 1 + size (number / 128)

/-- A number of at most `bound` octets and what follows it. -/
def readWithin : Nat → Bytes → Option (Nat × Bytes)
  | 0, _ => none
  | _ + 1, [] => none
  | bound + 1, octet :: rest =>
    if octet < 128 then some (octet.toNat, rest)
    else (readWithin bound rest).map fun (high, rest) => (octet.toNat - 128 + 128 * high, rest)

/-- An unsigned 64-bit number of at most ten octets and what follows it. -/
def read (bytes : Bytes) : Option (Nat × Bytes) :=
  match readWithin 10 bytes with
  | some (number, rest) => if number < UInt64.size then some (number, rest) else none
  | none => none

/-- The numbers written one behind the other until the octets end. -/
def readAll (bytes : Bytes) : Option (List Nat) :=
  go bytes.length bytes
where
  /-- Each number takes at least one octet, so the length bounds their count. -/
  go : Nat → Bytes → Option (List Nat)
    | _, [] => some []
    | 0, _ :: _ => none
    | bound + 1, octet :: rest =>
      match read (octet :: rest) with
      | some (number, rest) => (go bound rest).map (number :: ·)
      | none => none

theorem length_write (number : Nat) : (write number).length = size number := by
  fun_induction write number with
  | case1 number small => simp [size, small]
  | case2 number large ih =>
    rw [size, if_neg large, List.length_cons, ih, Nat.add_comm]

end ModelVault.Wire.Varint
