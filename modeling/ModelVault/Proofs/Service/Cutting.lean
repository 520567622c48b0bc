import ModelVault.Proofs.Service.Pieces

/-!
How payloads are divided: into how many pieces, how long each of them is, and where each begins and ends. The
places are machine words, and no sum of two of them leaves their range as long as the payload has no more octets
than a signed word counts.
-/

namespace ModelVault

section Splitting

variable {α : Type} {width : Nat}

/-- A width of zero acts as one. -/
theorem splitEvery_max (width : Nat) (items : List α) : splitEvery (max width 1) items = splitEvery width items := by
  have same : max width 1 - 1 = width - 1 := by omega
  fun_induction splitEvery width items with
  | case1 => rw [splitEvery]
  | case2 head tail ih => rw [splitEvery, same, ih]

theorem splitEvery_cons (positive : 0 < width) (head : α) (tail : List α) :
    splitEvery width (head :: tail) =
      (head :: tail).take width :: splitEvery width ((head :: tail).drop width) := by
  rw [splitEvery, List.drop_cons positive, List.take_cons positive]

/-- All pieces but the last are as long as the width, and the last has at least one item. -/
theorem splitEvery_shape (positive : 0 < width) {items : List α} (present : items ≠ []) :
    ∃ front last, splitEvery width items = front ++ [last] ∧ (∀ piece ∈ front, piece.length = width) ∧
      1 ≤ last.length ∧ last.length ≤ width := by
  induction items using splitEvery.induct width with
  | case1 => exact absurd rfl present
  | case2 head tail ih =>
    rw [← List.drop_cons positive (a := head)] at ih
    rw [splitEvery_cons positive]
    have counted : (head :: tail).length = tail.length + 1 := rfl
    by_cases finished : (head :: tail).drop width = []
    · refine ⟨[], (head :: tail).take width, by rw [finished, splitEvery]; rfl, nofun, ?_⟩
      rw [List.length_take]
      omega
    · obtain ⟨front, last, divided, full, bounds⟩ := ih finished
      have more : width < (head :: tail).length := by simpa using finished
      refine ⟨(head :: tail).take width :: front, last, by rw [divided]; rfl, ?_, bounds⟩
      intro piece member
      rcases List.mem_cons.mp member with rfl | later
      · rw [List.length_take]
        omega
      · exact full piece later

theorem cutPlaces_succ (positive : 0 < width) (length : Nat) :
    cutPlaces width (length + 1) = 0 :: (cutPlaces width (length + 1 - width)).map (width + ·) := by
  have count : (length + 1 + (width - 1)) / width = (length + 1 - width + (width - 1)) / width + 1 := by
    rw [← Nat.add_div_right _ positive]
    by_cases short : length + 1 ≤ width
    · have once : (length + 1 + (width - 1)) / width = 1 := Nat.div_eq_of_lt_le (by omega) (by omega)
      rw [once, Nat.sub_eq_zero_of_le short]
      exact (Nat.div_eq_of_lt_le (by omega) (by omega)).symm
    · congr 1
      omega
  rw [cutPlaces, cutPlaces, count, List.range'_succ, List.map_add_range', Nat.add_comm]

/-- Every piece is what lies between its place and the next one. -/
theorem splitEvery_eq_map (positive : 0 < width) (items : List α) :
    splitEvery width items = (cutPlaces width items.length).map fun place => (items.drop place).take width := by
  induction items using splitEvery.induct width with
  | case1 =>
    have none : (width - 1) / width = 0 := Nat.div_eq_of_lt (by omega)
    simp [splitEvery, cutPlaces, none]
  | case2 head tail ih =>
    rw [← List.drop_cons positive (a := head), List.length_drop] at ih
    rw [splitEvery_cons positive, ih, List.length_cons, cutPlaces_succ positive, List.map_cons, List.map_map,
      List.drop_zero]
    congr 1
    refine List.map_congr_left fun place _ => ?_
    rw [List.drop_drop, Function.comp_apply]

/-- A piece begins at one of the items: at the first, or behind at least one whole piece. -/
theorem lt_of_mem_cutPlaces (positive : 0 < width) {length place : Nat} (member : place ∈ cutPlaces width length) :
    place < length ∧ (place = 0 ∨ width ≤ place) := by
  obtain ⟨index, below, rfl⟩ := List.mem_range'.mp member
  have bound : width * (index + 1) ≤ length + (width - 1) :=
    Nat.le_trans (Nat.mul_le_mul_left width below) (Nat.mul_div_le _ _)
  rw [Nat.mul_add, Nat.mul_one] at bound
  refine ⟨by omega, ?_⟩
  cases index with
  | zero => exact .inl (by omega)
  | succ index => exact .inr (by rw [Nat.mul_add, Nat.mul_one]; omega)

end Splitting

/-- Only the first place can be less than the width, so that no sum of both leaves the range of words, although
each of them may be anywhere in it. -/
private theorem cut_eq {data : Bytes} {width : UInt64} (positive : 0 < width.toNat) (addressable : data.Addressable)
    {place : Nat} (member : place ∈ cutPlaces width.toNat data.length) :
    (do let stop ← Word.sum? (.ofNat place) width
        slice? data (.ofNat place) (min stop (.ofNat data.length))) =
      some ((data.drop place).take width.toNat) := by
  obtain ⟨inside, first⟩ := lt_of_mem_cutPlaces positive member
  have counted : data.length ≤ 9223372036854775807 := Int.ofNat_le.mp addressable
  have words : UInt64.size = 18446744073709551616 := rfl
  have bounded := width.toNat_lt
  have placed : (UInt64.ofNat place).toNat = place := UInt64.toNat_ofNat_of_lt' (by omega)
  have ended : (UInt64.ofNat data.length).toNat = data.length := UInt64.toNat_ofNat_of_lt' (by omega)
  have sum : place + width.toNat < UInt64.size := by omega
  have stop : (min (.ofNat (place + width.toNat)) (.ofNat data.length) : UInt64).toNat =
      min (place + width.toNat) data.length := by
    rw [Word.toNat_min, UInt64.toNat_ofNat_of_lt' sum, ended]
  have inOrder : UInt64.ofNat place ≤ min (.ofNat (place + width.toNat)) (.ofNat data.length) := by
    rw [UInt64.le_iff_toNat_le, placed, stop]
    omega
  rw [Word.sum?_eq (by rwa [placed]), placed, Option.bind_eq_bind, Option.bind_some, slice?,
    if_pos ⟨inOrder, by rw [stop]; omega⟩, stop, placed]
  by_cases short : place + width.toNat ≤ data.length
  · rw [Nat.min_eq_left short, Nat.add_sub_cancel_left]
  · have rest : (data.drop place).length = data.length - place := List.length_drop
    rw [Nat.min_eq_right (by omega), List.take_of_length_le (by omega), List.take_of_length_le (by omega)]

private theorem mapM_of_forall {α β : Type} {items : List α} {cut? : α → Option β} {cut : α → β}
    (made : ∀ item ∈ items, cut? item = some (cut item)) : items.mapM cut? = some (items.map cut) := by
  induction items with
  | nil => rfl
  | cons item rest ih =>
    rw [List.mapM_cons, made item (List.mem_cons_self ..),
      ih fun other member => made other (List.mem_cons_of_mem _ member)]
    rfl

/-- No sum of places leaves the range of machine words, and every piece lies within the payload. -/
theorem cutInWords?_eq {data : Bytes} (size : UInt64) (addressable : data.Addressable) :
    cutInWords? data size = some (chunkPayload data size.toNat) := by
  have width : (max size 1).toNat = max size.toNat 1 := Word.toNat_max size 1
  have positive : 0 < (max size 1).toNat := by omega
  rw [cutInWords?, chunkPayload]
  split
  · rfl
  · rw [← splitEvery_max, ← width, splitEvery_eq_map positive]
    exact mapM_of_forall fun place member => cut_eq positive addressable member

/-- What pieces of a size make of a payload. -/
structure Divided (data : Bytes) (size : Nat) (pieces : List Bytes) : Prop where
  whole : pieces.flatten = data
  /-- All but the last have the size, and the last has at least one octet; -/
  shape : data ≠ [] → ∃ front last, pieces = front ++ [last] ∧ (∀ piece ∈ front, piece.length = size) ∧
    1 ≤ last.length ∧ last.length ≤ size
  /-- there are as many as the length by the size, rounded up, -/
  count : data ≠ [] → pieces.length = (data.length + (size - 1)) / size
  /-- but without any data there is one empty piece. -/
  empty : data = [] → pieces = [[]]

/-- Whatever the payload and the size, of which zero acts as one: how the payload is divided, and that machine
words suffice to do so. -/
theorem chunkPayload_divided (data : Bytes) (size : UInt64) :
    Divided data (max size.toNat 1) (chunkPayload data size.toNat) ∧
      (data.Addressable → cutInWords? data size = some (chunkPayload data size.toNat)) := by
  have positive : 0 < max size.toNat 1 := by omega
  have divided (present : data ≠ []) : chunkPayload data size.toNat = splitEvery (max size.toNat 1) data := by
    rw [chunkPayload, if_neg (by simpa using present), splitEvery_max]
  refine ⟨⟨flatten_chunkPayload .., fun present => ?_, fun present => ?_, fun absent => by rw [absent]; rfl⟩,
    cutInWords?_eq size⟩
  · rw [divided present]
    exact splitEvery_shape positive present
  · rw [divided present, splitEvery_eq_map positive, List.length_map, cutPlaces, List.length_range']

/-- Ten octets in pieces of four are cut at three places, and the last piece is short; a size that is the largest
word leaves them in one piece. -/
theorem chunkPayload_divided_ten_octets :
    let data : Bytes := [48, 49, 50, 51, 52, 53, 54, 55, 56, 57]
    data.Addressable ∧ cutInWords? data 4 = some [[48, 49, 50, 51], [52, 53, 54, 55], [56, 57]] ∧
      cutInWords? data 18446744073709551615 = some [data] := by
  intro data
  have addressable : data.Addressable := by decide
  refine ⟨addressable, ?_, ?_⟩
  · rw [(chunkPayload_divided data 4).2 addressable]
    decide +kernel
  · rw [(chunkPayload_divided data 18446744073709551615).2 addressable]
    decide +kernel

end ModelVault
