import ModelVault.Service.Plan

/-!
Payloads in pieces: whatever the size of the pieces, they make up the payload again. How many octets the
messages take that bring them, and when all of these are sent.
-/

namespace ModelVault

open Wire (DownloadPart Message)

theorem flatten_splitEvery {α : Type} (width : Nat) (items : List α) :
    (splitEvery width items).flatten = items := by
  fun_induction splitEvery width items with
  | case1 => rfl
  | case2 head tail ih => rw [List.flatten_cons, ih, List.cons_append, List.take_append_drop]

theorem length_le_of_mem_splitEvery {α : Type} {width : Nat} (positive : 0 < width) {items piece : List α}
    (member : piece ∈ splitEvery width items) : piece.length ≤ min width items.length := by
  fun_induction splitEvery width items with
  | case1 => cases member
  | case2 head tail ih =>
    rcases List.mem_cons.mp member with rfl | later
    · simp only [List.length_cons, List.length_take]
      omega
    · have bound := ih later
      simp only [List.length_drop] at bound
      simp only [List.length_cons]
      omega

theorem flatten_chunkPayload (data : Bytes) (size : Nat) : (chunkPayload data size).flatten = data := by
  rw [chunkPayload]
  split
  · next empty => rw [List.isEmpty_iff.mp empty]; rfl
  · exact flatten_splitEvery size data

theorem chunkPayload_ne_nil (data : Bytes) (size : Nat) : chunkPayload data size ≠ [] := by
  intro nothing
  rw [chunkPayload] at nothing
  split at nothing
  · cases nothing
  · next nonempty =>
    have data := flatten_splitEvery size data
    rw [nothing] at data
    exact nonempty (List.isEmpty_iff.mpr data.symm)

theorem length_le_of_mem_chunkPayload {data : Bytes} {size : Nat} (positive : 0 < size) {piece : Bytes}
    (member : piece ∈ chunkPayload data size) : piece.length ≤ min size data.length := by
  rw [chunkPayload] at member
  split at member
  · rw [List.mem_singleton.mp member]
    exact Nat.zero_le _
  · exact length_le_of_mem_splitEvery positive member

theorem exists_longest_piece (data : Bytes) {size : Nat} (positive : 0 < size) :
    ∃ piece ∈ chunkPayload data size, piece.length = min size data.length := by
  cases data with
  | nil => exact ⟨[], List.mem_singleton_self _, (Nat.min_zero size).symm⟩
  | cons head tail =>
    rw [chunkPayload, if_neg (by simp), splitEvery]
    refine ⟨_, List.mem_cons_self .., ?_⟩
    simp only [List.length_cons, List.length_take]
    omega

theorem Wire.Varint.size_le_size {small large : Nat} (below : small ≤ large) : size small ≤ size large := by
  fun_induction size large generalizing small with
  | case1 large short =>
    have single : size small = 1 := by rw [size, if_pos (Nat.lt_of_le_of_lt below short)]
    exact Nat.le_of_eq single
  | case2 large long ih =>
    rw [size]
    split
    · exact Nat.le_add_right 1 _
    · exact Nat.add_le_add_left (ih (Nat.div_le_div_right below)) 1

/-- How many octets a message takes that brings so many octets of data: its key, the length of the data and the
data. Without data, nothing is written. -/
def framed (octets : Nat) : Nat :=
  if octets = 0 then 0 else 1 + Wire.Varint.size octets + octets

theorem framed_le_framed {small large : Nat} (below : small ≤ large) : framed small ≤ framed large := by
  have lengths := Wire.Varint.size_le_size below
  rw [framed, framed]
  split <;> split <;> omega

theorem size_downloadPart (piece : Bytes) : Message.size (DownloadPart.mk piece) = framed piece.length := by
  have key : Wire.Varint.size (8 * 1 + 2) = 1 := by
    rw [Wire.Varint.size, if_pos (by decide)]
  change Wire.recordsSize (Wire.bytesField 1 piece) = _
  rw [Wire.bytesField, framed]
  split
  · next empty =>
    rw [List.isEmpty_iff.mp empty]
    rfl
  · next present =>
    rw [if_neg (by simpa using present), Nat.add_assoc]
    exact congrArg (· + (Wire.Varint.size piece.length + piece.length)) key

/-- All messages fit a limit if the one with the longest piece does. -/
theorem framed_le_iff {data : Bytes} {size : Nat} (positive : 0 < size) (limit : Nat) :
    (∀ piece ∈ chunkPayload data size, Message.size (DownloadPart.mk piece) ≤ limit) ↔
      framed (min size data.length) ≤ limit := by
  simp only [size_downloadPart]
  constructor
  · intro fit
    obtain ⟨longest, member, length⟩ := exists_longest_piece data positive
    exact length ▸ fit longest member
  · intro fits piece member
    exact Nat.le_trans (framed_le_framed (length_le_of_mem_chunkPayload positive member)) fits

theorem exists_long_piece {data : Bytes} {size limit : Nat} (positive : 0 < size)
    (long : ¬framed (min size data.length) ≤ limit) :
    ∃ piece ∈ chunkPayload data size, ¬Message.size (DownloadPart.mk piece) ≤ limit := by
  obtain ⟨longest, member, length⟩ := exists_longest_piece data positive
  exact ⟨longest, member, by rwa [size_downloadPart, length]⟩

theorem sendPieces_fitting {limit : Nat} {pieces : List Bytes}
    (fit : ∀ piece ∈ pieces, Message.size (DownloadPart.mk piece) ≤ limit)
    (counted : ∀ piece ∈ pieces, Message.size (DownloadPart.mk piece) ≤ maxFramedSize) :
    sendPieces limit pieces = (pieces, none) := by
  induction pieces with
  | nil => rfl
  | cons piece rest ih =>
    have first := checkSent_fitting (fit piece (List.mem_cons_self ..)) (counted piece (List.mem_cons_self ..))
    have others := ih (fun other member => fit other (List.mem_cons_of_mem _ member))
      fun other member => counted other (List.mem_cons_of_mem _ member)
    simp only [sendPieces, first, others]

theorem sendPieces_breaking {limit : Nat} {pieces : List Bytes}
    (long : ∃ piece ∈ pieces, ¬(Message.size (DownloadPart.mk piece) ≤ limit ∧
      Message.size (DownloadPart.mk piece) ≤ maxFramedSize)) :
    ∃ sent, ∃ piece ∈ pieces, ∃ status, checkSent limit (Message.size (DownloadPart.mk piece)) = .error status ∧
      sendPieces limit pieces = (sent, some status) := by
  induction pieces with
  | nil => simp at long
  | cons piece rest ih =>
    cases checked : checkSent limit (Message.size (DownloadPart.mk piece)) with
    | error status =>
      refine ⟨[], piece, List.mem_cons_self .., status, checked, ?_⟩
      simp only [sendPieces, checked]
    | ok fits =>
      obtain ⟨other, member, long⟩ := long
      rcases List.mem_cons.mp member with rfl | later
      · refine absurd ?_ long
        unfold checkSent at checked
        split at checked
        · cases checked
        · split at checked
          · cases checked
          · omega
      · obtain ⟨sent, faulty, listed, status, refused, broken⟩ := ih ⟨other, later, long⟩
        refine ⟨piece :: sent, faulty, List.mem_cons_of_mem _ listed, status, refused, ?_⟩
        simp only [sendPieces, checked, broken]

theorem sendPieces_whole {limit : Nat} {pieces sent : List Bytes}
    (done : sendPieces limit pieces = (sent, none)) : sent = pieces := by
  induction pieces generalizing sent with
  | nil => exact (Prod.mk.inj done).1.symm
  | cons piece rest ih =>
    rw [sendPieces] at done
    split at done
    · rcases remaining : sendPieces limit rest with ⟨others, failure⟩
      rw [remaining] at done
      obtain ⟨rfl, rfl⟩ := Prod.mk.inj done
      rw [ih remaining]
    · cases done

end ModelVault
