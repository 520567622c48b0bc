import ModelVault.Proofs.Storage.Addressing

/-!
Times and the integers that they become. On the wire and in the tables a time is a count of nanoseconds, and where
the integers can hold the count, nothing is lost on the way there and back; so what is said of a version that is put
into tables is what they say of it later.
-/

namespace ModelVault

namespace Moment

/-- If the product is no more of a hindrance than the sum, all that matters is the sum. -/
private theorem countFrom?_eq {seconds rest : Int}
    (whole : IsInt64 (seconds * nanosPerSecond + rest) → IsInt64 (seconds * nanosPerSecond)) :
    countFrom? seconds rest = int64? (seconds * nanosPerSecond + rest) := by
  rw [countFrom?]
  by_cases inside : IsInt64 (seconds * nanosPerSecond)
  · rw [int64?, if_pos inside, Option.bind_eq_bind, Option.bind_some]
  · rw [int64?, if_neg inside, int64?, if_neg fun sum => inside (whole sum)]
    rfl

/-- No step on the way to a count leaves the signed 64-bit integers when the count does not. -/
theorem countInWords?_eq {moment : Moment} (wellFormed : moment.WellFormed) :
    moment.countInWords? = moment.nanoseconds? := by
  simp only [WellFormed, nanosPerSecond] at wellFormed
  rw [countInWords?]
  split
  · next early =>
    have total : (moment.seconds + 1) * nanosPerSecond + (moment.nanos - nanosPerSecond) = moment.nanoseconds := by
      simp only [nanoseconds, nanosPerSecond]
      omega
    rw [countFrom?_eq, total]
    · rfl
    · -- Only within a leap second can the end of the second be too early, and no minute ends there.
      simp only [IsInt64, nanosPerSecond]
      omega
  · next late =>
    refine countFrom?_eq ?_
    simp only [IsInt64, nanosPerSecond]
    omega

/-- A timestamp goes to a time and back, but for those that the signed integers do not reach. -/
theorem toWire_ofWire (now : Moment) {timestamp : UInt64} (given : 1 ≤ timestamp) :
    ((ofWire now timestamp).toWire.toNat : Int) = min (timestamp.toNat : Int) maxInt64 := by
  have positive : 1 ≤ timestamp.toNat := UInt64.le_iff_toNat_le.mp given
  have present : timestamp ≠ 0 := by
    rintro rfl
    exact absurd positive (by decide)
  have counted := nanoseconds_ofNanoseconds (min (timestamp.toNat : Int) maxInt64)
  have late : 0 ≤ min (timestamp.toNat : Int) maxInt64 := by
    simp only [maxInt64]
    omega
  rw [ofWire, if_neg present, toNat_toWire (by rwa [counted]) (by rw [counted]; exact Int.min_le_right ..), counted]

end Moment

namespace Storage

/-- How a time stands in a column of the tables. -/
structure TimeKept (time : Moment) : Prop where
  /-- It is stored as its count, if a signed 64-bit integer can hold that, -/
  stored : ∀ count, timeColumn time = .ok count ↔ IsInt64 time.nanoseconds ∧ time.nanoseconds = count
  /-- and refused if none can. -/
  refused : ∀ refusal, timeColumn time = .error refusal ↔
    ¬IsInt64 time.nanoseconds ∧ refusal = .fault (.timeOutOfRange time)
  /-- The count can be found without a step outside those integers. -/
  inWords : time.WellFormed → ∀ count, timeColumn time = .ok count ↔ time.countInWords? = some count

theorem timeColumn_eq_ok {time : Moment} {count : Int} :
    timeColumn time = .ok count ↔ time.nanoseconds? = some count := by
  rw [timeColumn]
  cases time.nanoseconds? with
  | none => simp
  | some other => rw [Except.ok.injEq, Option.some.injEq]

theorem timeColumn_eq_error {time : Moment} {refusal : StoreError} :
    timeColumn time = .error refusal ↔ time.nanoseconds? = none ∧ refusal = .fault (.timeOutOfRange time) := by
  rw [timeColumn]
  cases time.nanoseconds? with
  | none => rw [Except.error.injEq, eq_self, true_and, eq_comm]
  | some other => simp

theorem timeKept (time : Moment) : TimeKept time where
  stored count := by rw [timeColumn_eq_ok, Moment.nanoseconds?_eq_some]
  refused refusal := by rw [timeColumn_eq_error, Moment.nanoseconds?_eq_none]
  inWords wellFormed count := by rw [timeColumn_eq_ok, Moment.countInWords?_eq wellFormed]

namespace Store

variable {store : Store} {modelId : String} {number : UInt32} {version : StoredVersion}

/-- Tables keep a version that nothing takes away, also while their store is destroyed and until it is opened anew. -/
theorem Holds.after_tabular {tables : TableStore} (holds : (tabular tables).Holds modelId number version)
    (sound : (tabular tables).Sound) {events : List Event}
    (left : (tabular tables).LeavesAlone modelId number events) :
    ((tabular tables).after events).Holds modelId number version := by
  induction events generalizing tables with
  | nil => exact holds
  | cons event rest ih =>
    obtain ⟨kept, leftRest⟩ := leavesAlone_cons.mp left
    have still : (event.apply (tabular tables)).Holds modelId number version := by
      by_cases final : event = .call .destroy
      · subst final
        exact holds
      · exact (holds_apply_iff sound final).mpr (.inr ⟨holds, kept⟩)
    have stillSound := sound_apply sound event
    obtain ⟨next, same⟩ := apply_tabular tables event
    rw [same] at still stillSound leftRest
    rw [Store.after, List.foldl_cons, same]
    exact ih still stillSound leftRest

/-- All that a store says of a version of this number is this. -/
structure Recalls (store : Store) (modelId : String) (info : VersionInfo) : Prop where
  /-- The version is described by its number, -/
  answered : (store.perform (.versionInfo modelId info.number)).1 = .ok info
  /-- whichever number it is asked for by, -/
  told : ∀ requested other, (store.perform (.versionInfo modelId requested)).1 = .ok other →
    other.number = info.number → other = info
  /-- and in every listing. -/
  listed : ∀ first limit (page : List VersionInfo), (store.perform (.listVersions modelId first limit)).1 = .ok page →
    ∀ other ∈ page, other.number = info.number → other = info

theorem Holds.recalls {info : VersionInfo} {data : Bytes} (holds : store.Holds modelId info.number ⟨info, data⟩)
    (sound : store.Sound) (opened : store.isOpen = true) : store.Recalls modelId info where
  answered := by rw [(perform_held sound opened holds).1]
  told requested other answered same := by
    obtain ⟨-, key, version, means, rfl⟩ := meant_of_info sound (Prod.ext answered rfl)
    have numbered := (means.held.described sound).2.1
    rw [← numbered, same] at means
    rw [means.held.unique holds]
  listed first limit page answered other member same := by
    obtain ⟨model, known, stored⟩ := holds
    have modelSound := sound.model modelId
    rw [model_eq known] at modelSound
    rw [perform_listVersions_known sound opened known] at answered
    cases answered
    have present := (List.mem_filter.mp (List.mem_of_mem_take member)).1
    obtain ⟨version, found, rfl⟩ := modelSound.mem_infos_iff.mp present
    rw [same, stored] at found
    rw [← Option.some.inj found]

/-- What is said of a version that is put into tables has the time that a row can keep, and is said ever after. -/
private theorem recalled_of_put {tables : TableStore} (sound : (tabular tables).Sound) {draft : VersionDraft}
    {info : VersionInfo} {after : Store}
    (put : (tabular tables).perform (.putVersion modelId draft) = (.ok info, after)) :
    info.createdAt = .ofNanoseconds draft.createdAt.nanoseconds ∧
      ∀ future, after.LeavesAlone modelId info.number future → (after.after future).isOpen = true →
        (after.after future).Recalls modelId info := by
  have answered := congrArg Prod.fst put
  have holds := holds_of_put sound answered
  have stillSound := sound_apply sound (.call (.putVersion modelId draft))
  obtain ⟨later, applied⟩ := apply_tabular tables (.call (.putVersion modelId draft))
  simp only [Event.apply, put] at holds stillSound applied
  subst applied
  constructor
  · obtain ⟨time, _, timely, -, rfl⟩ := putVersion_answered sound answered
    obtain ⟨count, counted, rfl⟩ := Option.map_eq_some_iff.mp timely
    obtain ⟨-, rfl⟩ := Moment.nanoseconds?_eq_some.mp counted
    rfl
  · intro future left opened
    exact (holds.after_tabular stillSound left).recalls (sound_after stillSound future) opened

/-- Times and their counts. A timestamp of the wire that stands for a time is its count again, but for saturation, and
every time after the start of 1970 that the signed 64-bit integers reach comes over the wire as it is; tables keep
every count of those integers, and no time that has none. So what is said of a version that is put into tables is
what they say of it later, to the nanosecond, until it is taken away: whatever happens to them in between, and also
if their store is closed then and opened anew. -/
theorem times_exact :
    (∀ (now : Moment) (timestamp : UInt64), 1 ≤ timestamp →
      ((Moment.ofWire now timestamp).toWire.toNat : Int) = min (timestamp.toNat : Int) maxInt64) ∧
    (∀ now time : Moment, time.nanos < nanosPerSecond → 1 ≤ time.nanoseconds → time.nanoseconds ≤ maxInt64 →
      Moment.ofWire now time.toWire = time) ∧
    (∀ count, IsInt64 count → timeColumn (.ofNanoseconds count) = .ok count) ∧
    (∀ time, TimeKept time) ∧
    ∀ past modelId draft info after,
      ((Store.new .duckdb).after past).perform (.putVersion modelId draft) = (.ok info, after) →
        info.createdAt = .ofNanoseconds draft.createdAt.nanoseconds ∧
        ∀ future, after.LeavesAlone modelId info.number future → (after.after future).isOpen = true →
          (after.after future).Recalls modelId info := by
  refine ⟨fun now _ => Moment.toWire_ofWire now, ?_, ?_, timeKept, ?_⟩
  · intro now time within late fits
    rw [Moment.ofWire_toWire now late fits, Moment.ofNanoseconds_nanoseconds within]
  · intro count inside
    rw [timeColumn_eq_ok, Moment.nanoseconds?_eq_some, Moment.nanoseconds_ofNanoseconds]
    exact ⟨inside, rfl⟩
  · intro past modelId draft info after put
    have sound := sound_after (sound_new .duckdb) past
    obtain ⟨tables, same⟩ := Store.after_tabular .empty past
    have start : Store.new .duckdb = tabular .empty := rfl
    rw [start, same] at sound put
    exact recalled_of_put sound put

/-- The first nanosecond that a signed 64-bit integer counts, whose second begins too early to be counted. A version
of that time has it still after its store has been closed and opened anew, and no version can have the time before. -/
theorem times_exact_first_nanosecond :
    let first : Moment := ⟨-9223372037, 145224192⟩
    let last : Moment := ⟨9223372036, 854775807⟩
    let draft : VersionDraft := ⟨0, first, false, "", [7], ∅, by decide⟩
    ((Moment.ofWire first 9223372036854775808).toWire.toNat : Int) = maxInt64 ∧
      Moment.ofWire first last.toWire = last ∧ timeColumn (.ofNanoseconds (-9223372036854775808)) =
        .ok (-9223372036854775808) ∧ Moment.ofNanoseconds (-9223372036854775808) = first ∧
      first.countInWords? = some (-9223372036854775808) ∧
      (∃ refusal, timeColumn ⟨-9223372037, 145224191⟩ = .error refusal) ∧
      ∃ info after, (Store.new .duckdb).perform (.putVersion "m" draft) = (.ok info, after) ∧
        info.createdAt = first ∧ (after.after [.call .destroy, .reopened]).Recalls "m" info := by
  intro first last draft
  obtain ⟨clamped, wired, counted, kept, recalled⟩ := times_exact
  have same : Moment.ofNanoseconds (-9223372036854775808) = first := rfl
  have stored := counted (-9223372036854775808) (by decide)
  have timely : (Store.new .duckdb).kept? draft.createdAt = some first := by decide +kernel
  have accepted : (Store.new .duckdb).Accepts "m" draft.number := .inr ⟨by decide +kernel, .inl rfl⟩
  have put := Prod.ext (perform_putVersion_accepted (sound_new .duckdb) rfl draft accepted timely).1 rfl
  obtain ⟨dated, later⟩ := recalled [] "m" draft _ _ put
  refine ⟨clamped first 9223372036854775808 (by decide), wired first last (by decide) (by decide) (by decide), stored,
    same, ((kept first).inWords (.inl (by decide)) _).mp (same ▸ stored),
    ⟨_, ((kept _).refused _).mpr ⟨by decide, rfl⟩⟩, _, _, put, dated.trans rfl, later _ ?_ rfl⟩
  exact leavesAlone_cons.mpr ⟨nofun, leavesAlone_cons.mpr ⟨nofun, by simp [LeavesAlone]⟩⟩

end Store

end Storage

end ModelVault
