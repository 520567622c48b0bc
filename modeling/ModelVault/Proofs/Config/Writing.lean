import ModelVault.Config.Setting

/-!
What sources make of one setting. A source that writes into the table of a group leaves its other settings alone,
so that of all values that are given to a setting the last one stays.
-/

namespace ModelVault.Setting

variable {group name : String}

theorem lookup?_put (name other : String) (value : Setting) (members : List (String × Setting)) :
    lookup? name (put other value members) = if other = name then some value else lookup? name members := by
  induction members with
  | nil => rfl
  | cons first rest ih =>
    obtain ⟨key, old⟩ := first
    by_cases here : key = other
    · subst here
      rw [put, if_pos rfl, lookup?, lookup?]
      split <;> rfl
    · rw [put, if_neg here, lookup?, lookup?, ih]
      by_cases same : key = name
      · subst same
        rw [if_pos rfl, if_pos rfl, if_neg (Ne.symm here)]
      · rw [if_neg same, if_neg same]

theorem write_member (tree value : Setting) (first : String) (rest : List SettingStep) :
    tree.write value (.member first :: rest) =
      table (put first ((tree.member first).write value rest) tree.members) := by
  cases rest with
  | nil => rw [write, List.getLast?_singleton]; simp [write, change]
  | cons step rest =>
    rw [write, write, List.getLast?_cons_cons]
    split <;> rw [change]

def at? (group name : String) (tree : Setting) : Option Setting :=
  lookup? name (tree.member group).members

def HasGroup (group : String) (tree : Setting) : Prop :=
  ∃ members, tree.member group = table members

def isTable : Setting → Bool
  | table _ => true
  | _ => false

/-- The value is none for a setting, which is no table and no list. -/
def isCompound : Setting → Bool
  | table _ | list _ => true
  | _ => false

/-- What a value gives to the setting that it is written to. A table is no value for a setting: it is written
member by member into what is there. -/
def plain? (value : Setting) : Option Setting :=
  if value.isTable then none else some value

/-- What the last of some items says that says anything. -/
def lastWord? {α β : Type} (says? : α → Option β) (items : List α) : Option β :=
  items.reverse.findSome? says?

theorem lastWord?_cons {α β : Type} (says? : α → Option β) (item : α) (rest : List α) :
    lastWord? says? (item :: rest) = (lastWord? says? rest).or (says? item) := by
  rw [lastWord?, List.reverse_cons, List.findSome?_append, List.findSome?_singleton]
  rfl

/-- Where at most one item says anything, their order makes no difference. -/
theorem lastWord?_perm {α β : Type} {says? : α → Option β} {items other : List α} (perm : items.Perm other)
    (once : items.Pairwise fun first second => says? first = none ∨ says? second = none) :
    lastWord? says? items = lastWord? says? other := by
  induction perm with
  | nil => rfl
  | cons item _ ih => rw [lastWord?_cons, lastWord?_cons, ih once.of_cons]
  | swap first second rest =>
    obtain ⟨apart, _⟩ := List.pairwise_cons.mp once
    simp only [lastWord?_cons]
    rcases apart first List.mem_cons_self with silent | silent <;> simp [silent]
  | trans perm _ ih next =>
    exact (ih once).trans (next (perm.pairwise once fun silent => silent.symm))

def memberSays? (name : String) (member : String × Setting) : Option Setting :=
  if member.1 = name then member.2.plain? else none

/-- What an entry of a source gives to a setting: by a table for its group, or under its own key. -/
def entrySays? (group name : String) (entry : String × Setting) : Option Setting :=
  match path entry.1 with
  | [.member other] => if other = group then lastWord? (memberSays? name) entry.2.members else none
  | [.member other, .member own] => if other = group then memberSays? name (own, entry.2) else none
  | _ => none

/-- What a source gives to a setting: of several values the last counts. -/
def given? (group name : String) (source : List (String × Setting)) : Option Setting :=
  lastWord? (entrySays? group name) source

/-- An entry whose value is no table gives a setting under one key only. -/
theorem eq_of_entrySays? {entry : String × Setting} (plain : entry.2.isTable = false)
    (spoken : entrySays? group name entry ≠ none) : entry.1 = group ++ "." ++ name := by
  rw [entrySays?] at spoken
  split at spoken
  · cases value : entry.2 with
    | table members => simp [value, isTable] at plain
    | _ => simp [value, members, lastWord?] at spoken
  · next named =>
    split at spoken
    · next here =>
      rw [memberSays?] at spoken
      split at spoken
      · next own => exact here ▸ own ▸ key_of_path named
      · exact absurd rfl spoken
    · exact absurd rfl spoken
  · exact absurd rfl spoken

theorem map_fst_put (key : String) (value : Setting) (members : List (String × Setting)) :
    (put key value members).map (·.1) =
      if key ∈ members.map (·.1) then members.map (·.1) else members.map (·.1) ++ [key] := by
  induction members with
  | nil => rfl
  | cons first rest ih =>
    rw [put]
    split
    · next here => simp [here]
    · next other =>
      rw [List.map_cons, ih, List.map_cons]
      simp only [List.mem_cons, Ne.symm other, false_or]
      split <;> rfl

theorem mem_put {key : String} {value : Setting} {members : List (String × Setting)} {entry : String × Setting}
    (present : entry ∈ put key value members) : entry = (key, value) ∨ entry ∈ members := by
  induction members with
  | nil => exact .inl (List.mem_singleton.mp present)
  | cons first rest ih =>
    rw [put] at present
    split at present
    · exact (List.mem_cons.mp present).imp id (List.mem_cons_of_mem _)
    · rcases List.mem_cons.mp present with rfl | later
      · exact .inr List.mem_cons_self
      · exact (ih later).imp id (List.mem_cons_of_mem _)

theorem nodup_put {key : String} {value : Setting} {members : List (String × Setting)}
    (distinct : (members.map (·.1)).Nodup) : ((put key value members).map (·.1)).Nodup := by
  rw [map_fst_put]
  split
  · exact distinct
  · next fresh =>
    refine List.nodup_append.mpr ⟨distinct, by simp, ?_⟩
    rintro other member _ own rfl
    exact fresh (List.mem_singleton.mp own ▸ member)

/-- No two of the entries that are collected have one key, and all of them are among those that there were. -/
theorem collect_spec (entries : List (String × Setting)) :
    ((collect entries).map (·.1)).Nodup ∧ ∀ entry ∈ collect entries, entry ∈ entries := by
  suffices run : ∀ collected : List (String × Setting), (collected.map (·.1)).Nodup →
      ((entries.foldl (fun collected entry => put entry.1 entry.2 collected) collected).map (·.1)).Nodup ∧
        ∀ entry ∈ entries.foldl (fun collected entry => put entry.1 entry.2 collected) collected,
          entry ∈ collected ∨ entry ∈ entries by
    obtain ⟨distinct, among⟩ := run [] List.nodup_nil
    exact ⟨distinct, fun entry present => (among entry present).resolve_left List.not_mem_nil⟩
  induction entries with
  | nil => exact fun collected distinct => ⟨distinct, fun _ => .inl⟩
  | cons entry rest ih =>
    intro collected distinct
    obtain ⟨distinct, among⟩ := ih (put entry.1 entry.2 collected) (nodup_put distinct)
    refine ⟨distinct, fun other present => ?_⟩
    rcases among other present with put | later
    · rcases mem_put put with rfl | before
      · exact .inr List.mem_cons_self
      · exact .inl before
    · exact .inr (List.mem_cons_of_mem _ later)

/-- The entry puts something else than a table in the place of a group. -/
def displaces (group : String) (entry : String × Setting) : Bool :=
  match path entry.1 with
  | [.member other] => other = group && !entry.2.isTable
  | .member other :: .item _ :: _ => other = group
  | _ => false

/-- What is found of a setting is what was given to it, unless it is no value for a setting. Where nothing was
given, a value may be found that stands for nothing. -/
def Found (found given : Option Setting) : Prop :=
  found = given ∨ found.any isCompound = true ∨ (found = some absent ∧ given = none)

theorem Found.stay {found given : Option Setting} (before : Found found given) {result : Setting}
    (stays : result = found.getD absent ∨ result.isCompound = true) : Found (some result) given := by
  rcases stays with rfl | compound
  · cases found with
    | some old => exact before
    | none =>
      rcases before with rfl | compound | ⟨found, -⟩
      · exact .inr (.inr ⟨rfl, rfl⟩)
      · cases compound
      · cases found
  · exact .inr (.inl compound)

theorem overwrite_of_isTable {value : Setting} (tabular : value.isTable = true) (old : Setting) :
    old.overwrite value = old ∨ (old.overwrite value).isCompound = true := by
  cases value with
  | table members => cases members <;> cases old <;> simp [overwrite, isCompound]
  | _ => cases tabular

theorem overwrite_of_plain {value : Setting} (plain : value.isTable = false) (old : Setting) :
    old.overwrite value = value := by
  cases value with
  | table members => cases plain
  | _ => simp [overwrite]

theorem Found.overwrite {found given : Option Setting} (before : Found found given) (value : Setting) :
    Found (some ((found.getD absent).overwrite value)) (value.plain?.or given) := by
  rw [plain?]
  split
  · next tabular => exact before.stay (overwrite_of_isTable tabular _)
  · next plain => exact .inl (congrArg some (overwrite_of_plain (by simpa using plain) _))

/-- A value that is written below a setting makes no value for a setting of it, if it does anything. -/
theorem write_below (old value : Setting) (step : SettingStep) (rest : List SettingStep) :
    old.write value (step :: rest) = old ∨ (old.write value (step :: rest)).isCompound = true := by
  have changed (update : Setting → Setting) :
      old.change update (step :: rest) = old ∨ (old.change update (step :: rest)).isCompound = true := by
    cases step with
    | member name =>
      rw [change]
      exact .inr rfl
    | item position =>
      rw [change]
      simp only
      split
      · exact .inl rfl
      · exact .inr rfl
  rw [write]
  split
  · exact changed _
  · exact changed _

theorem members_of_isTable {value : Setting} (tabular : value.isTable = true) : ∃ members, value = table members := by
  cases value with
  | table members => exact ⟨members, rfl⟩
  | _ => cases tabular

theorem write_nil (old value : Setting) : old.write value [] = old.overwrite value := by
  rw [write, List.getLast?_nil]
  simp only
  rw [change]

theorem overwrite_table (old members : List (String × Setting)) :
    (table old).overwrite (table members) = table (overwriteMembers old members) := by
  cases members with
  | nil => rw [Setting.overwrite, overwriteMembers]; exact nofun
  | cons first rest => rw [Setting.overwrite, Setting.members]

theorem Found.put {old : List (String × Setting)} {given : Option Setting} (before : Found (lookup? name old) given)
    (member : String × Setting) :
    Found (lookup? name (put member.1 (((lookup? member.1 old).getD absent).overwrite member.2) old))
      ((memberSays? name member).or given) := by
  obtain ⟨other, value⟩ := member
  rw [lookup?_put, memberSays?]
  split
  · next here =>
    cases here
    exact before.overwrite value
  · exact before

theorem Found.overwriteMembers {old : List (String × Setting)} {given : Option Setting}
    (before : Found (lookup? name old) given) (members : List (String × Setting)) :
    Found (lookup? name (overwriteMembers old members)) ((lastWord? (memberSays? name) members).or given) := by
  induction members generalizing old given with
  | nil => rwa [Setting.overwriteMembers]
  | cons member rest ih =>
    rw [Setting.overwriteMembers, lastWord?_cons, Option.or_assoc]
    exact ih (before.put member)

theorem member_put_other {first : String} (other : first ≠ group) (value tree : Setting) :
    (table (put first value tree.members)).member group = tree.member group := by
  rw [member, members, lookup?_put, if_neg other]
  rfl

theorem member_put_self (value tree : Setting) : (table (put group value tree.members)).member group = value := by
  rw [member, members, lookup?_put, if_pos rfl]
  rfl

/-- What an entry makes of a group that is a table, unless it puts something else in its place. -/
theorem found_write {tree : Setting} {entry : String × Setting} {given : Option Setting}
    (grouped : tree.HasGroup group) (keyed : displaces group entry = false)
    (before : Found (tree.at? group name) given) :
    (tree.write entry.2 (path entry.1)).HasGroup group ∧
      Found ((tree.write entry.2 (path entry.1)).at? group name) ((entrySays? group name entry).or given) := by
  obtain ⟨first, rest, named⟩ := exists_path entry.1
  rw [displaces] at keyed
  rw [entrySays?, HasGroup, at?]
  rw [named] at keyed ⊢
  rw [write_member]
  by_cases here : first = group
  · subst here
    obtain ⟨old, tabular⟩ := grouped
    rw [at?, tabular] at before
    rw [member_put_self, tabular]
    -- The path ends at the group, at one of its settings or below one, or it takes the group for a list.
    match rest with
    | [] =>
      simp only [Bool.and_eq_false_imp, decide_eq_true_eq, forall_const, Bool.not_eq_false'] at keyed
      obtain ⟨members, shown⟩ := members_of_isTable keyed
      rw [shown, write_nil]
      simp only [↓reduceIte]
      exact ⟨⟨_, overwrite_table old members⟩, overwrite_table old members ▸ before.overwriteMembers members⟩
    | .item position :: rest => simp at keyed
    | [.member own] =>
      rw [write_member]
      refine ⟨⟨_, rfl⟩, ?_⟩
      simp only [↓reduceIte, write_nil]
      exact before.put (own, entry.2)
    | .member own :: step :: rest =>
      rw [write_member]
      refine ⟨⟨_, rfl⟩, ?_⟩
      simp only
      rw [members, lookup?_put]
      split
      · next same =>
        subst same
        exact before.stay (write_below _ _ _ _)
      · exact before
  · rw [member_put_other here]
    refine ⟨grouped, ?_⟩
    match rest with
    | [] =>
      simp only [here, ↓reduceIte]
      exact before
    | .item position :: rest => exact before
    | [.member own] =>
      simp only [here, ↓reduceIte]
      exact before
    | .member own :: step :: rest => exact before

theorem given?_cons (entry : String × Setting) (rest : List (String × Setting)) :
    given? group name (entry :: rest) = (given? group name rest).or (entrySays? group name entry) :=
  lastWord?_cons _ entry rest

/-- What a source makes of a group that is a table, unless it puts something else in its place. -/
theorem found_writeAll {tree : Setting} {source : List (String × Setting)} {given : Option Setting}
    (grouped : tree.HasGroup group) (keyed : ∀ entry ∈ source, displaces group entry = false)
    (before : Found (tree.at? group name) given) :
    (tree.writeAll source).HasGroup group ∧
      Found ((tree.writeAll source).at? group name) ((given? group name source).or given) := by
  induction source generalizing tree given with
  | nil => exact ⟨grouped, before⟩
  | cons entry rest ih =>
    have ⟨kept, found⟩ := found_write grouped (keyed entry List.mem_cons_self) before
    rw [given?_cons, Option.or_assoc]
    exact ih kept (fun later member => keyed later (List.mem_cons_of_mem entry member)) found

end ModelVault.Setting
