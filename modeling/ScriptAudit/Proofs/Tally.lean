import Mathlib.Algebra.GroupWithZero.Nat
import Mathlib.Data.Finset.Card
import Mathlib.Data.Finset.Dedup
import Mathlib.Data.List.Flatten
import Mathlib.Data.List.Nodup
import Mathlib.Data.List.Perm.Basic
import ScriptAudit.Proofs.Table
import ScriptAudit.Tally

namespace ScriptAudit

theorem nodup_eraseDups {α : Type} [DecidableEq α] : (items : List α) → items.eraseDups.Nodup
  | [] => by simp
  | first :: rest => by
    have fewer := List.length_filter_le (fun item => !item == first) rest
    have kept := nodup_eraseDups (rest.filter fun item => !item == first)
    rw [List.eraseDups_cons, List.nodup_cons]
    exact ⟨by simp, kept⟩
termination_by items => items.length

theorem length_eq_card_of_nodup {α : Type} [DecidableEq α] {items kept : List α} (distinct : kept.Nodup)
    (same : ∀ item, item ∈ kept ↔ item ∈ items) : kept.length = items.toFinset.card := by
  have covered : kept.toFinset = items.toFinset := by
    ext item
    rw [List.mem_toFinset, List.mem_toFinset, same]
  rw [← covered, List.toFinset_card_of_nodup distinct]

theorem mergeSort_eq_of_perm {α : Type} {ranks : α → α → Bool} {items others : List α}
    (trans : ∀ a b c, ranks a b = true → ranks b c = true → ranks a c = true)
    (total : ∀ a b, (ranks a b || ranks b a) = true)
    (apart : ∀ a ∈ items, ∀ b ∈ items, ranks a b = true → ranks b a = true → a = b) (same : items.Perm others) :
    items.mergeSort ranks = others.mergeSort ranks := by
  have sorted (list : List α) := List.pairwise_mergeSort trans total list
  have arranged : (items.mergeSort ranks).Perm (others.mergeSort ranks) :=
    (List.mergeSort_perm items ranks).trans (same.trans (List.mergeSort_perm others ranks).symm)
  refine arranged.eq_of_pairwise ?_ (sorted items) (sorted others)
  intro a b left right before after
  exact apart a (List.mem_mergeSort.mp left) b (same.mem_iff.mpr (List.mem_mergeSort.mp right)) before after

theorem flatMap_singleton_filter {α κ : Type} (wanted : κ → Bool) (item : α) (keys : List κ) :
    (keys.flatMap fun key => if wanted key then [item] else []) = (keys.filter wanted).map fun _ => item := by
  induction keys with
  | nil => rfl
  | cons key rest ih => cases held : wanted key <;> simp [held, ih]

-- Items of which each has exactly one of the keys are parted by the keys, repeated items included.
theorem flatMap_filter_perm {α κ : Type} {has : κ → α → Bool} {keys : List κ} {items : List α}
    (one : ∀ item ∈ items, ∃ key, keys.filter (has · item) = [key]) :
    (keys.flatMap fun key => items.filter (has key)).Perm items := by
  induction items with
  | nil => simp
  | cons item rest ih =>
    obtain ⟨key, only⟩ := one item List.mem_cons_self
    have once : (keys.flatMap fun key => if has key item then [item] else []) = [item] := by
      rw [flatMap_singleton_filter (has · item), only]
      rfl
    have split (key : κ) : (item :: rest).filter (has key) =
        (if has key item then [item] else []) ++ rest.filter (has key) := by
      cases held : has key item <;> simp [held]
    simp only [split]
    refine (List.flatMap_append_perm keys _ _).symm.trans ?_
    rw [once]
    exact (ih fun other member => one other (List.mem_cons_of_mem _ member)).cons item

theorem sum_map_count {κ : Type} [DecidableEq κ] {keys items : List κ} (distinct : keys.Nodup)
    (covered : ∀ item ∈ items, item ∈ keys) : (keys.map items.count).sum = items.length := by
  have parted : (keys.flatMap fun key => items.filter (· == key)).Perm items := by
    refine flatMap_filter_perm fun item member => ⟨item, ?_⟩
    have once := List.count_eq_one_of_mem distinct (covered item member)
    rw [List.filter_congr fun key _ => Bool.beq_comm, List.filter_beq, once]
    rfl
  rw [← parted.length_eq, List.length_flatMap]
  simp only [List.count, List.countP_eq_length_filter]

-- Counts by key that leave no item out: each is the number of the items with its key, the greatest comes first, and
-- equal counts stand in the order of the keys.
structure Accounts {α κ : Type} [DecidableEq κ] (key : α → κ) (count : α → Nat) (before : κ → κ → Prop)
    (entries : List α) (items : List κ) : Prop where
  counted : ∀ entry ∈ entries, count entry = items.count (key entry)
  positive : ∀ entry ∈ entries, 0 < count entry
  distinct : (entries.map key).Nodup
  ordered : entries.Pairwise fun a b => count b < count a ∨ count a = count b ∧ before (key a) (key b)
  total : (entries.map count).sum = items.length

theorem Accounts.of_counted {α κ : Type} [DecidableEq κ] {key : α → κ} {count : α → Nat}
    {before : κ → κ → Prop} {entries : List α} {items : List κ} (notAfter : κ → κ → Prop)
    (counted : ∀ entry ∈ entries, 0 < count entry ∧ count entry = items.count (key entry))
    (covered : ∀ item ∈ items, item ∈ entries.map key) (distinct : (entries.map key).Nodup)
    (sorted : entries.Pairwise fun a b => count b < count a ∨ count a = count b ∧ notAfter (key a) (key b))
    (strict : ∀ a b, notAfter a b → a ≠ b → before a b) : Accounts key count before entries items where
  counted entry member := (counted entry member).2
  positive entry member := (counted entry member).1
  distinct := distinct
  ordered := by
    refine (sorted.and (List.pairwise_map.mp distinct)).imp ?_
    rintro a b ⟨more | ⟨equal, weak⟩, apart⟩
    · exact .inl more
    · exact .inr ⟨equal, strict _ _ weak apart⟩
  total := by
    rw [← sum_map_count distinct covered, List.map_map]
    exact congrArg List.sum (List.map_congr_left fun entry member => (counted entry member).2)

namespace CountEntry

theorem ranksBefore_iff (a b : CountEntry) :
    a.ranksBefore b = true ↔ b.count < a.count ∨ a.count = b.count ∧ a.name ≤ b.name := by
  simp [ranksBefore]

theorem ranksBefore_trans (a b c : CountEntry) (first : a.ranksBefore b = true) (second : b.ranksBefore c = true) :
    a.ranksBefore c = true := by
  rw [ranksBefore_iff] at first second ⊢
  rcases first with more | ⟨equal, named⟩
  · rcases second with more' | ⟨equal', _⟩
    · exact .inl (Nat.lt_trans more' more)
    · exact .inl (equal' ▸ more)
  · rcases second with more' | ⟨equal', named'⟩
    · exact .inl (equal ▸ more')
    · exact .inr ⟨equal.trans equal', String.le_trans named named'⟩

theorem ranksBefore_total (a b : CountEntry) : (a.ranksBefore b || b.ranksBefore a) = true := by
  rw [Bool.or_eq_true, ranksBefore_iff, ranksBefore_iff]
  rcases Nat.lt_trichotomy a.count b.count with less | equal | more
  · exact .inr (.inl less)
  · rcases String.le_total a.name b.name with named | named
    · exact .inl (.inr ⟨equal, named⟩)
    · exact .inr (.inr ⟨equal.symm, named⟩)
  · exact .inl (.inl more)

theorem ranksBefore_antisymm {a b : CountEntry} (before : a.ranksBefore b = true) (after : b.ranksBefore a = true) :
    a = b := by
  rw [ranksBefore_iff] at before after
  rcases before with more | ⟨equal, named⟩
  · omega
  rcases after with more | ⟨_, named'⟩
  · omega
  have same : a.name = b.name := String.le_antisymm named named'
  cases a
  cases b
  exact congrArg₂ CountEntry.mk same equal

end CountEntry

def entriesOf (names : List String) : List CountEntry :=
  names.eraseDups.map fun name => ⟨name, names.count name⟩

theorem mem_entriesOf {names : List String} {entry : CountEntry} :
    entry ∈ entriesOf names ↔ entry.name ∈ names ∧ entry.count = names.count entry.name := by
  rw [entriesOf, List.mem_map]
  constructor
  · rintro ⟨name, member, rfl⟩
    exact ⟨List.mem_eraseDups.mp member, rfl⟩
  · rintro ⟨member, counted⟩
    refine ⟨entry.name, List.mem_eraseDups.mpr member, ?_⟩
    rw [← counted]

theorem nodup_entriesOf (names : List String) : (entriesOf names).Nodup := by
  refine (nodup_eraseDups names).map ?_
  intro name other equal
  exact congrArg CountEntry.name equal

theorem entriesOf_perm {names others : List String} (same : names.Perm others) :
    (entriesOf names).Perm (entriesOf others) := by
  refine (List.perm_ext_iff_of_nodup (nodup_entriesOf names) (nodup_entriesOf others)).mpr ?_
  intro entry
  rw [mem_entriesOf, mem_entriesOf, same.mem_iff, same.count_eq]

theorem mem_countBy {names : List String} {entry : CountEntry} :
    entry ∈ countBy names ↔ entry.name ∈ names ∧ entry.count = names.count entry.name := by
  rw [← mem_entriesOf]
  exact List.mem_mergeSort

theorem countBy_perm {names others : List String} (same : names.Perm others) : countBy names = countBy others := by
  refine mergeSort_eq_of_perm CountEntry.ranksBefore_trans CountEntry.ranksBefore_total ?_ (entriesOf_perm same)
  intro a _ b _ before after
  exact CountEntry.ranksBefore_antisymm before after

theorem countBy_accounts (names : List String) :
    Accounts CountEntry.name CountEntry.count (· < ·) (countBy names) names := by
  have arranged : ((countBy names).map CountEntry.name).Perm names.eraseDups := by
    refine ((List.mergeSort_perm _ _).map CountEntry.name).trans ?_
    rw [List.map_map]
    exact .of_eq (List.map_id _)
  refine .of_counted (· ≤ ·) ?_ ?_ ?_ ?_ ?_
  · intro entry member
    obtain ⟨named, counted⟩ := mem_countBy.mp member
    exact ⟨counted ▸ List.count_pos_iff.mpr named, counted⟩
  · intro name member
    exact arranged.mem_iff.mpr (List.mem_eraseDups.mpr member)
  · exact arranged.nodup_iff.mpr (nodup_eraseDups names)
  · have sorted := List.pairwise_mergeSort CountEntry.ranksBefore_trans CountEntry.ranksBefore_total (entriesOf names)
    exact sorted.imp fun ranked => (CountEntry.ranksBefore_iff _ _).mp ranked
  · intro a b notAfter apart
    exact String.not_le.mp fun back => apart (String.le_antisymm notAfter back)

-- Every name of the one tally is in the other and counts for no less there.
def CountsWithin (few many : List CountEntry) : Prop :=
  ∀ entry ∈ few, ∃ other ∈ many, other.name = entry.name ∧ entry.count ≤ other.count

theorem countBy_countsWithin {few many : List String} (kept : few.Sublist many) :
    CountsWithin (countBy few) (countBy many) := by
  intro entry counted
  obtain ⟨member, count⟩ := mem_countBy.mp counted
  refine ⟨⟨entry.name, many.count entry.name⟩, mem_countBy.mpr ⟨kept.subset member, rfl⟩, rfl, ?_⟩
  rw [count]
  exact kept.count_le entry.name

def countTable (names : List String) : Table String Nat :=
  names.foldl (fun table name => table.update name 0 (· + 1)) .empty

theorem find?_counted (table : Table String Nat) (names : List String) (name : String) :
    (names.foldl (fun table name => table.update name 0 (· + 1)) table).find? name =
      if name ∈ names then some ((table.find? name).getD 0 + names.count name) else table.find? name := by
  induction names generalizing table with
  | nil => rfl
  | cons counted rest ih =>
    rw [List.foldl_cons, ih]
    by_cases here : name = counted
    · subst here
      by_cases again : name ∈ rest
      · simp [Table.update, again]
        omega
      · simp [Table.update, again, List.count_eq_zero_of_not_mem again]
    · simp [Table.update, here, List.count_cons_of_ne (Ne.symm here)]

theorem lists_entriesOf (names : List String) :
    (countTable names).Lists ((entriesOf names).map fun entry => (entry.name, entry.count)) := by
  refine ⟨?_, ?_⟩
  · intro name count
    have listed : (name, count) ∈ (entriesOf names).map (fun entry => (entry.name, entry.count)) ↔
        (⟨name, count⟩ : CountEntry) ∈ entriesOf names := by
      rw [List.mem_map]
      constructor
      · rintro ⟨entry, member, same⟩
        cases same
        exact member
      · exact fun member => ⟨_, member, rfl⟩
    rw [listed, mem_entriesOf, countTable, find?_counted]
    by_cases named : name ∈ names
    · simpa [named, Table.empty] using eq_comm
    · simp [named, Table.empty]
  · apply (nodup_entriesOf names).map
    intro entry other same
    cases entry
    cases other
    cases same
    rfl

-- However the table of the counts lists its entries, they are sorted into the one tally.
theorem countBy_tabulates (names : List String) :
    Accounts CountEntry.name CountEntry.count (· < ·) (countBy names) names ∧
    (∀ name count, ⟨name, count⟩ ∈ countBy names ↔ name ∈ names ∧ count = names.count name) ∧
    (∀ others, names.Perm others → countBy others = countBy names) ∧
    ∀ listed, (countTable names).Lists listed →
      (listed.map fun entry => CountEntry.mk entry.1 entry.2).mergeSort CountEntry.ranksBefore = countBy names := by
  refine ⟨countBy_accounts names, fun name count => mem_countBy, fun others same => (countBy_perm same).symm, ?_⟩
  intro listed lists
  have arranged : (listed.map fun entry => CountEntry.mk entry.1 entry.2).Perm (entriesOf names) := by
    have same := ((lists_entriesOf names).iff_perm.mp lists).map fun entry => CountEntry.mk entry.1 entry.2
    simpa [Function.comp_def] using same
  refine mergeSort_eq_of_perm CountEntry.ranksBefore_trans CountEntry.ranksBefore_total ?_ arranged
  intro a _ b _ before after
  exact CountEntry.ranksBefore_antisymm before after

theorem countBy_tabulates_letters :
    ["b", "a", "c", "a", "b", "a"].Perm ["a", "a", "a", "b", "b", "c"] ∧
    countBy ["a", "a", "a", "b", "b", "c"] = countBy ["b", "a", "c", "a", "b", "a"] ∧
    (countTable ["b", "a", "c", "a", "b", "a"]).Lists [("c", 1), ("a", 3), ("b", 2)] ∧
    [⟨"c", 1⟩, ⟨"a", 3⟩, ⟨"b", 2⟩].mergeSort CountEntry.ranksBefore = countBy ["b", "a", "c", "a", "b", "a"] := by
  obtain ⟨_, _, rearranged, relisted⟩ := countBy_tabulates ["b", "a", "c", "a", "b", "a"]
  have same : ["b", "a", "c", "a", "b", "a"].Perm ["a", "a", "a", "b", "b", "c"] := by decide
  have lists : (countTable ["b", "a", "c", "a", "b", "a"]).Lists [("c", 1), ("a", 3), ("b", 2)] :=
    (lists_entriesOf _).iff_perm.mpr (by decide +kernel)
  exact ⟨same, rearranged _ same, lists, relisted _ lists⟩

end ScriptAudit
