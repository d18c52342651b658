import ScriptAudit.Overview
import ScriptAudit.Proofs.Tally

namespace ScriptAudit

variable {descriptors : List RuleDescriptor} {descriptor : RuleDescriptor}

def LeadsItsId (descriptors : List RuleDescriptor) (descriptor : RuleDescriptor) : Prop :=
  ∃ before later, descriptors = before ++ descriptor :: later ∧ ∀ earlier ∈ before, earlier.id ≠ descriptor.id

theorem leadsItsId_iff : LeadsItsId descriptors descriptor ↔
    descriptors.find? (·.id == descriptor.id) = some descriptor := by
  rw [List.find?_eq_some_iff_append]
  simp [LeadsItsId]

theorem LeadsItsId.unique {other : RuleDescriptor} (first : LeadsItsId descriptors descriptor)
    (second : LeadsItsId descriptors other) (same : descriptor.id = other.id) : descriptor = other := by
  rw [leadsItsId_iff] at first second
  rw [← same, first] at second
  exact Option.some.inj second

theorem mem_firstPerId : descriptor ∈ firstPerId descriptors ↔ LeadsItsId descriptors descriptor := by
  rw [leadsItsId_iff, firstPerId, List.mem_filterMap]
  constructor
  · rintro ⟨id, _, found⟩
    have named : descriptor.id = id := by simpa using List.find?_some found
    rwa [named]
  · intro found
    refine ⟨descriptor.id, ?_, found⟩
    rw [List.mem_eraseDups]
    exact List.mem_map_of_mem (List.mem_of_find?_eq_some found)

theorem ids_firstPerId (descriptors : List RuleDescriptor) :
    (firstPerId descriptors).map (·.id) = (descriptors.map (·.id)).eraseDups := by
  have found : ∀ id ∈ (descriptors.map (·.id)).eraseDups,
      (descriptors.find? (·.id == id)).map (·.id) = some id := by
    intro id listed
    obtain ⟨descriptor, member, named⟩ := List.mem_map.mp (List.mem_eraseDups.mp listed)
    have some : (descriptors.find? (·.id == id)).isSome = true :=
      List.find?_isSome.mpr ⟨descriptor, member, beq_iff_eq.mpr named⟩
    obtain ⟨first, leads⟩ := Option.isSome_iff_exists.mp some
    have named' : first.id = id := by simpa using List.find?_some leads
    rw [leads, Option.map_some, named']
  rw [firstPerId, List.map_filterMap, List.filterMap_congr found, List.filterMap_some]

theorem nodup_ids_firstPerId (descriptors : List RuleDescriptor) : ((firstPerId descriptors).map (·.id)).Nodup := by
  rw [ids_firstPerId]
  exact nodup_eraseDups _

-- Entering descriptor by descriptor, in a table that starts empty. One that finds its id taken changes nothing.
def firstTable (descriptors : List RuleDescriptor) : Table String RuleDescriptor :=
  descriptors.foldl (fun table entered => table.update entered.id entered fun kept => kept) .empty

theorem find?_entered (table : Table String RuleDescriptor) (descriptors : List RuleDescriptor) (id : String) :
    (descriptors.foldl (fun table entered => table.update entered.id entered fun kept => kept) table).find? id =
      (table.find? id).or (descriptors.find? (·.id == id)) := by
  induction descriptors generalizing table with
  | nil => simp
  | cons entered rest ih =>
    rw [List.foldl_cons, ih]
    by_cases here : entered.id = id
    · subst here
      cases held : table.find? entered.id <;> simp [Table.update, held]
    · simp [Table.update, here, Ne.symm here]

theorem lists_firstPerId (descriptors : List RuleDescriptor) :
    (firstTable descriptors).Lists ((firstPerId descriptors).map fun found => (found.id, found)) := by
  constructor
  · intro id descriptor
    have entered : (firstTable descriptors).find? id = descriptors.find? (·.id == id) := find?_entered _ _ _
    rw [entered, List.mem_map]
    constructor
    · rintro ⟨found, member, same⟩
      cases same
      exact leadsItsId_iff.mp (mem_firstPerId.mp member)
    · intro found
      have named : descriptor.id = id := by simpa using List.find?_some found
      subst named
      exact ⟨descriptor, mem_firstPerId.mpr (leadsItsId_iff.mpr found), rfl⟩
  · apply (nodup_ids_firstPerId descriptors).of_map.map
    intro first second same
    exact (Prod.mk.inj same).2

def idBefore (a b : RuleDescriptor) : Bool := decide (a.id ≤ b.id)

theorem idBefore_trans (a b c : RuleDescriptor) (first : idBefore a b = true) (second : idBefore b c = true) :
    idBefore a c = true := by
  simp only [idBefore, decide_eq_true_iff] at first second ⊢
  exact String.le_trans first second

theorem idBefore_total (a b : RuleDescriptor) : (idBefore a b || idBefore b a) = true := by
  simpa [idBefore] using String.le_total a.id b.id

theorem diagnosticsOf_perm (analyzers : List ExternalAnalyzer) :
    (diagnosticsOf analyzers).Perm (firstPerId (analyzers.flatMap (·.supported))) :=
  List.mergeSort_perm _ _

theorem mem_diagnosticsOf {analyzers : List ExternalAnalyzer} :
    descriptor ∈ diagnosticsOf analyzers ↔ LeadsItsId (analyzers.flatMap (·.supported)) descriptor := by
  rw [(diagnosticsOf_perm analyzers).mem_iff, mem_firstPerId]

theorem nodup_ids_diagnosticsOf (analyzers : List ExternalAnalyzer) :
    ((diagnosticsOf analyzers).map (·.id)).Nodup :=
  ((diagnosticsOf_perm analyzers).map _).nodup_iff.mpr (nodup_ids_firstPerId _)

theorem mem_ids_diagnosticsOf {analyzers : List ExternalAnalyzer} {id : String} :
    id ∈ (diagnosticsOf analyzers).map (·.id) ↔ id ∈ (analyzers.flatMap (·.supported)).map (·.id) := by
  rw [((diagnosticsOf_perm analyzers).map _).mem_iff, ids_firstPerId, List.mem_eraseDups]

theorem increasing_diagnosticsOf (analyzers : List ExternalAnalyzer) :
    (diagnosticsOf analyzers).Pairwise fun a b => a.id < b.id := by
  have sorted : (diagnosticsOf analyzers).Pairwise fun a b => idBefore a b = true :=
    List.pairwise_mergeSort idBefore_trans idBefore_total _
  have distinct := List.pairwise_map.mp (nodup_ids_diagnosticsOf analyzers)
  apply (sorted.and distinct).imp
  rintro a b ⟨before, apart⟩
  have notAfter : a.id ≤ b.id := of_decide_eq_true before
  exact String.not_le.mp fun back => apart (String.le_antisymm notAfter back)

-- However the table lists its entries, the sort by id brings them into one order.
theorem mergeSort_listed {analyzers : List ExternalAnalyzer} {listed : List (String × RuleDescriptor)}
    (lists : (firstTable (analyzers.flatMap (·.supported))).Lists listed) :
    (listed.map (·.2)).mergeSort idBefore = diagnosticsOf analyzers := by
  have arranged : (listed.map (·.2)).Perm (firstPerId (analyzers.flatMap (·.supported))) := by
    have same := ((lists_firstPerId _).iff_perm.mp lists).map (·.2)
    simpa [Function.comp_def] using same
  refine mergeSort_eq_of_perm idBefore_trans idBefore_total ?_ arranged
  intro a left b right before after
  have leads (found : RuleDescriptor) (member : found ∈ listed.map (·.2)) :
      LeadsItsId (analyzers.flatMap (·.supported)) found := mem_firstPerId.mp (arranged.mem_iff.mp member)
  have same : a.id = b.id := String.le_antisymm (of_decide_eq_true before) (of_decide_eq_true after)
  exact (leads a left).unique (leads b right) same

-- The analyzers are those that the catalog keeps, or loads if it keeps none.
theorem diagnostics_first_wins (catalog : AnalyzerCatalog) (registry : MigrationRegistry) :
    let analyzers := catalog.getOrLoad.1
    let supported := analyzers.flatMap (·.supported)
    let found := catalog.availableDiagnostics.1
    (found.Pairwise fun a b => a.id < b.id) ∧
    (∀ id, (∃ descriptor ∈ found, descriptor.id = id) ↔
      ∃ analyzer ∈ analyzers, ∃ descriptor ∈ analyzer.supported, descriptor.id = id) ∧
    (∀ descriptor, descriptor ∈ found ↔ LeadsItsId supported descriptor) ∧
    (∀ listed, (firstTable supported).Lists listed →
      (listed.map (·.2)).mergeSort (fun a b => decide (a.id ≤ b.id)) = found) ∧
    (DiagnosticsOverview.collect catalog registry).1.analyzerDiagnostics = found ∧
    (DiagnosticsOverview.collect catalog registry).1.analyzerCount = (supported.map (·.id)).toFinset.card := by
  intro analyzers supported found
  refine ⟨increasing_diagnosticsOf analyzers, ?_, fun descriptor => mem_diagnosticsOf, ?_, rfl, ?_⟩
  · intro id
    have ids : id ∈ found.map (·.id) ↔ id ∈ supported.map (·.id) := mem_ids_diagnosticsOf
    rw [← List.mem_map, ids, List.mem_map]
    constructor
    · rintro ⟨descriptor, member, named⟩
      obtain ⟨analyzer, listed, supports⟩ := List.mem_flatMap.mp member
      exact ⟨analyzer, listed, descriptor, supports, named⟩
    · rintro ⟨analyzer, listed, descriptor, supports, named⟩
      exact ⟨descriptor, List.mem_flatMap.mpr ⟨analyzer, listed, supports⟩, named⟩
  · intro listed lists
    exact mergeSort_listed lists
  · have size : (DiagnosticsOverview.collect catalog registry).1.analyzerCount =
        ((diagnosticsOf analyzers).map (·.id)).length := (List.length_map _).symm
    rw [size]
    exact length_eq_card_of_nodup (nodup_ids_diagnosticsOf analyzers) fun id => mem_ids_diagnosticsOf

def lintAnalyzers : List ExternalAnalyzer :=
  [⟨"Lint", [⟨"UNT0010", "Cast", "", "Style", "Info", none⟩, ⟨"UNT0002", "Tag", "", "Speed", "Info", none⟩,
      ⟨"UNT0010", "Cast twice", "", "Style", "Info", none⟩]⟩,
    ⟨"Lint 2", [⟨"UNT0002", "Tag comparison", "", "Speed", "Error", none⟩]⟩]

theorem diagnostics_first_wins_shared :
    let first := RuleDescriptor.mk "UNT0010" "Cast" "" "Style" "Info" none
    let second := RuleDescriptor.mk "UNT0002" "Tag" "" "Speed" "Info" none
    (firstTable (lintAnalyzers.flatMap (·.supported))).Lists [("UNT0010", first), ("UNT0002", second)] ∧
    [first, second].mergeSort (fun a b => decide (a.id ≤ b.id)) =
      (AnalyzerCatalog.make lintAnalyzers).availableDiagnostics.1 := by
  intro first second
  obtain ⟨_, _, _, sorted, _, _⟩ := diagnostics_first_wins (.make lintAnalyzers) ⟨[]⟩
  have lists : (firstTable (lintAnalyzers.flatMap (·.supported))).Lists
      [("UNT0010", first), ("UNT0002", second)] :=
    (lists_firstPerId _).iff_perm.mpr (by decide +kernel)
  exact ⟨lists, sorted _ lists⟩

end ScriptAudit
