import ScriptAudit.Proofs.Migration.Scan

namespace ScriptAudit

open Text

def MigrationFinding.movedDown (bytes lines : Nat) (finding : MigrationFinding) : MigrationFinding :=
  { finding with offset := finding.offset + bytes, line := .ofNat (finding.line.toNat + lines) }

def MigrationFinding.spot (finding : MigrationFinding) : UInt32 × UInt32 × String :=
  (finding.line, finding.column, finding.codeSnippet)

def bytesBefore (lines : List (List Char)) (number : Nat) : Nat :=
  byteSize ((lines.take number).flatMap (· ++ ['\n']))

variable {file : String} {m : ApiMigration}

theorem movedDown_zero (finding : MigrationFinding) : finding.movedDown 0 0 = finding := by
  rw [MigrationFinding.movedDown, Nat.add_zero, Nat.add_zero, UInt32.ofNat_toNat]

theorem movedDown_movedDown (bytes lines bytes' lines' : Nat) (finding : MigrationFinding) :
    (finding.movedDown bytes lines).movedDown bytes' lines' = finding.movedDown (bytes + bytes') (lines + lines') := by
  have line : UInt32.ofNat ((UInt32.ofNat (finding.line.toNat + lines)).toNat + lines') =
      UInt32.ofNat (finding.line.toNat + (lines + lines')) := by
    rw [UInt32.ofNat_add, UInt32.ofNat_toNat, ← UInt32.ofNat_add, Nat.add_assoc]
  rw [MigrationFinding.movedDown, MigrationFinding.movedDown, MigrationFinding.movedDown, line, Nat.add_assoc]

theorem count_le_byteSize (text : List Char) : text.count '\n' ≤ byteSize text :=
  Nat.le_trans List.count_le_length (length_le_byteSize text)

theorem byteSize_behind (line rest : List Char) :
    byteSize (line ++ '\n' :: rest) = byteSize rest + (byteSize line + 1) := by
  have mark : ('\n' : Char).utf8Size = 1 := rfl
  rw [byteSize_append, byteSize_cons, mark]
  omega

theorem count_behind (text rest : List Char) :
    (text ++ '\n' :: rest).count '\n' = rest.count '\n' + (text.splitOn '\n').length := by
  rw [List.count_append, List.count_cons_self, length_splitOn]
  omega

theorem findingAt_boundary {text before after : List Char} (split : text = before ++ after)
    (few : before.count '\n' < UInt32.size) : findingAt file (.ofText text) m (byteSize before) =
      { migration := m
        file
        line := .ofNat (before.count '\n')
        column := .ofNat (afterLast '\n' before).length
        offset := byteSize before
        codeSnippet := .ofList (trim ((text.splitOn '\n')[before.count '\n']?.getD [])) } := by
  subst split
  rw [findingAt, LineIndex.position_append]
  simp only [UInt32.toNat_ofNat_of_lt' few, LineIndex.trim_lineText]

section

variable {a b : List Char} {offset : Nat}

theorem findingAt_append_left (nonempty : m.term ≠ []) (small : byteSize a < UInt32.size)
    (found : offset ∈ occurrences m.term a) :
    findingAt file (.ofText (a ++ '\n' :: b)) m offset = findingAt file (.ofText a) m offset := by
  obtain ⟨before, after, split, rfl⟩ := exists_append_of_mem_occurrences found nonempty
  have longer : a ++ '\n' :: b = before ++ (m.term ++ after ++ '\n' :: b) := by rw [split, List.append_assoc]
  have lines : before.count '\n' < (a.splitOn '\n').length := by
    rw [length_splitOn, split, List.count_append]
    omega
  have few : before.count '\n' < UInt32.size := by
    have := count_le_byteSize before
    rw [split, byteSize_append] at small
    omega
  rw [findingAt_boundary longer few, findingAt_boundary split few, List.splitOn_append_cons_self,
    List.getElem?_append_left lines]

-- The last line of a text with an occurrence is one of less than the text's bytes, so its number stays a word below.
theorem findingAt_append_right (nonempty : m.term ≠ []) (small : byteSize a + byteSize b < UInt32.size)
    (found : offset ∈ occurrences m.term b) :
    findingAt file (.ofText (a ++ '\n' :: b)) m (offset + (byteSize a + 1)) =
        (findingAt file (.ofText b) m offset).movedDown (byteSize a + 1) (LineIndex.ofText a).lineCount ∧
      (findingAt file (.ofText b) m offset).line.toNat + (LineIndex.ofText a).lineCount < UInt32.size := by
  obtain ⟨before, after, split, rfl⟩ := exists_append_of_mem_occurrences found nonempty
  have longer : a ++ '\n' :: b = (a ++ '\n' :: before) ++ (m.term ++ after) := by
    rw [split, List.append_assoc, List.cons_append]
  have number := count_behind a before
  have place := byteSize_behind a before
  have fits : before.count '\n' + (a.splitOn '\n').length < UInt32.size := by
    have visible := byteSize_pos nonempty
    have above := count_le_byteSize a
    have own := count_le_byteSize before
    rw [split, byteSize_append, byteSize_append] at small
    rw [length_splitOn]
    omega
  have few : before.count '\n' < UInt32.size := by omega
  have line : (UInt32.ofNat (before.count '\n')).toNat = before.count '\n' := UInt32.toNat_ofNat_of_lt' few
  rw [← place, findingAt_boundary longer (number ▸ fits), findingAt_boundary split few, number,
    afterLast_append_cons, List.splitOn_append_cons_self, LineIndex.lineCount_ofText,
    List.getElem?_append_right (Nat.le_add_left _ _), Nat.add_sub_cancel]
  simp only [MigrationFinding.movedDown, line, place]
  exact ⟨trivial, fits⟩

end

theorem scan_append (oneLine : '\n' ∉ m.term) {a b : List Char} (small : byteSize a + byteSize b < UInt32.size) :
    scan file (a ++ '\n' :: b) [m] = scan file a [m] ++
      (scan file b [m]).map (·.movedDown (byteSize a + 1) (LineIndex.ofText a).lineCount) := by
  by_cases empty : m.term = []
  · simp only [scan_of_empty empty, List.map_nil, List.append_nil]
  · simp only [scan_of_nonempty empty, occurrences_append_cons empty oneLine, List.map_append, List.map_map]
    congr 1
    · exact List.map_congr_left fun offset found => findingAt_append_left empty (by omega) found
    · exact List.map_congr_left fun offset found => (findingAt_append_right empty small found).1

theorem line_fits {a b : List Char} (small : byteSize a + byteSize b < UInt32.size) {finding : MigrationFinding}
    (member : finding ∈ scan file b [m]) : finding.line.toNat + (LineIndex.ofText a).lineCount < UInt32.size := by
  rw [scan_singleton] at member
  obtain ⟨nonempty, offset, found, rfl⟩ := mem_scanFor_iff.mp member
  exact (findingAt_append_right nonempty small found).2

theorem bytesBefore_cons (line : List Char) (rest : List (List Char)) (number : Nat) :
    bytesBefore (line :: rest) (number + 1) = bytesBefore rest number + (byteSize line + 1) := by
  rw [bytesBefore, List.take_succ_cons, List.flatMap_cons, List.append_assoc, List.singleton_append, byteSize_behind,
    bytesBefore]

def scanLines (file : String) (m : ApiMigration) (lines : List (List Char)) : List MigrationFinding :=
  lines.zipIdx.flatMap fun numbered =>
    (scan file numbered.1 [m]).map (·.movedDown (bytesBefore lines numbered.2) numbered.2)

theorem scanLines_cons (line : List Char) (rest : List (List Char)) : scanLines file m (line :: rest) =
    scan file line [m] ++ (scanLines file m rest).map (·.movedDown (byteSize line + 1) 1) := by
  have own : (scan file line [m]).map (·.movedDown (bytesBefore (line :: rest) 0) 0) = scan file line [m] :=
    (List.map_congr_left fun finding _ => movedDown_zero finding).trans (List.map_id _)
  rw [scanLines, List.zipIdx_cons, List.flatMap_cons, own, Nat.zero_add, List.zipIdx_succ, List.flatMap_map, scanLines,
    List.map_flatMap]
  simp only [bytesBefore_cons, List.map_map, Function.comp_def, movedDown_movedDown]

theorem scan_intercalate (oneLine : '\n' ∉ m.term) {lines : List (List Char)} (nonempty : lines ≠ [])
    (bare : ∀ line ∈ lines, '\n' ∉ line) (small : byteSize (['\n'].intercalate lines) < UInt32.size) :
    scan file (['\n'].intercalate lines) [m] = scanLines file m lines := by
  induction lines with
  | nil => exact absurd rfl nonempty
  | cons line rest ih =>
    obtain ⟨first, bare⟩ := List.forall_mem_cons.mp bare
    rw [scanLines_cons]
    cases rest with
    | nil => rw [List.intercalate_singleton, scanLines, List.zipIdx_nil, List.flatMap_nil, List.map_nil, List.append_nil]
    | cons next later =>
      have cut : ['\n'].intercalate (line :: next :: later) = line ++ '\n' :: ['\n'].intercalate (next :: later) := by
        rw [List.intercalate_cons_cons]
        simp
      have single : (LineIndex.ofText line).lineCount = 1 := by
        rw [LineIndex.lineCount_ofText, List.splitOn_eq_singleton first]
        rfl
      rw [cut, byteSize_append, byteSize_cons] at small
      rw [cut, scan_append oneLine (by omega), single, ih (by simp) bare (by omega)]

theorem scan_eq_scanLines (oneLine : '\n' ∉ m.term) {text : List Char} (small : byteSize text < UInt32.size) :
    scan file text [m] = scanLines file m (text.splitOn '\n') := by
  have together : ['\n'].intercalate (text.splitOn '\n') = text := List.intercalate_splitOn '\n'
  have bare : ∀ line ∈ text.splitOn '\n', '\n' ∉ line := fun line member => not_mem_of_mem_splitOn member
  rw [← scan_intercalate oneLine (List.splitOn_ne_nil _ _) bare (together.symm ▸ small), together]

theorem line_of_bare {line : List Char} (bare : '\n' ∉ line) {finding : MigrationFinding}
    (member : finding ∈ scan file line [m]) : finding.line = 0 := by
  obtain ⟨m, _, before, after, split, rfl⟩ := exists_of_mem_scan member
  have first : before.count '\n' = 0 := by
    refine List.count_eq_zero_of_not_mem fun inside => bare ?_
    rw [split]
    exact List.mem_append_left _ inside
  have few : before.count '\n' < UInt32.size := by
    rw [first]
    decide
  rw [findingAt_boundary split few, first]
  rfl

def spotsOff (number : Nat) (findings : List MigrationFinding) : List (UInt32 × UInt32 × String) :=
  (findings.filter fun finding => finding.line.toNat ≠ number).map MigrationFinding.spot

theorem spotsOff_line {line : List Char} {place : Nat} (bare : '\n' ∉ line) (fits : place < UInt32.size)
    (number bytes : Nat) : spotsOff number ((scan file line [m]).map (·.movedDown bytes place)) =
      if place = number then [] else (scan file line [m]).map fun finding =>
        (.ofNat place, finding.column, finding.codeSnippet) := by
  have first (finding : MigrationFinding) (member : finding ∈ scan file line [m]) :
      finding.line.toNat + place = place := by
    rw [line_of_bare bare member]
    exact Nat.zero_add place
  have here (finding : MigrationFinding) (member : finding ∈ scan file line [m]) :
      (finding.movedDown bytes place).line.toNat = place := by
    rw [MigrationFinding.movedDown, first finding member]
    exact UInt32.toNat_ofNat_of_lt' fits
  rw [spotsOff, List.filter_map, List.map_map]
  split
  next same =>
    have none_left : (scan file line [m]).filter ((fun finding => decide (finding.line.toNat ≠ number)) ∘
        (·.movedDown bytes place)) = [] :=
      List.filter_eq_nil_iff.mpr fun finding member => by simp [here finding member, ← same]
    rw [none_left, List.map_nil]
  next apart =>
    have all_left : (scan file line [m]).filter ((fun finding => decide (finding.line.toNat ≠ number)) ∘
        (·.movedDown bytes place)) = scan file line [m] :=
      List.filter_eq_self.mpr fun finding member => by simp [here finding member, apart]
    rw [all_left]
    refine List.map_congr_left fun finding member => ?_
    simp only [Function.comp_apply, MigrationFinding.spot, MigrationFinding.movedDown, first finding member]

theorem flatMap_zipIdx_set {α β : Type} {view : α × Nat → List β} (number start : Nat) (items : List α) (item : α)
    (silent : ∀ other, view (other, start + number) = []) :
    ((items.set number item).zipIdx start).flatMap view = (items.zipIdx start).flatMap view := by
  induction items generalizing number start with
  | nil => rfl
  | cons first rest ih =>
    cases number with
    | zero =>
      have own := silent item
      have others := silent first
      rw [Nat.add_zero] at own others
      rw [List.set_cons_zero, List.zipIdx_cons, List.zipIdx_cons, List.flatMap_cons, List.flatMap_cons, own, others]
    | succ number =>
      have later : ∀ other, view (other, start + 1 + number) = [] := by
        intro other
        rw [Nat.add_assoc, Nat.add_comm 1]
        exact silent other
      rw [List.set_cons_succ, List.zipIdx_cons, List.zipIdx_cons, List.flatMap_cons, List.flatMap_cons,
        ih number (start + 1) later]

theorem spotsOff_scanLines {lines : List (List Char)} (bare : ∀ line ∈ lines, '\n' ∉ line)
    (fits : lines.length ≤ UInt32.size) (number : Nat) : spotsOff number (scanLines file m lines) =
      lines.zipIdx.flatMap fun numbered =>
        if numbered.2 = number then [] else (scan file numbered.1 [m]).map fun finding =>
          (.ofNat numbered.2, finding.column, finding.codeSnippet) := by
  rw [spotsOff, scanLines, List.filter_flatMap, List.map_flatMap]
  refine List.flatMap_congr fun numbered member => ?_
  have listed := bare numbered.1 (List.fst_mem_of_mem_zipIdx member)
  have placed := List.snd_lt_of_mem_zipIdx member
  exact spotsOff_line listed (by omega) number _

theorem spotsOff_edit (oneLine : '\n' ∉ m.term) {text edited line : List Char} {number : Nat} (bare : '\n' ∉ line)
    (edit : edited = ['\n'].intercalate ((text.splitOn '\n').set number line)) (small : byteSize text < UInt32.size)
    (small' : byteSize edited < UInt32.size) :
    spotsOff number (scan file edited [m]) = spotsOff number (scan file text [m]) := by
  have bareLines : ∀ part ∈ text.splitOn '\n', '\n' ∉ part := fun part member => not_mem_of_mem_splitOn member
  have bareEdited : ∀ part ∈ (text.splitOn '\n').set number line, '\n' ∉ part := by
    intro part member
    rcases List.mem_or_eq_of_mem_set member with old | rfl
    · exact bareLines part old
    · exact bare
  have fits : (text.splitOn '\n').length ≤ UInt32.size := by
    have := count_le_byteSize text
    rw [length_splitOn]
    omega
  have nonempty : (text.splitOn '\n').set number line ≠ [] := by simp [List.splitOn_ne_nil]
  rw [edit] at small' ⊢
  rw [scan_intercalate oneLine nonempty bareEdited small', scan_eq_scanLines oneLine small,
    spotsOff_scanLines bareEdited (by rwa [List.length_set]), spotsOff_scanLines bareLines fits]
  exact flatMap_zipIdx_set number 0 _ _ fun other => by simp

theorem scan_by_lines (file : String) (m : ApiMigration) (oneLine : '\n' ∉ m.term) :
    (∀ a b, byteSize a + byteSize b < UInt32.size →
      scan file (a ++ '\n' :: b) [m] = scan file a [m] ++
          (scan file b [m]).map (·.movedDown (byteSize a + 1) (LineIndex.ofText a).lineCount) ∧
        ∀ finding ∈ scan file b [m],
          (finding.movedDown (byteSize a + 1) (LineIndex.ofText a).lineCount).line.toNat =
            finding.line.toNat + (LineIndex.ofText a).lineCount) ∧
    (∀ text, byteSize text < UInt32.size → scan file text [m] = scanLines file m (text.splitOn '\n')) ∧
    ∀ text edited line number, '\n' ∉ line → edited = ['\n'].intercalate ((text.splitOn '\n').set number line) →
      byteSize text < UInt32.size → byteSize edited < UInt32.size →
        spotsOff number (scan file edited [m]) = spotsOff number (scan file text [m]) := by
  refine ⟨?_, ?_, ?_⟩
  · intro a b small
    refine ⟨scan_append oneLine small, fun finding member => ?_⟩
    exact UInt32.toNat_ofNat_of_lt' (line_fits small member)
  · intro text small
    exact scan_eq_scanLines oneLine small
  · intro text edited line number bare edit small small'
    exact spotsOff_edit oneLine bare edit small small'

def firstLine : List Char := "é Physics.IgnoreCollision \r".toList

def secondLine : List Char := "\tPhysics.IgnoreCollision x".toList

def bothLines : List Char := firstLine ++ '\n' :: secondLine

theorem scan_by_lines_spaced :
    '\n' ∉ spacedCall.term ∧
    (byteSize firstLine + byteSize secondLine < UInt32.size ∧
      scan "A.cs" bothLines [spacedCall] =
        [⟨spacedCall, "A.cs", 0, 2, 3, "é Physics.IgnoreCollision"⟩,
          ⟨spacedCall, "A.cs", 1, 1, 30, "Physics.IgnoreCollision x"⟩] ∧
      scan "A.cs" bothLines [spacedCall] = scan "A.cs" firstLine [spacedCall] ++
        (scan "A.cs" secondLine [spacedCall]).map
          (·.movedDown (byteSize firstLine + 1) (LineIndex.ofText firstLine).lineCount)) ∧
    (byteSize bothLines < UInt32.size ∧
      scan "A.cs" bothLines [spacedCall] = scanLines "A.cs" spacedCall (bothLines.splitOn '\n')) ∧
    ('\n' ∉ ['x'] ∧ 'x' :: '\n' :: secondLine = ['\n'].intercalate ((bothLines.splitOn '\n').set 0 ['x']) ∧
      spotsOff 0 (scan "A.cs" ('x' :: '\n' :: secondLine) [spacedCall]) =
        spotsOff 0 (scan "A.cs" bothLines [spacedCall])) := by
  have oneLine : '\n' ∉ spacedCall.term := by decide +kernel
  obtain ⟨joined, byLine, edit⟩ := scan_by_lines "A.cs" spacedCall oneLine
  have together : byteSize firstLine + byteSize secondLine < UInt32.size := by decide +kernel
  have small : byteSize bothLines < UInt32.size := by decide +kernel
  have edited : 'x' :: '\n' :: secondLine = ['\n'].intercalate ((bothLines.splitOn '\n').set 0 ['x']) := by
    decide +kernel
  exact ⟨oneLine, ⟨together, by decide +kernel, (joined _ _ together).1⟩, ⟨small, byLine _ small⟩, by decide, edited,
    edit _ _ _ 0 (by decide) edited small (by decide +kernel)⟩

end ScriptAudit
