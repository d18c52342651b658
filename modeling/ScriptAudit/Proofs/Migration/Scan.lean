import ScriptAudit.Migration.Scan
import ScriptAudit.Proofs.Text.Occurrence
import ScriptAudit.Proofs.Text.Position

namespace ScriptAudit

open Text

variable {file : String} {text : List Char} {rules : List ApiMigration} {m : ApiMigration}
  {finding : MigrationFinding}

theorem mem_scanFor_iff {index : LineIndex} : finding ∈ scanFor file index m ↔
    m.term ≠ [] ∧ ∃ offset ∈ occurrences m.term index.text, findingAt file index m offset = finding := by
  rw [scanFor]
  split
  next empty => simp [List.isEmpty_iff.mp empty]
  next nonempty =>
    rw [List.mem_map, and_iff_right]
    simpa using nonempty

theorem exists_of_mem_scan (member : finding ∈ scan file text rules) : ∃ m ∈ rules, ∃ before after,
    text = before ++ (m.term ++ after) ∧ findingAt file (.ofText text) m (byteSize before) = finding := by
  obtain ⟨m, listed, found⟩ := List.mem_flatMap.mp member
  obtain ⟨nonempty, offset, occurs, rfl⟩ := mem_scanFor_iff.mp found
  obtain ⟨before, after, split, rfl⟩ := exists_append_of_mem_occurrences occurs nonempty
  exact ⟨m, listed, before, after, split, rfl⟩

theorem migration_of_mem_scanFor {index : LineIndex} (found : finding ∈ scanFor file index m) :
    finding.migration = m := by
  obtain ⟨_, offset, _, rfl⟩ := mem_scanFor_iff.mp found
  rfl

theorem file_of_mem_scan (member : finding ∈ scan file text rules) : finding.file = file := by
  obtain ⟨m, _, before, after, _, rfl⟩ := exists_of_mem_scan member
  rfl

-- Leaving a migration out before the scan is leaving its findings out afterwards.
theorem scan_filter (keeps : ApiMigration → Bool) (file : String) (text : List Char) (rules : List ApiMigration) :
    scan file text (rules.filter keeps) = (scan file text rules).filter fun finding => keeps finding.migration := by
  rw [scan, scan]
  induction rules with
  | nil => rfl
  | cons m rest ih =>
    have own (finding : MigrationFinding) (found : finding ∈ scanFor file (.ofText text) m) :
        keeps finding.migration = keeps m := by
      rw [migration_of_mem_scanFor found]
    rw [List.flatMap_cons, List.filter_append, List.filter_congr own, ← ih]
    cases kept : keeps m <;> simp [kept]

theorem scan_singleton (file : String) (text : List Char) (m : ApiMigration) :
    scan file text [m] = scanFor file (.ofText text) m := by
  rw [scan, List.flatMap_singleton]

theorem scan_of_empty (empty : m.term = []) (file : String) (text : List Char) : scan file text [m] = [] := by
  rw [scan_singleton, scanFor, empty]
  rfl

theorem scan_of_nonempty (nonempty : m.term ≠ []) (file : String) (text : List Char) :
    scan file text [m] = (occurrences m.term text).map (findingAt file (.ofText text) m) := by
  rw [scan_singleton, scanFor, if_neg (by simpa using nonempty)]
  rfl

theorem map_offset_scan (nonempty : m.term ≠ []) (file : String) (text : List Char) :
    (scan file text [m]).map (·.offset) = occurrences m.term text := by
  rw [scan_of_nonempty nonempty, List.map_map]
  exact List.map_id _

-- What a scan finds of each migration is what a scan for it alone finds.
theorem scan_leftmost (file : String) (text : List Char) :
    (∀ rules, scan file text rules = rules.flatMap fun m => scan file text [m]) ∧
    ∀ m : ApiMigration,
      (m.term = [] → scan file text [m] = []) ∧
      (m.term ≠ [] → (∀ finding ∈ scan file text [m], finding.migration = m) ∧
        ∀ offsets, Leftmost m.term text offsets ↔ (scan file text [m]).map (·.offset) = offsets) := by
  refine ⟨fun rules => ?_, fun m => ⟨fun empty => ?_, fun nonempty => ⟨fun finding found => ?_, fun offsets => ?_⟩⟩⟩
  · simp only [scan_singleton]
    rfl
  · exact scan_of_empty empty file text
  · rw [scan_singleton] at found
    exact migration_of_mem_scanFor found
  · rw [map_offset_scan nonempty, leftmost_iff nonempty]

-- A term that overlaps itself in a text, and a call of which no term is left.

def dottedCall : ApiMigration := ⟨"Unity.a.a.a", "", "2019.4", none, "", ""⟩

def namelessCall : ApiMigration := ⟨"(any overload)", "", "2019.4", none, "", ""⟩

def dottedText : List Char := ['é', ' ', 'a', '.', 'a', '.', 'a']

theorem scan_leftmost_dotted :
    dottedCall.term = ['a', '.', 'a'] ∧ OccursAt dottedCall.term dottedText 5 ∧
    Leftmost dottedCall.term dottedText [3] ∧
    namelessCall.term = [] ∧ scan "A.cs" dottedText [namelessCall] = [] := by
  obtain ⟨_, each⟩ := scan_leftmost "A.cs" dottedText
  have term : dottedCall.term = ['a', '.', 'a'] := by decide +kernel
  have nameless : namelessCall.term = [] := by decide +kernel
  have nonempty : dottedCall.term ≠ [] := by simp [term]
  have found : (scan "A.cs" dottedText [dottedCall]).map (·.offset) = [3] := by decide +kernel
  have overlapped : OccursAt dottedCall.term dottedText 5 := by
    rw [term]
    exact occursAt_append ['é', ' ', 'a', '.'] ['a', '.', 'a'] []
  exact ⟨term, overlapped, (((each dottedCall).2 nonempty).2 [3]).mpr found, nameless, (each namelessCall).1 nameless⟩

-- A finding whose offset, line and column are one place of the text, at which its term stands.
structure MigrationFinding.PointsInto (text : List Char) (finding : MigrationFinding) : Prop where
  boundary : IsBoundary text finding.offset
  placed : (LineIndex.ofText text).position finding.offset = ⟨finding.line, finding.column⟩
  listed : finding.line.toNat < (LineIndex.ofText text).lineCount
  shown : ∃ fromLine, dropBytes ((LineIndex.ofText text).startOf finding.line.toNat) text = some fromLine ∧
    finding.migration.term <+: fromLine.drop finding.column.toNat

-- A finding whose snippet is its line without the white space at the ends, and shows the term without its own.
structure MigrationFinding.QuotesLine (text : List Char) (finding : MigrationFinding) : Prop where
  line : (text.splitOn '\n')[finding.line.toNat]?.map trim = some finding.codeSnippet.toList
  lineText : finding.codeSnippet.toList = trim ((LineIndex.ofText text).lineText finding.line.toNat)
  term : trim finding.migration.term <:+: finding.codeSnippet.toList

section

variable {before after : List Char} (split : text = before ++ (m.term ++ after)) (small : byteSize text < UInt32.size)

include split small

theorem pointsInto_findingAt :
    (findingAt file (.ofText text) m (byteSize before)).PointsInto text := by
  have place := LineIndex.position_boundary small split
  have line := LineIndex.line_position small (byteSize before)
  obtain ⟨front, rest, here, opened, number⟩ := isLine_of_append before (m.term ++ after)
  rw [← split] at here
  refine ⟨⟨before, _, split, rfl⟩, rfl, ?_, afterLast '\n' before ++ (m.term ++ after), ?_, ?_⟩
  · rw [findingAt, line]
    exact (LineIndex.isLineOf_lineOf text (byteSize before)).listed
  · rw [findingAt, place.line, ← number, LineIndex.startOf_line here]
    conv_lhs => rw [split, opened, List.append_assoc]
    exact dropBytes_append front _
  · rw [findingAt, place.column, List.drop_left]
    exact List.prefix_append _ _

theorem quotesLine_findingAt (oneLine : '\n' ∉ m.term) :
    (findingAt file (.ofText text) m (byteSize before)).QuotesLine text := by
  have place := LineIndex.position_boundary small split
  obtain ⟨front, rest, here, opened, number⟩ := isLine_of_append before (m.term ++ after)
  rw [← split] at here
  have snippet : (findingAt file (.ofText text) m (byteSize before)).codeSnippet.toList =
      trim (afterLast '\n' before ++ beforeFirst '\n' (m.term ++ after)) := by
    rw [findingAt, String.toList_ofList, place.line, ← number, LineIndex.lineText_line here,
      LineIndex.trim_dropReturn]
  refine ⟨?_, String.toList_ofList, ?_⟩
  · rw [snippet, findingAt, place.line, ← number, here.getElem?_splitOn]
    rfl
  · rw [snippet, beforeFirst_append oneLine]
    exact trim_infix_trim ⟨_, _, List.append_assoc ..⟩

end

theorem scan_points (file : String) (text : List Char) (small : byteSize text < UInt32.size) (rules : List ApiMigration) :
    ∀ finding ∈ scan file text rules, finding.PointsInto text ∧
      ('\n' ∉ finding.migration.term → finding.QuotesLine text) := by
  intro finding member
  obtain ⟨m, _, before, after, split, rfl⟩ := exists_of_mem_scan member
  exact ⟨pointsInto_findingAt split small, quotesLine_findingAt split small⟩

def spacedCall : ApiMigration := ⟨"UnityEngine.Physics.IgnoreCollision (layers)", "", "2019.4", none, "Physics", ""⟩

def spacedText : List Char := "é\r\n\té Physics.IgnoreCollision \r\n".toList

def spacedFinding : MigrationFinding := ⟨spacedCall, "A.cs", 1, 3, 8, "é Physics.IgnoreCollision"⟩

theorem scan_points_spaced :
    byteSize spacedText < UInt32.size ∧ spacedCall.term = "Physics.IgnoreCollision ".toList ∧
    spacedFinding ∈ scan "A.cs" spacedText [dottedCall, spacedCall] ∧ spacedFinding.PointsInto spacedText ∧
    '\n' ∉ spacedFinding.migration.term ∧ spacedFinding.QuotesLine spacedText := by
  have small : byteSize spacedText < UInt32.size := by decide +kernel
  have found : spacedFinding ∈ scan "A.cs" spacedText [dottedCall, spacedCall] := by decide +kernel
  have oneLine : '\n' ∉ spacedFinding.migration.term := by decide +kernel
  obtain ⟨points, quotes⟩ := scan_points "A.cs" spacedText small [dottedCall, spacedCall] spacedFinding found
  exact ⟨small, by decide +kernel, found, points, oneLine, quotes oneLine⟩

end ScriptAudit
