import ScriptAudit.EngineVersion
import ScriptAudit.Proofs.Text.Pieces
import ScriptAudit.Proofs.Text.Word

namespace ScriptAudit

open Text

namespace EngineVersion

def isSeparator (c : Char) : Bool := c == '.' || c == '-'

theorem not_separator_of_isDigit {c : Char} (digit : c.isDigit = true) : isSeparator c = false := by
  rw [isSeparator, Bool.or_eq_false_iff, beq_eq_false_iff_ne, beq_eq_false_iff_ne]
  constructor <;> rintro rfl <;> cases digit

theorem not_blank_of_isSeparator {c : Char} (separates : isSeparator c = true) : isBlank c = false := by
  rw [isSeparator, Bool.or_eq_true, beq_iff_eq, beq_iff_eq] at separates
  rcases separates with rfl | rfl <;> decide

theorem readPart_trimStart (part : List Char) : readPart (trimStart part) = readPart part := by
  rw [readPart, readPart, trim_trimStart]

theorem trim_parts (major minor patch : List Char) {first second : Char} (separates : isSeparator first = true)
    (separates' : isSeparator second = true) : trim (major ++ first :: (minor ++ second :: patch)) =
      trimStart major ++ first :: (minor ++ second :: trimEnd patch) := by
  have starts : StartsVisible (first :: (minor ++ second :: patch)) :=
    ⟨first, _, rfl, not_blank_of_isSeparator separates⟩
  have ends : EndsVisible (trimStart major ++ first :: (minor ++ [second])) :=
    ⟨trimStart major ++ first :: minor, second, by simp, not_blank_of_isSeparator separates'⟩
  have regrouped (last : List Char) : trimStart major ++ first :: (minor ++ second :: last) =
      (trimStart major ++ first :: (minor ++ [second])) ++ last := by simp
  rw [trim, trimStart_append major starts, regrouped, trimEnd_append ends, ← regrouped]

theorem takeWhile_trimEnd (part : List Char) : (trimEnd part).takeWhile Char.isDigit = part.takeWhile Char.isDigit := by
  obtain ⟨back, whole, blank⟩ := exists_trimEnd_append part
  conv_rhs => rw [whole]
  apply (takeWhile_append_of_stops _ _).symm
  intro c first
  have removed := blank c (List.mem_of_mem_head? first)
  rw [Bool.eq_false_iff]
  intro digit
  rw [isBlank_of_isDigit digit] at removed
  cases removed

theorem read_parts {major minor : List Char} (patch : List Char) {first second : Char}
    (whole : ∀ c ∈ major, isSeparator c = false) (separates : isSeparator first = true)
    (whole' : ∀ c ∈ minor, isSeparator c = false) (separates' : isSeparator second = true) :
    read (major ++ first :: (minor ++ second :: patch)) =
      ⟨readPart major, readPart minor, readPart (patch.takeWhile Char.isDigit)⟩ := by
  have bare : ∀ c ∈ trimStart major, isSeparator c = false := by
    intro c member
    exact whole c ((List.dropWhile_suffix _).subset member)
  obtain ⟨third, others, cut, same⟩ := exists_first_piece (fun _ => not_separator_of_isDigit) (trimEnd patch)
  have parts : pieces isSeparator (trim (major ++ first :: (minor ++ second :: patch))) =
      trimStart major :: minor :: third :: others := by
    rw [trim_parts major minor patch separates separates', pieces_append_cons bare separates,
      pieces_append_cons whole' separates', cut]
  unfold read
  rw [show (fun c => c == '.' || c == '-') = isSeparator from rfl, parts]
  simp only [readPart_trimStart, same, takeWhile_trimEnd]

theorem readPart_of_decimal {digits : List Char} {n : UInt32} (written : Decimal digits n.toNat) :
    readPart digits = n := by
  have read : readWord digits = some n := readWord_eq_some_iff.mpr ⟨[], digits, rfl, .inl rfl, written⟩
  rw [readPart, trim_eq_self written.startsVisible written.endsVisible, read]
  rfl

theorem read_append {text suffix : List Char} (three : 2 ≤ text.countP isSeparator)
    (stops : ∀ c ∈ suffix.head?, c.isDigit = false) : read (text ++ suffix) = read text := by
  have some : 0 < text.countP isSeparator := Nat.lt_of_lt_of_le Nat.zero_lt_two three
  obtain ⟨major, first, rest, rfl, whole, separates, count⟩ := exists_first_separator some
  have more : 0 < rest.countP isSeparator := by omega
  obtain ⟨minor, second, patch, rfl, whole', separates', _⟩ := exists_first_separator more
  -- The suffix becomes the end of the third part, of which only the digits in front are read.
  have regrouped : major ++ first :: (minor ++ second :: patch) ++ suffix =
      major ++ first :: (minor ++ second :: (patch ++ suffix)) := by simp
  rw [regrouped, read_parts _ whole separates whole' separates', read_parts _ whole separates whole' separates',
    takeWhile_append_of_stops patch stops]

theorem read_blank_append {front : List Char} (blank : ∀ c ∈ front, isBlank c = true) (text : List Char) :
    read (front ++ text) = read text := by
  rw [read, read, trim_blanks_append blank]

theorem read_toList (v : EngineVersion) : read v.toList = v := by
  have major := decimal_toString v.major.toNat
  have minor := decimal_toString v.minor.toNat
  have patch := decimal_toString v.patch.toNat
  have parts : v.toList = (toString v.major.toNat).toList ++
      '.' :: ((toString v.minor.toNat).toList ++ '.' :: (toString v.patch.toNat).toList) := by simp [toList]
  rw [parts, read_parts _ (fun c member => not_separator_of_isDigit (major.plain c member)) rfl
    (fun c member => not_separator_of_isDigit (minor.plain c member)) rfl,
    List.takeWhile_eq_self_iff.mpr patch.plain, readPart_of_decimal major, readPart_of_decimal minor,
    readPart_of_decimal patch]

theorem two_le_separators (v : EngineVersion) : 2 ≤ v.toList.countP isSeparator := by
  have dot (rest : List Char) : List.countP isSeparator ('.' :: rest) = rest.countP isSeparator + 1 :=
    List.countP_cons_of_pos rfl
  rw [toList, List.countP_append, List.countP_append, dot, dot]
  omega

theorem suffixes_are_not_read :
    (∀ (v : EngineVersion) (front suffix : String), isBlankText front = true →
      (∀ c ∈ suffix.toList.head?, c.isDigit = false) → ofString (front ++ (v.display ++ suffix)) = v) ∧
    (∀ version, ofString (ofString version).display = ofString version) ∧
    ∀ (version suffix : String) (other : EngineVersion), 2 ≤ version.toList.countP isSeparator →
      (∀ c ∈ suffix.toList.head?, c.isDigit = false) →
      (ofString (version ++ suffix)).le other = (ofString version).le other ∧
        other.le (ofString (version ++ suffix)) = other.le (ofString version) := by
  have back (v : EngineVersion) : ofString v.display = v := by
    rw [ofString, display, String.toList_ofList, read_toList]
  refine ⟨?_, ?_, ?_⟩
  · intro v front suffix blank stops
    rw [ofString, String.toList_append, String.toList_append, read_blank_append (List.all_eq_true.mp blank), display,
      String.toList_ofList, read_append v.two_le_separators stops, read_toList]
  · intro version
    exact back _
  · intro version suffix other three stops
    have same : ofString (version ++ suffix) = ofString version := by
      rw [ofString, String.toList_append, read_append three stops, ofString]
    rw [same]
    exact ⟨rfl, rfl⟩

theorem suffixes_are_not_read_beta :
    isBlankText "\u00a0 " = true ∧ (∀ c ∈ "f1-beta.2".toList.head?, c.isDigit = false) ∧
      ofString ("\u00a0 " ++ (display ⟨6000, 0, 4294967295⟩ ++ "f1-beta.2")) = ⟨6000, 0, 4294967295⟩ ∧
    2 ≤ "02022 .3-1 ".toList.countP isSeparator ∧
      (ofString ("02022 .3-1 " ++ "f1-beta.2")).le ⟨2022, 3, 0⟩ = (ofString "02022 .3-1 ").le ⟨2022, 3, 0⟩ := by
  obtain ⟨displayed, _, ordered⟩ := suffixes_are_not_read
  have blank : isBlankText "\u00a0 " = true := by decide +kernel
  have stops : ∀ c ∈ "f1-beta.2".toList.head?, c.isDigit = false := by simp
  have three : 2 ≤ "02022 .3-1 ".toList.countP isSeparator := by decide +kernel
  exact ⟨blank, stops, displayed _ _ _ blank stops, three, (ordered _ _ _ three stops).1⟩

end EngineVersion

end ScriptAudit
