import Mathlib.Data.List.DropRight
import Mathlib.Data.List.TakeWhile
import SignIn.Text.Blank
import SignIn.Text.Letter
import SignIn.Text.LowerCase

/-!
# Cutting and trimming texts

What is in the words and the pieces of a text, and which texts trimming and lower-casing leave as
they are.
-/

namespace SignIn.Text

/-! ## Characters -/

theorem bounds_of_between {low value high : UInt32}
    (between : (decide (low ≤ value) && decide (value ≤ high)) = true) :
    low.toNat ≤ value.toNat ∧ value.toNat ≤ high.toNat := by
  have ends := (Bool.and_eq_true _ _).mp between
  exact ⟨UInt32.le_iff_toNat_le.1 (of_decide_eq_true ends.1),
    UInt32.le_iff_toNat_le.1 (of_decide_eq_true ends.2)⟩

theorem between_of_bounds {low value high : UInt32}
    (bounds : low.toNat ≤ value.toNat ∧ value.toNat ≤ high.toNat) :
    (decide (low ≤ value) && decide (value ≤ high)) = true :=
  (Bool.and_eq_true _ _).mpr ⟨decide_eq_true (UInt32.le_iff_toNat_le.2 bounds.1),
    decide_eq_true (UInt32.le_iff_toNat_le.2 bounds.2)⟩

/-- Digits by their numbers. -/
theorem isDigit_bounds {char : Char} (digit : char.isDigit = true) :
    0x30 ≤ char.toNat ∧ char.toNat ≤ 0x39 := @bounds_of_between 0x30 _ 0x39 digit

/-- Letters by their numbers. -/
theorem isAlpha_bounds {char : Char} (letter : char.isAlpha = true) :
    (0x41 ≤ char.toNat ∧ char.toNat ≤ 0x5A) ∨ (0x61 ≤ char.toNat ∧ char.toNat ≤ 0x7A) := by
  have cases : char.isUpper = true ∨ char.isLower = true := (Bool.or_eq_true _ _).mp letter
  rcases cases with upper | lower
  · exact .inl (of_decide_eq_true upper)
  · exact .inr (@bounds_of_between 0x61 _ 0x7A lower)

/-- Letters and digits by their numbers. -/
theorem isAlphanum_bounds {char : Char} (alphanumeric : char.isAlphanum = true) :
    (0x30 ≤ char.toNat ∧ char.toNat ≤ 0x39) ∨ (0x41 ≤ char.toNat ∧ char.toNat ≤ 0x5A) ∨
      (0x61 ≤ char.toNat ∧ char.toNat ≤ 0x7A) := by
  have parts : char.isAlpha = true ∨ char.isDigit = true := (Bool.or_eq_true _ _).mp alphanumeric
  rcases parts with letter | digit
  · exact .inr (isAlpha_bounds letter)
  · exact .inl (isDigit_bounds digit)

theorem isAlphanum_of_bounds {char : Char}
    (bounds : (0x30 ≤ char.toNat ∧ char.toNat ≤ 0x39) ∨ (0x41 ≤ char.toNat ∧ char.toNat ≤ 0x5A) ∨
      (0x61 ≤ char.toNat ∧ char.toNat ≤ 0x7A)) : char.isAlphanum = true := by
  refine (Bool.or_eq_true char.isAlpha char.isDigit).mpr ?_
  rcases bounds with digit | upper | lower
  · exact .inr (@between_of_bounds 0x30 _ 0x39 digit)
  · exact .inl ((Bool.or_eq_true char.isUpper char.isLower).mpr (.inl (decide_eq_true upper)))
  · exact .inl ((Bool.or_eq_true char.isUpper char.isLower).mpr
      (.inr (@between_of_bounds 0x61 _ 0x7A lower)))

theorem toLower_of_not_isAlpha {char : Char} (no_letter : char.isAlpha = false) :
    char.toLower = char :=
  toLower_of_not_isUpper ((Bool.or_eq_false_iff ..).1 no_letter).1

/-- Visible characters of ASCII are not blank. -/
theorem not_isBlank_of_visible {char : Char} (above : 0x20 < char.toNat)
    (below : char.toNat < 0x7F) : isBlank char = false := by
  simp only [isBlank, Bool.or_eq_false_iff, Bool.and_eq_false_iff, decide_eq_false_iff_not,
    beq_eq_false_iff_ne]
  omega

/-! ## Trimming -/

theorem trimStart_of_head {text : List Char}
    (filled : ∀ char, text.head? = some char → isBlank char = false) : trimStart text = text := by
  cases text with
  | nil => rfl
  | cons char text => exact List.dropWhile_cons_of_neg (by simp [filled char rfl])

theorem trimStart_eq_self {text : List Char} (inner : ∀ char ∈ text, isBlank char = false) :
    trimStart text = text :=
  trimStart_of_head fun char head => inner char (List.mem_of_head? head)

theorem trim_eq_self {text : List Char} (inner : ∀ char ∈ text, isBlank char = false) :
    trim text = text := by
  have backwards : trimStart text.reverse = text.reverse :=
    trimStart_eq_self fun char member => inner char (List.mem_reverse.1 member)
  rw [trim, trimStart_eq_self inner, trimEnd]
  rw [trimStart] at backwards
  rw [backwards, List.reverse_reverse]

theorem trimEnd_prefix (text : List Char) : trimEnd text <+: text := by
  rw [← List.reverse_suffix, trimEnd, List.reverse_reverse]
  exact List.dropWhile_suffix isBlank

theorem trimEnd_trimEnd (text : List Char) : trimEnd (trimEnd text) = trimEnd text := by
  rw [trimEnd, trimEnd, List.reverse_reverse, List.dropWhile_idempotent]

/-- What has been trimmed stays as it is when it is trimmed again. -/
theorem trim_trim (text : List Char) : trim (trim text) = trim text := by
  have started : trimStart (trim text) = trim text := by
    refine trimStart_of_head fun char head => ?_
    obtain ⟨back, whole⟩ := trimEnd_prefix (trimStart text)
    have first : (trimStart text).head? = some char := by
      rw [← whole, List.head?_append, ← trim, head, Option.some_or]
    have filled := List.head?_dropWhile_not isBlank text
    rw [← trimStart, first] at filled
    simpa using filled
  rw [trim, started, trim, trimEnd_trimEnd]

theorem trim_space (text : List Char) : trim (' ' :: text) = trim text := by
  rw [trim, trimStart, List.dropWhile_cons_of_pos (by decide)]
  rfl

/-! ## Pieces -/

/-- Behind what is kept a list is cut in front of the first item that is not. -/
theorem cut_append {α : Type} {keep : α → Bool} {front back : List α}
    (kept : ∀ item ∈ front, keep item = true)
    (ended : ∀ item, back.head? = some item → keep item = false) :
    (front ++ back).takeWhile keep = front ∧ (front ++ back).dropWhile keep = back := by
  rw [List.takeWhile_append_of_pos kept, List.dropWhile_append_of_pos kept]
  cases back with
  | nil => simp
  | cons item back => simp [ended item rfl]

theorem splitOnce?_of_not_mem {separator : Char} {before : List Char}
    (absent : separator ∉ before) (after : List Char) :
    splitOnce? separator (before ++ separator :: after) = some (before, after) := by
  induction before with
  | nil => simp [splitOnce?]
  | cons char before ih =>
    rw [List.mem_cons, not_or] at absent
    rw [List.cons_append, splitOnce?, if_neg (Ne.symm absent.1), ih absent.2]
    rfl

theorem splitOnce?_eq_none_iff {separator : Char} {text : List Char} :
    splitOnce? separator text = none ↔ separator ∉ text := by
  induction text with
  | nil => simp [splitOnce?]
  | cons char text ih =>
    rw [splitOnce?, List.mem_cons, not_or]
    by_cases same : char = separator
    · simp [same]
    · simp [same, Ne.symm same, ih]

/-- The first occurrence of a character cuts a text. -/
theorem splitOnce?_of_mem {separator : Char} {text : List Char} (member : separator ∈ text) :
    splitOnce? separator text =
      some (text.takeWhile (· != separator), (text.dropWhile (· != separator)).drop 1) := by
  induction text with
  | nil => cases member
  | cons char text ih =>
    by_cases same : char = separator
    · simp [splitOnce?, same]
    · have later : separator ∈ text := (List.mem_cons.1 member).resolve_left (Ne.symm same)
      simp [splitOnce?, same, ih later]

theorem splitAll_of_not_mem {separator : Char} {text : List Char} (absent : separator ∉ text) :
    splitAll separator text = [text] := by
  induction text with
  | nil => rfl
  | cons char text ih =>
    rw [List.mem_cons, not_or] at absent
    rw [splitAll, if_neg (Ne.symm absent.1), ih absent.2, consFirst]

/-- What holds no separator belongs to the first piece of what stands behind it. -/
theorem splitAll_append_of_not_mem {separator : Char} {front : List Char}
    (absent : separator ∉ front) {back piece : List Char} {pieces : List (List Char)}
    (split_eq : splitAll separator back = piece :: pieces) :
    splitAll separator (front ++ back) = (front ++ piece) :: pieces := by
  induction front with
  | nil => exact split_eq
  | cons char front ih =>
    rw [List.mem_cons, not_or] at absent
    rw [List.cons_append, splitAll, if_neg (Ne.symm absent.1), ih absent.2, consFirst,
      List.cons_append]

theorem splitAll_ne_nil (separator : Char) (text : List Char) : splitAll separator text ≠ [] := by
  cases text with
  | nil => simp [splitAll]
  | cons char text =>
    rw [splitAll]
    split
    · simp
    · cases splitAll separator text <;> simp [consFirst]

theorem not_mem_of_mem_splitAll {separator : Char} {text piece : List Char}
    (member : piece ∈ splitAll separator text) : separator ∉ piece := by
  induction text generalizing piece with
  | nil =>
    rw [splitAll, List.mem_singleton] at member
    simp [member]
  | cons char text ih =>
    rw [splitAll] at member
    split at member
    · rcases List.mem_cons.1 member with rfl | later
      · exact List.not_mem_nil
      · exact ih later
    · rename_i other
      obtain ⟨first, pieces, pieces_eq⟩ :=
        List.exists_cons_of_ne_nil (splitAll_ne_nil separator text)
      rw [pieces_eq, consFirst] at member
      rw [pieces_eq] at ih
      rcases List.mem_cons.1 member with rfl | later
      · rw [List.mem_cons, not_or]
        exact ⟨Ne.symm other, ih List.mem_cons_self⟩
      · exact ih (List.mem_cons_of_mem _ later)

/-- A separator ends the pieces of what stands before it. -/
theorem splitAll_append (separator : Char) (before after : List Char) :
    splitAll separator (before ++ separator :: after) =
      splitAll separator before ++ splitAll separator after := by
  induction before with
  | nil => simp [splitAll]
  | cons char before ih =>
    rw [List.cons_append, splitAll, splitAll, ih]
    by_cases same : char = separator
    · rw [if_pos same, if_pos same, List.cons_append]
    · rw [if_neg same, if_neg same]
      obtain ⟨piece, pieces, pieces_eq⟩ :=
        List.exists_cons_of_ne_nil (splitAll_ne_nil separator before)
      rw [pieces_eq]
      rfl

section

variable {separator : Char} {spell : Char → List Char} (kept : spell separator = [separator])
  (absent : ∀ char, char ≠ separator → separator ∉ spell char)
include kept absent

theorem not_mem_flatMap {text : List Char} (free : separator ∉ text) :
    separator ∉ text.flatMap spell := by
  intro member
  obtain ⟨char, inside, spelled⟩ := List.mem_flatMap.1 member
  refine absent char ?_ spelled
  rintro rfl
  exact free inside

/-- A text is cut at the same places however its other characters are spelled. -/
theorem splitAll_flatMap (text : List Char) :
    splitAll separator (text.flatMap spell) =
      (splitAll separator text).map (List.flatMap spell) := by
  induction text with
  | nil => rfl
  | cons char text ih =>
    rw [List.flatMap_cons, splitAll]
    by_cases same : char = separator
    · rw [if_pos same, same, kept, List.singleton_append, splitAll, if_pos rfl, ih]
      rfl
    · obtain ⟨piece, pieces, pieces_eq⟩ :=
        List.exists_cons_of_ne_nil (splitAll_ne_nil separator text)
      rw [pieces_eq, List.map_cons] at ih
      rw [if_neg same, pieces_eq, consFirst, splitAll_append_of_not_mem (absent char same) ih,
        List.map_cons, List.flatMap_cons]

theorem splitOnce?_flatMap (text : List Char) :
    splitOnce? separator (text.flatMap spell) =
      (splitOnce? separator text).map fun (before, after) =>
        (before.flatMap spell, after.flatMap spell) := by
  by_cases member : separator ∈ text
  · obtain ⟨before, after, rfl, free⟩ := List.eq_append_cons_of_mem member
    rw [List.flatMap_append, List.flatMap_cons, kept, List.singleton_append,
      splitOnce?_of_not_mem free, splitOnce?_of_not_mem (not_mem_flatMap kept absent free)]
    rfl
  · rw [splitOnce?_eq_none_iff.2 member,
      splitOnce?_eq_none_iff.2 (not_mem_flatMap kept absent member)]
    rfl

end

/-! ## Words -/

theorem not_isBlank_of_mem_splitBlank {text piece : List Char}
    (member : piece ∈ splitBlank text) : ∀ char ∈ piece, isBlank char = false := by
  induction text generalizing piece with
  | nil =>
    rw [splitBlank, List.mem_singleton] at member
    simp [member]
  | cons first rest ih =>
    rw [splitBlank] at member
    by_cases blank : isBlank first = true
    · rw [if_pos blank] at member
      rcases List.mem_cons.1 member with rfl | later
      · simp
      · exact ih later
    · rw [if_neg blank] at member
      have first_inner : isBlank first = false := by simpa using blank
      cases split_eq : splitBlank rest with
      | nil =>
        rw [split_eq, consFirst, List.mem_singleton] at member
        simp [member, first_inner]
      | cons word words =>
        rw [split_eq] at ih
        rw [split_eq, consFirst] at member
        rcases List.mem_cons.1 member with rfl | later
        · intro char char_member
          rcases List.mem_cons.1 char_member with rfl | inside
          · exact first_inner
          · exact ih List.mem_cons_self char inside
        · exact ih (List.mem_cons_of_mem word later)

theorem splitBlank_append {word : List Char} (inner : ∀ char ∈ word, isBlank char = false)
    {blank : Char} (is_blank : isBlank blank = true) (rest : List Char) :
    splitBlank (word ++ blank :: rest) = word :: splitBlank rest := by
  induction word with
  | nil => simp [splitBlank, is_blank]
  | cons char word ih =>
    have first_inner := inner char List.mem_cons_self
    have later_inner : ∀ other ∈ word, isBlank other = false := fun other member =>
      inner other (List.mem_cons_of_mem _ member)
    rw [List.cons_append, splitBlank, if_neg (by simp [first_inner]), ih later_inner, consFirst]

/-- The first word of a text that starts with one, and the words behind it. -/
theorem words_append {word : List Char} (word_ne : word ≠ [])
    (inner : ∀ char ∈ word, isBlank char = false) {blank : Char} (is_blank : isBlank blank = true)
    (rest : List Char) : words (word ++ blank :: rest) = word :: words rest := by
  rw [words, splitBlank_append inner is_blank, List.filter_cons_of_pos (by simpa using word_ne)]
  rfl

/-- A blank in front of a text belongs to no word. -/
theorem words_cons {blank : Char} (is_blank : isBlank blank = true) (text : List Char) :
    words (blank :: text) = words text := by
  rw [words, splitBlank, if_pos is_blank]
  rfl

/-- The first word of a text: what stands in front of a blank, the blanks at the start apart. -/
def firstWord (text : List Char) : List Char := (trimStart text).takeWhile (!isBlank ·)

theorem firstWord_eq_self {text : List Char} (inner : ∀ char ∈ text, isBlank char = false) :
    firstWord text = text := by
  have keeps : ∀ char ∈ text, (!isBlank char) = true := by simpa using inner
  rw [firstWord, trimStart_eq_self inner, List.takeWhile_eq_self_iff.2 keeps]

/-- A text that is not blank has a first word, and a blank behind the text ends it. -/
theorem head?_words {text : List Char} (filled : ∃ char ∈ text, isBlank char = false)
    {blank : Char} (is_blank : isBlank blank = true) (rest : List Char) :
    (words (text ++ blank :: rest)).head? = some (firstWord text) := by
  induction text with
  | nil => simp at filled
  | cons char text ih =>
    cases first : isBlank char with
    | true =>
      have later : ∃ other ∈ text, isBlank other = false := by simpa [first] using filled
      rw [List.cons_append, words_cons first, ih later, firstWord, firstWord, trimStart, trimStart,
        List.dropWhile_cons_of_pos first]
    | false =>
      have start : trimStart (char :: text) = char :: text := trimStart_of_head (by simp [first])
      let word := (char :: text).takeWhile (!isBlank ·)
      let behind := (char :: text).dropWhile (!isBlank ·)
      have word_eq : firstWord (char :: text) = word := by rw [firstWord, start]
      have word_ne : word ≠ [] := by simp [word, first]
      have inner : ∀ other ∈ word, isBlank other = false := fun other member => by
        simpa using List.mem_takeWhile_imp member
      have text_eq : word ++ behind = char :: text := List.takeWhile_append_dropWhile
      obtain ⟨ends, more, ends_eq, ends_blank⟩ :
          ∃ ends more, behind ++ blank :: rest = ends :: more ∧ isBlank ends = true := by
        cases behind_eq : behind with
        | nil => exact ⟨blank, rest, rfl, is_blank⟩
        | cons second more =>
          have stopped := List.head?_dropWhile_not (!isBlank ·) (char :: text)
          rw [show (char :: text).dropWhile (!isBlank ·) = second :: more from behind_eq] at stopped
          exact ⟨second, more ++ blank :: rest, rfl, by simpa using stopped⟩
      rw [word_eq, ← text_eq, List.append_assoc, ends_eq, words_append word_ne inner ends_blank,
        List.head?_cons]

theorem firstWord_ne_nil {text : List Char} (filled : ∃ char ∈ text, isBlank char = false) :
    firstWord text ≠ [] := by
  have first := head?_words filled (show isBlank ' ' = true by decide) []
  have member : firstWord text ∈ words _ := List.mem_of_mem_head? first
  simpa using (List.mem_filter.1 member).2

theorem mem_of_mem_firstWord {text : List Char} {char : Char} (member : char ∈ firstWord text) :
    char ∈ text :=
  (List.dropWhile_sublist _).subset ((List.takeWhile_sublist _).subset member)

/-! ## Lower case -/

/-- A character that lower-casing leaves as it is wherever it stands. -/
structure IsLower (char : Char) : Prop where
  /-- It is no capital sigma. -/
  no_sigma : char ≠ 'Σ'
  /-- It is its own lower case. -/
  lowered : lowerChar char = [char]

theorem isLower_of_ascii {char : Char} (ascii : char.toNat < 0x80)
    (no_capital : ¬(0x41 ≤ char.toNat ∧ char.toNat ≤ 0x5A)) : IsLower char := by
  refine ⟨?_, by simp only [lowerChar, if_pos ascii, if_neg no_capital]⟩
  rintro rfl
  exact absurd ascii (by decide)

theorem lowerFrom_of_isLower {passed text : List Char} (lower : ∀ char ∈ text, IsLower char) :
    lowerFrom passed text = text := by
  induction text generalizing passed with
  | nil => rfl
  | cons char text ih =>
    obtain ⟨no_sigma, lowered⟩ := lower char List.mem_cons_self
    rw [lowerFrom, if_neg no_sigma, lowered, List.singleton_append,
      ih fun other member => lower other (List.mem_cons_of_mem _ member)]

end SignIn.Text
