import SignIn.Proofs.Url.Reading
import SignIn.Proofs.Url.Target

/-!
# Extended paths

A path that is extended by words keeps its own segments in front.  As texts, the words follow
the path behind one slash each, where a slash that the path ends with is used.

Whether a URL can be extended is told by its text: a slash follows the scheme.
-/

namespace SignIn.Url

/-! ## Regular URLs -/

/-- The segments start with an empty one only if that is the only one. -/
def IsGrounded (segments : List (List Char)) : Prop := ∀ rest, segments = [] :: rest → rest = []

/-- The parts of a URL can be told from its text, and its path is one that its scheme allows. -/
structure Regular (url : Url) : Prop extends WellFormed url where
  /-- A path without segments follows the scheme, and starts with no slash. -/
  flat : ∀ text, url.path = .flat text → url.place = [] ∧ text.head? ≠ some '/'
  /-- The path of a file starts with no empty segments. -/
  file : url.kind = .file → ∀ own, url.path = .rooted own → IsGrounded own

theorem isGrounded_collapse (segments : List (List Char)) :
    IsGrounded (UrlPath.collapse segments) := by
  intro rest collapsed
  rcases collapse_eq segments with alone | ⟨-, first, others, kept, first_ne⟩
  · rw [alone] at collapsed
    exact (List.cons.inj collapsed).2.symm
  · rw [kept] at collapsed
    exact absurd (List.cons.inj collapsed).1 first_ne

theorem IsGrounded.dropEmptyEnd {segments : List (List Char)} (grounded : IsGrounded segments) :
    IsGrounded (dropEmptyEnd segments) := by
  intro rest kept
  obtain ⟨back, whole⟩ := isPrefix_dropEmptyEnd segments
  rw [kept] at whole
  exact (List.append_eq_nil_iff.1 (grounded _ whole.symm)).1

theorem IsGrounded.pushSegment {segments : List (List Char)} (grounded : IsGrounded segments)
    (segment : List Char) : IsGrounded (pushSegment .file segments segment) := by
  unfold Url.pushSegment
  split
  · exact grounded
  · exact isGrounded_collapse _

/-! ## Readings -/

theorem head?_encode {encoded : Char → Bool} {text : List Char} {char : Char}
    (head : (Percent.encode encoded text).head? = some char) (unsigned : char ≠ '%') :
    text.head? = some char := by
  cases text with
  | nil => cases head
  | cons first text =>
    rw [Percent.encode, List.flatMap_cons, Percent.encodeChar] at head
    split at head
    next => exact head
    next =>
      obtain ⟨byte, bytes, bytes_eq⟩ :=
        List.exists_cons_of_ne_nil (@String.utf8EncodeChar_ne_nil first)
      rw [bytes_eq] at head
      exact absurd (Option.some.inj head).symm unsigned

theorem Regular.of_readFromAuthority {scheme text : List Char} {parts : Parts} {url : Url}
    (formed : url.WellFormed) (not_file : schemeKind scheme ≠ .file)
    (read_eq : readFromAuthority scheme parts text = .ok url) : url.Regular := by
  obtain ⟨rfl, own, path_eq⟩ := readFromAuthority_eq_ok read_eq
  exact ⟨formed, by simp [path_eq], fun is_file => absurd is_file not_file⟩

theorem Regular.of_readOther {scheme : List Char} {parts : Parts} {url : Url}
    (formed : url.WellFormed) (not_file : schemeKind scheme ≠ .file)
    (read_eq : readOther scheme parts = .ok url) : url.Regular := by
  unfold readOther at read_eq
  split at read_eq
  next => exact .of_readFromAuthority formed not_file read_eq
  next =>
    cases read_eq
    exact ⟨formed, nofun, fun is_file => absurd is_file not_file⟩
  next unslashed =>
    cases read_eq
    refine ⟨formed, ?_, nofun⟩
    rintro _ ⟨⟩
    refine ⟨rfl, fun head => ?_⟩
    have slash := head?_encode head (by decide)
    obtain ⟨rest, main_eq⟩ := List.head?_eq_some_iff.1 slash
    exact unslashed rest main_eq

/-- Whatever is read as a URL is regular. -/
theorem regular_of_parse {text : List Char} {url : Url} (read_eq : parse text = .ok url) :
    url.Regular := by
  have formed := wellFormed_of_parse read_eq
  unfold parse at read_eq
  split at read_eq
  next scheme rest split_eq =>
    unfold readAfterScheme at read_eq
    dsimp only at read_eq
    split at read_eq
    next =>
      obtain ⟨host, path, rfl, -⟩ := readFile_eq_ok read_eq
      refine ⟨formed, nofun, ?_⟩
      rintro - _ ⟨⟩
      exact isGrounded_collapse _
    next kind_eq => exact .of_readFromAuthority formed (by simp [kind_eq]) read_eq
    next kind_eq => exact .of_readOther formed (by simp [kind_eq]) read_eq
  next => cases read_eq

/-! ## Changes -/

theorem Regular.extend? {url place : Url} {segments : List String} (regular : url.Regular)
    (extended_eq : url.extend? segments = some place) : place.Regular := by
  have formed := regular.toWellFormed.extend? extended_eq
  obtain ⟨own, path_eq, rfl⟩ := extend?_eq_some_iff.1 extended_eq
  refine ⟨formed, nofun, ?_⟩
  rintro is_file _ ⟨⟩
  have kind_eq : url.kind = .file := is_file
  rw [kind_eq]
  exact extended_keeps IsGrounded (regular.file kind_eq own path_eq).dropEmptyEnd
    fun _ segment grounded => grounded.pushSegment segment

theorem Regular.appendPair {url : Url} (regular : url.Regular) (name value : String) :
    (url.appendPair name value).Regular :=
  ⟨regular.toWellFormed.appendPair name value, regular.flat, regular.file⟩

/-- A regular URL can be extended exactly if a slash follows its scheme. -/
theorem Regular.canBeBase_iff {url : Url} (regular : url.Regular) :
    url.canBeBase = true ↔ ∃ rest, url.chars = url.scheme ++ ':' :: '/' :: rest := by
  rw [chars_eq]
  simp only [List.append_cancel_left_eq, List.cons.injEq, true_and, ← List.head?_eq_some_iff]
  unfold canBeBase
  cases path_eq : url.path with
  | flat text =>
    obtain ⟨place_eq, unslashed⟩ := regular.flat text path_eq
    simp only [Bool.false_eq_true, false_iff]
    intro head
    rw [place_eq, List.nil_append, tail, path_eq, UrlPath.text, List.append_assoc,
      List.head?_append, Option.or_eq_some_iff] at head
    rcases head with slash | ⟨-, mark⟩
    · exact unslashed slash
    · rcases head?_marks mark with impossible | impossible <;> cases impossible
  | rooted own =>
    simp only [true_iff]
    unfold place
    split
    next => rfl
    next no_authority =>
      split
      next => rfl
      next =>
        obtain ⟨first, others, rfl⟩ :=
          List.exists_cons_of_ne_nil (regular.apart no_authority own path_eq).ne_nil
        rw [List.nil_append, tail, path_eq]
        rfl

/-- A path that is not empty has segments exactly if it starts with a slash. -/
theorem Regular.rooted_iff {url : Url} (regular : url.Regular) (some_path : url.path.text ≠ []) :
    (∃ own, url.path = .rooted own) ↔ url.path.text.head? = some '/' := by
  cases path_eq : url.path with
  | flat text => exact iff_of_false nofun (regular.flat text path_eq).2
  | rooted own =>
    rw [path_eq] at some_path
    cases own with
    | nil => exact absurd rfl some_path
    | cons first own => simp [UrlPath.text]

/-! ## Words -/

/-- A segment of ASCII letters and digits. -/
structure IsWord (segment : List Char) : Prop where
  /-- The segment is not empty. -/
  ne_nil : segment ≠ []
  /-- There is nothing but letters and digits. -/
  alphanumeric : ∀ char ∈ segment, char.isAlphanum = true

instance (segment : List Char) : Decidable (IsWord segment) :=
  decidable_of_iff (segment ≠ [] ∧ segment.all Char.isAlphanum = true)
    ⟨fun both => ⟨both.1, List.all_eq_true.1 both.2⟩,
      fun word => ⟨word.ne_nil, List.all_eq_true.2 word.alphanumeric⟩⟩

theorem ne_of_isAlphanum {char other : Char} (alphanumeric : char.isAlphanum = true)
    (odd : other.isAlphanum = false) : char ≠ other := by
  rintro rfl
  rw [alphanumeric] at odd
  cases odd

theorem not_inSpecialSegment_of_isAlphanum {char : Char} (alphanumeric : char.isAlphanum = true) :
    Percent.inSpecialSegment char = false := by
  have bounds := Text.isAlphanum_bounds alphanumeric
  have no_control : Percent.isControl char = false :=
    Percent.not_isControl_of_visible (by omega) (by omega)
  have no_sign {other : Char} := @ne_of_isAlphanum char other alphanumeric
  simp (disch := decide) [Percent.inSpecialSegment, Percent.inSegment, Percent.inPath,
    Percent.inFragment, no_control, no_sign]

section

variable {segment : List Char}

/-- A word is no text with a character that is neither a letter nor a digit. -/
theorem IsWord.ne {other : List Char} (word : IsWord segment)
    (odd : other.all Char.isAlphanum = false) : segment ≠ other := by
  rintro rfl
  rw [List.all_eq_true.2 word.alphanumeric] at odd
  cases odd

theorem IsWord.encodeSegment (word : IsWord segment) (kind : SchemeKind) :
    encodeSegment kind segment = segment := by
  have unbroken : segment.filter (fun char => char != '\t' && char != '\n' && char != '\r') =
      segment := by
    refine List.filter_eq_self.2 fun char member => ?_
    have no_sign {other : Char} := @ne_of_isAlphanum char other (word.alphanumeric char member)
    simp (disch := decide) [no_sign]
  rw [Url.encodeSegment, unbroken]
  refine Percent.encode_eq_self fun char member => ?_
  have bounds := Text.isAlphanum_bounds (word.alphanumeric char member)
  have plain := not_inSpecialSegment_of_isAlphanum (word.alphanumeric char member)
  refine ⟨by omega, ?_⟩
  split
  next => exact plain
  next => exact (Bool.or_eq_false_iff.1 plain).1

theorem IsWord.not_isDrive (word : IsWord segment) : UrlPath.isDrive segment = false := by
  unfold UrlPath.isDrive
  split
  next letter mark =>
    have no_sign {other : Char} := @ne_of_isAlphanum mark other (word.alphanumeric mark (by simp))
    simp (disch := decide) [no_sign]
  next => rfl

theorem IsWord.not_contains {texts : List String} (word : IsWord segment)
    (odd : ∀ text ∈ texts, text.toList.all Char.isAlphanum = false) :
    texts.contains (String.ofList segment) = false := by
  refine Bool.eq_false_iff.2 fun found => ?_
  have some_odd := odd _ (List.contains_iff_mem.1 found)
  rw [String.toList_ofList] at some_odd
  exact word.ne some_odd rfl

theorem IsWord.finish (word : IsWord segment) (kind : SchemeKind) (before : List (List Char)) :
    UrlPath.finish kind before segment = segment :: before := by
  have no_double : UrlPath.isDouble segment = false := word.not_contains (by decide)
  have no_single : UrlPath.isSingle segment = false := word.not_contains (by decide)
  simp [UrlPath.finish, UrlPath.settle, no_double, no_single, word.not_isDrive]

end

/-- The segments in front of those that are added; a root alone gives way. -/
def unrooted (segments : List (List Char)) : List (List Char) :=
  if segments = [[]] then [] else segments

theorem collapse_unrooted {segments : List (List Char)} (grounded : IsGrounded segments)
    {segment : List Char} (filled : segment ≠ []) :
    UrlPath.collapse (unrooted segments ++ [segment]) = unrooted segments ++ [segment] := by
  have starts : ∃ first rest, unrooted segments ++ [segment] = first :: rest ∧ first ≠ [] := by
    unfold unrooted
    split
    next => exact ⟨segment, [], rfl, filled⟩
    next not_root =>
      cases segments with
      | nil => exact ⟨segment, [], rfl, filled⟩
      | cons first rest =>
        refine ⟨first, rest ++ [segment], rfl, ?_⟩
        rintro rfl
        exact not_root (by rw [grounded rest rfl])
  obtain ⟨first, rest, starts, first_ne⟩ := starts
  simp [starts, UrlPath.collapse, first_ne]

/-- A word that is pushed stands behind the segments, unless these are a root alone. -/
theorem pushSegment_word {kind : SchemeKind} {segments : List (List Char)} {segment : List Char}
    (word : IsWord segment) (grounded : kind = .file → IsGrounded segments) :
    pushSegment kind segments segment = unrooted segments ++ [segment] := by
  have no_dots : ¬(segment = ['.'] ∨ segment = ['.', '.']) :=
    not_or.2 ⟨word.ne (by decide), word.ne (by decide)⟩
  have walked : UrlPath.walk kind (if segments = [[]] then [] else segments.reverse) [segment] =
      unrooted segments ++ [segment] := by
    rw [UrlPath.walk, word.finish, List.reverse_cons, unrooted]
    split
    next => rfl
    next => rw [List.reverse_reverse]
  simp only [pushSegment, if_neg no_dots, word.encodeSegment, walked]
  split
  next is_file => exact collapse_unrooted (grounded is_file) word.ne_nil
  next => rfl

theorem unrooted_concat {before : List (List Char)} {segment : List Char} (filled : segment ≠ []) :
    unrooted (before ++ [segment]) = before ++ [segment] :=
  if_neg (by simp [List.append_eq_singleton_iff, filled])

/-- Words that are pushed stand behind the segments in order. -/
theorem foldl_pushSegment {kind : SchemeKind} {before words : List (List Char)}
    (are_words : ∀ word ∈ words, IsWord word) (some_words : words ≠ [])
    (grounded : kind = .file → IsGrounded before) :
    words.foldl (pushSegment kind) before = unrooted before ++ words := by
  induction words generalizing before with
  | nil => exact absurd rfl some_words
  | cons word words ih =>
    obtain ⟨is_word, later⟩ := List.forall_mem_cons.1 are_words
    have pushed := pushSegment_word is_word grounded
    rw [List.foldl_cons]
    cases words with
    | nil => exact pushed
    | cons second words =>
      -- Behind a first word the segments are no root, so nothing gives way to the second one.
      have still_grounded (is_file : kind = .file) :
          IsGrounded (pushSegment kind before word) := by
        subst is_file
        exact (grounded rfl).pushSegment word
      rw [ih later nofun still_grounded, pushed, unrooted_concat is_word.ne_nil,
        List.append_assoc, List.singleton_append]

/-- The segments of a path that stay in front of words. -/
def stem (own : List (List Char)) : List (List Char) := unrooted (dropEmptyEnd own)

/-- A path that is extended by words keeps its own segments in front of them. -/
theorem extended_words {kind : SchemeKind} {own : List (List Char)} {segments : List String}
    (are_words : ∀ segment ∈ segments, IsWord segment.toList) (some_segments : segments ≠ [])
    (grounded : kind = .file → IsGrounded own) :
    extended kind own segments = stem own ++ segments.map String.toList := by
  refine foldl_pushSegment ?_ (by simpa using some_segments)
    fun is_file => (grounded is_file).dropEmptyEnd
  simpa using are_words

/-! ## Texts -/

theorem text_rooted_append (front back : List (List Char)) :
    (UrlPath.rooted (front ++ back)).text =
      (UrlPath.rooted front).text ++ (UrlPath.rooted back).text :=
  List.flatMap_append

theorem text_rooted {segments : List (List Char)} (some_segments : segments ≠ []) :
    (UrlPath.rooted segments).text = '/' :: ['/'].intercalate segments := by
  induction segments with
  | nil => exact absurd rfl some_segments
  | cons segment segments ih =>
    cases segments with
    | nil => simp [UrlPath.text, List.intercalate_singleton]
    | cons second segments =>
      have first := text_rooted_append [segment] (second :: segments)
      rw [List.singleton_append] at first
      rw [first, ih (List.cons_ne_nil _ _), List.intercalate_cons_cons]
      simp [UrlPath.text]

theorem IsPiece.no_slash {segment : List Char} (piece : IsPiece segment) : '/' ∉ segment :=
  fun member => absurd (piece '/' member) (by decide)

theorem splitAll_text {front : List Char} {segments : List (List Char)} (inner : '/' ∉ front)
    (pieces : ∀ segment ∈ segments, IsPiece segment) :
    Text.splitAll '/' (front ++ (UrlPath.rooted segments).text) = front :: segments := by
  induction segments generalizing front with
  | nil => simpa [UrlPath.text] using Text.splitAll_of_not_mem inner
  | cons segment segments ih =>
    obtain ⟨piece, later⟩ := List.forall_mem_cons.1 pieces
    have text_eq : (UrlPath.rooted (segment :: segments)).text =
        '/' :: (segment ++ (UrlPath.rooted segments).text) := rfl
    rw [text_eq, Text.splitAll_append, ih piece.no_slash later, Text.splitAll_of_not_mem inner,
      List.singleton_append]

/-- Segments are told from the text of their path. -/
theorem text_rooted_injective {segments others : List (List Char)}
    (pieces : ∀ segment ∈ segments, IsPiece segment)
    (other_pieces : ∀ other ∈ others, IsPiece other)
    (same : (UrlPath.rooted segments).text = (UrlPath.rooted others).text) : segments = others := by
  have split_eq := splitAll_text List.not_mem_nil pieces
  rw [same, splitAll_text List.not_mem_nil other_pieces] at split_eq
  exact (List.cons.inj split_eq).2.symm

/-- What stays of the text of a path in front of words: one slash at its end is left out, and so is
a slash that would be left alone. -/
def trunk (path : List Char) : List Char :=
  let rest := if path.getLast? = some '/' then path.dropLast else path
  if rest = ['/'] then [] else rest

theorem trunk_concat_slash (path : List Char) :
    trunk (path ++ ['/']) = if path = ['/'] then [] else path := by
  simp [trunk]

theorem trunk_eq_self {path : List Char} (unslashed : path.getLast? ≠ some '/') :
    trunk path = path := by
  have further : path ≠ ['/'] := by
    rintro rfl
    exact unslashed rfl
  simp [trunk, unslashed, further]

theorem text_rooted_eq_slash_iff {segments : List (List Char)} :
    (UrlPath.rooted segments).text = ['/'] ↔ segments = [[]] := by
  cases segments with
  | nil => simp [UrlPath.text]
  | cons first rest =>
    have no_more : (∀ segment ∈ rest, False) ↔ rest = [] := List.eq_nil_iff_forall_not_mem.symm
    simp [UrlPath.text, no_more]

theorem stem_concat_nil (front : List (List Char)) : stem (front ++ [[]]) = unrooted front := by
  by_cases some_front : front = []
  · rw [some_front]
    rfl
  · have several := List.length_pos_iff.2 some_front
    simp [stem, dropEmptyEnd, several]

theorem stem_concat {front : List (List Char)} {last : List Char} (filled : last ≠ []) :
    stem (front ++ [last]) = front ++ [last] := by
  have kept : dropEmptyEnd (front ++ [last]) = front ++ [last] := by simp [dropEmptyEnd, filled]
  rw [stem, kept, unrooted_concat filled]

/-- What stays of a path in front of words, as segments and as a text. -/
theorem text_stem {own : List (List Char)} (pieces : ∀ segment ∈ own, IsPiece segment) :
    (UrlPath.rooted (stem own)).text = trunk (UrlPath.rooted own).text := by
  rcases own.eq_nil_or_concat' with rfl | ⟨front, last, rfl⟩
  · rfl
  · rw [text_rooted_append]
    by_cases filled : last = []
    · -- The path ends with a slash, behind which nothing stands.
      subst filled
      have slash : (UrlPath.rooted [[]]).text = ['/'] := rfl
      rw [stem_concat_nil, slash, trunk_concat_slash, unrooted]
      simp only [text_rooted_eq_slash_iff]
      split <;> rfl
    · have unslashed : last.getLast? ≠ some '/' := fun slash =>
        (pieces last (by simp)).no_slash (List.mem_of_getLast? slash)
      have whole : (UrlPath.rooted [last]).text = ['/'] ++ last := by simp [UrlPath.text]
      rw [stem_concat filled, text_rooted_append, trunk_eq_self]
      rw [whole, ← List.append_assoc, List.getLast?_append_of_ne_nil _ filled]
      exact unslashed

theorem isPiece_stem {own : List (List Char)} (pieces : ∀ segment ∈ own, IsPiece segment) :
    ∀ segment ∈ stem own, IsPiece segment := by
  unfold stem unrooted
  split
  · simp
  · exact fun segment member => pieces segment ((isPrefix_dropEmptyEnd own).subset member)

/-- A slash behind a path that has none at its end leaves the stem as it is. -/
theorem stem_eq_of_slash {own others : List (List Char)}
    (pieces : ∀ segment ∈ own, IsPiece segment) (other_pieces : ∀ other ∈ others, IsPiece other)
    (unslashed : (UrlPath.rooted own).text.getLast? ≠ some '/')
    (slashed : (UrlPath.rooted others).text = (UrlPath.rooted own).text ++ ['/']) :
    stem others = stem own := by
  refine text_rooted_injective (isPiece_stem other_pieces) (isPiece_stem pieces) ?_
  have further : (UrlPath.rooted own).text ≠ ['/'] := by
    intro slash
    exact unslashed (by rw [slash]; rfl)
  rw [text_stem other_pieces, text_stem pieces, slashed, trunk_concat_slash, if_neg further,
    trunk_eq_self unslashed]

end SignIn.Url
