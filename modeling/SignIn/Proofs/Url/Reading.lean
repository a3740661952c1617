import Mathlib.Data.List.TakeWhile
import SignIn.Url.Parse

/-!
# The start of a text

How reading a URL treats the first characters of a text: which of them survive the cleaning, where
the parts begin, and what a reference that starts with a slash is resolved to.
-/

namespace SignIn.Url

/-! ## Cleaning -/

/-- What is left of a text after a character that stays. -/
def cleanEnd (text : List Char) : List Char :=
  ((text.reverse.dropWhile isMargin).reverse).filter (!isBreak ·)

theorem isBreak_of_not_isMargin {char : Char} (inner : isMargin char = false) :
    isBreak char = false := by
  by_cases broken : isBreak char = true
  · simp only [isBreak, Bool.or_eq_true, beq_iff_eq] at broken
    rcases broken with (rfl | rfl) | rfl <;> exact absurd inner (by decide)
  · simpa using broken

theorem reverse_dropWhile_cons {keep : Char → Bool} {char : Char} (stays : keep char = false)
    (text : List Char) :
    ((char :: text).reverse.dropWhile keep).reverse =
      char :: (text.reverse.dropWhile keep).reverse := by
  rw [List.reverse_cons, List.dropWhile_append]
  cases dropped : text.reverse.dropWhile keep with
  | nil => simp [stays]
  | cons first rest => simp

theorem clean_cons {char : Char} (inner : isMargin char = false) (text : List Char) :
    clean (char :: text) = char :: cleanEnd text := by
  have unbroken := isBreak_of_not_isMargin inner
  simp only [clean, cleanEnd, List.dropWhile_cons, inner, Bool.false_eq_true, if_false,
    reverse_dropWhile_cons inner]
  simp [unbroken]

theorem cleanEnd_cons {char : Char} (inner : isMargin char = false) (text : List Char) :
    cleanEnd (char :: text) = char :: cleanEnd text := by
  have unbroken := isBreak_of_not_isMargin inner
  simp only [cleanEnd, reverse_dropWhile_cons inner]
  simp [unbroken]

/-- Without line breaks, cleaning only shortens a text at its end. -/
theorem cleanEnd_prefix {text : List Char} (unbroken : ∀ char ∈ text, isBreak char = false) :
    cleanEnd text <+: text := by
  have shortened : (text.reverse.dropWhile isMargin).reverse <+: text := by
    have dropped := @List.dropWhile_suffix _ text.reverse isMargin
    simpa using List.reverse_prefix.2 dropped
  have kept : cleanEnd text = (text.reverse.dropWhile isMargin).reverse := by
    refine List.filter_eq_self.2 fun char member => ?_
    simp [unbroken char (shortened.subset member)]
  rw [kept]
  exact shortened

/-- Nothing is cleaned away from a text without blanks. -/
theorem cleanEnd_eq_self {text : List Char} (inner : ∀ char ∈ text, isMargin char = false) :
    cleanEnd text = text := by
  induction text with
  | nil => rfl
  | cons char text ih =>
    have later := ih fun other member => inner other (List.mem_cons_of_mem _ member)
    rw [cleanEnd_cons (inner char List.mem_cons_self), later]

/-! ## Schemes -/

/-- A scheme is a word in front of a colon, in lower case. -/
theorem splitScheme?_eq_some {text scheme rest : List Char}
    (split_eq : splitScheme? text = some (scheme, rest)) :
    ∃ word, text = word ++ ':' :: rest ∧ scheme = word.map Char.toLower ∧ word ≠ [] ∧
      ∀ char ∈ word, inScheme char = true := by
  cases text with
  | nil => cases split_eq
  | cons first text =>
    unfold splitScheme? at split_eq
    dsimp only at split_eq
    split at split_eq
    · rename_i behind behind_eq
      split at split_eq
      · rename_i letter
        cases split_eq
        have text_eq := @List.takeWhile_append_dropWhile _ inScheme (first :: text)
        rw [behind_eq] at text_eq
        have first_inner : inScheme first = true := by simp [inScheme, Char.isAlphanum, letter]
        exact ⟨_, text_eq.symm, rfl, by simp [first_inner], fun _ => List.mem_takeWhile_imp⟩
      · cases split_eq
    · cases split_eq

/-! ## Parts -/

theorem cutAt_fst (sign : Char) (text : List Char) :
    (cutAt sign text).1 = text.takeWhile (· != sign) := by
  unfold cutAt
  cases dropped : text.dropWhile (· != sign) with
  | nil =>
    have whole := @List.takeWhile_append_dropWhile _ (· != sign) text
    rw [dropped, List.append_nil] at whole
    exact whole.symm
  | cons first rest => rfl

theorem cutAt_cons {sign char : Char} (other : char ≠ sign) (text : List Char) :
    cutAt sign (char :: text) = (char :: (cutAt sign text).1, (cutAt sign text).2) := by
  have differs : (char != sign) = true := by simpa using other
  simp only [cutAt, List.dropWhile_cons, differs, if_true, List.takeWhile_cons]
  cases text.dropWhile (· != sign) <;> rfl

theorem cutAt_of_not_mem {sign : Char} {text : List Char} (absent : sign ∉ text) :
    cutAt sign text = (text, none) := by
  induction text with
  | nil => rfl
  | cons char text ih =>
    rw [List.mem_cons, not_or] at absent
    rw [cutAt_cons (Ne.symm absent.1), ih absent.2]

theorem cutAt_append {sign : Char} {before : List Char} (absent : sign ∉ before)
    (after : List Char) : cutAt sign (before ++ sign :: after) = (before, some after) := by
  induction before with
  | nil => simp [cutAt]
  | cons char before ih =>
    rw [List.mem_cons, not_or] at absent
    rw [List.cons_append, cutAt_cons (Ne.symm absent.1), ih absent.2]

/-- What stands behind the first question mark is the query, if there is no fragment. -/
theorem parts_query {before query : List Char} (no_fragment : '#' ∉ before ++ '?' :: query)
    (no_query : '?' ∉ before) : parts (before ++ '?' :: query) = ⟨before, some query, none⟩ := by
  simp only [parts, cutAt_of_not_mem no_fragment, cutAt_append no_query]

theorem main_eq (text : List Char) :
    (parts text).main = (text.takeWhile (· != '#')).takeWhile (· != '?') := by
  simp only [parts, cutAt_fst]

/-- A character that starts neither a query nor a fragment belongs to the main part. -/
theorem parts_cons {char : Char} (query : char ≠ '?') (fragment : char ≠ '#')
    (text : List Char) :
    parts (char :: text) = { parts text with main := char :: (parts text).main } := by
  simp only [parts, cutAt_cons fragment, cutAt_cons query]

/-- The main part starts as the text does, if it is not empty. -/
theorem head?_of_head?_main {text : List Char} {char : Char}
    (head : (parts text).main.head? = some char) : text.head? = some char := by
  rw [main_eq, List.head?_takeWhile, List.head?_takeWhile, Option.filter_eq_some_iff,
    Option.filter_eq_some_iff] at head
  exact head.1.1

/-! ## Web URLs -/

/-- The scheme of the web. -/
def web : List Char := ['h', 't', 't', 'p']

theorem readFromAuthority_eq_ok {scheme text : List Char} {parts : Parts} {url : Url}
    (read_eq : readFromAuthority scheme parts text = .ok url) :
    url.scheme = scheme ∧ ∃ segments, url.path = .rooted segments := by
  unfold readFromAuthority at read_eq
  dsimp only at read_eq
  split at read_eq
  · cases read_eq
  · cases read_eq
    exact ⟨rfl, _, rfl⟩

/-- Nothing can be asked of nobody. -/
theorem readFromAuthority_web_empty {parts : Parts} {text : List Char}
    (no_host : text.takeWhile (!isSlash .web ·) = []) :
    readFromAuthority web parts text = .error .emptyHost := by
  have kind_eq : schemeKind web = .web := by decide
  have authority_eq (ended : Bool) : readAuthority web ended [] = .error .emptyHost := by
    simp [readAuthority, kind_eq, splitUser, splitHost, readHost]
  simp only [readFromAuthority, kind_eq, no_host, authority_eq]

theorem parse_web (text : List Char) :
    parse (web ++ ':' :: text) =
      readFromAuthority web (parts (cleanEnd text))
        ((parts (cleanEnd text)).main.dropWhile (isSlash .web)) := by
  have cleaned : clean (web ++ ':' :: text) = web ++ ':' :: cleanEnd text := by
    have letters : ∀ char ∈ ['h', 't', 't', 'p', ':'], isMargin char = false := by
      simp [isMargin]
    simp only [web, List.cons_append, List.nil_append]
    rw [clean_cons (letters _ (by simp)), cleanEnd_cons (letters _ (by simp)),
      cleanEnd_cons (letters _ (by simp)), cleanEnd_cons (letters _ (by simp)),
      cleanEnd_cons (letters _ (by simp))]
  have split_eq : splitScheme? (web ++ ':' :: cleanEnd text) = some (web, cleanEnd text) := rfl
  have kind_eq : schemeKind web = .web := by decide
  simp only [parse, cleaned, split_eq, readAfterScheme, kind_eq]

/-! ## Files -/

theorem fileAt_eq_ok {hostText path : List Char} {parts : Parts} {url : Url}
    (read_eq : fileAt hostText path parts = .ok url) :
    ∃ host text, url = fileOf host (UrlPath.resolve .file [] text) parts ∧
      ∀ given, host = some given → Host.read hostText = .ok given := by
  unfold fileAt at read_eq
  split at read_eq
  · cases read_eq
    exact ⟨none, _, rfl, nofun⟩
  · split at read_eq
    · cases read_eq
    · rename_i host host_eq
      split at read_eq
      · cases read_eq
        exact ⟨none, _, rfl, nofun⟩
      · cases read_eq
        refine ⟨some host, _, rfl, ?_⟩
        rintro _ ⟨⟩
        exact host_eq

/-- Wherever its host is found, a file has resolved segments. -/
theorem readFile_eq_ok {parts : Parts} {url : Url} (read_eq : readFile parts = .ok url) :
    ∃ host text, url = fileOf host (UrlPath.resolve .file [] text) parts ∧
      ∀ given, host = some given → ∃ hostText, Host.read hostText = .ok given := by
  unfold readFile at read_eq
  split at read_eq
  · split at read_eq
    · split at read_eq
      · dsimp only at read_eq
        split at read_eq
        · cases read_eq
          exact ⟨none, _, rfl, nofun⟩
        · obtain ⟨host, text, url_eq, host_read⟩ := fileAt_eq_ok read_eq
          exact ⟨host, text, url_eq, fun given given_eq => ⟨_, host_read given given_eq⟩⟩
      · cases read_eq
        exact ⟨none, _, rfl, nofun⟩
    · cases read_eq
      exact ⟨none, _, rfl, nofun⟩
  · cases read_eq
    exact ⟨none, _, rfl, nofun⟩

/-! ## References that start with a slash -/

theorem clean_slash (rest : List Char) : clean ('/' :: rest) = '/' :: cleanEnd rest :=
  clean_cons (by decide) rest

/-- A text that starts with a slash is no URL. -/
theorem parse_slash (rest : List Char) : parse ('/' :: rest) = .error .noBase := by
  have no_scheme : splitScheme? ('/' :: cleanEnd rest) = none := rfl
  simp only [parse, clean_slash, no_scheme]

theorem join_slash {base : Url} {own : List (List Char)} (path_eq : base.path = .rooted own)
    (rest : List Char) :
    base.join ('/' :: rest) = base.resolve own (parts ('/' :: cleanEnd rest)) := by
  have no_scheme : splitScheme? ('/' :: cleanEnd rest) = none := rfl
  simp only [join, clean_slash, path_eq, no_scheme]

theorem resolve_single_slash {base : Url} {own : List (List Char)} {parts : Parts}
    {rest : List Char} (main_eq : parts.main = '/' :: rest)
    (single : ∀ char, rest.head? = some char → isSlash .web char = false) :
    base.resolve own parts =
      .ok (base.withSegments (UrlPath.resolve base.kind [] rest) parts) := by
  have first_slash : isSlash .web '/' = true := by decide
  cases rest with
  | nil => simp [resolve, main_eq, first_slash]
  | cons second more => simp [resolve, main_eq, first_slash, single second rfl]

/-- Behind a single slash stand segments: whoever is asked for the base is asked for them. -/
theorem join_single_slash {base : Url} {own : List (List Char)}
    (path_eq : base.path = .rooted own) {rest : List Char}
    (unbroken : ∀ char ∈ rest, isBreak char = false)
    (single : ∀ char, rest.head? = some char → isSlash .web char = false) :
    base.join ('/' :: rest) =
      .ok (base.withSegments (UrlPath.resolve base.kind [] (parts (cleanEnd rest)).main)
        (parts ('/' :: cleanEnd rest))) := by
  rw [join_slash path_eq]
  refine resolve_single_slash (by rw [parts_cons (by decide) (by decide)]) fun char head => ?_
  obtain ⟨margin, rest_eq⟩ := cleanEnd_prefix unbroken
  refine single char ?_
  rw [← rest_eq, List.head?_append, head?_of_head?_main head]
  rfl

/-- Behind two slashes stands an authority: the reference is read as if it were a web URL that
lacks nothing but its scheme, and the base does not matter. -/
theorem join_double_slash {base url : Url} {own : List (List Char)}
    (path_eq : base.path = .rooted own) (scheme_eq : base.scheme = web) {second : Char}
    (slash : isSlash .web second = true) {more : List Char}
    (joined : base.join ('/' :: second :: more) = .ok url) :
    parse (web ++ ':' :: '/' :: second :: more) = .ok url := by
  have second_cases : second = '/' ∨ second = '\\' := by
    have kind_special : SchemeKind.isSpecial .web = true := by decide
    simpa [isSlash, kind_special] using slash
  have inner : isMargin second = false := by rcases second_cases with rfl | rfl <;> decide
  have no_query : second ≠ '?' := by rcases second_cases with rfl | rfl <;> decide
  have no_fragment : second ≠ '#' := by rcases second_cases with rfl | rfl <;> decide
  have first_slash : isSlash .web '/' = true := by decide
  rw [join_slash path_eq, cleanEnd_cons inner, parts_cons (by decide) (by decide),
    parts_cons no_query no_fragment] at joined
  rw [parse_web, cleanEnd_cons (by decide), cleanEnd_cons inner,
    parts_cons (by decide) (by decide), parts_cons no_query no_fragment]
  simp only [resolve, first_slash, slash, if_true, scheme_eq] at joined
  simp only [List.dropWhile_cons, first_slash, slash, if_true]
  rcases second_cases with rfl | rfl
  · simp only [and_self, if_true] at joined
    cases main_eq : (parts (cleanEnd more)).main with
    | nil => simpa [main_eq] using joined
    | cons third rest =>
      cases third_slash : isSlash .web third with
      | true =>
        -- A third slash would end the authority before it starts.
        rw [main_eq, readFromAuthority_web_empty (by simp [third_slash])] at joined
        cases joined
      | false => simpa [main_eq, third_slash] using joined
  · simpa using joined

end SignIn.Url
