import Mathlib.Data.List.TakeWhile
import SignIn.Http.Target
import SignIn.Proofs.Url.WellFormed

/-!
# URLs as request targets

When the text of a URL is a request target, and that the target then has the scheme, the authority,
the path and the query of the URL.
-/

namespace SignIn.Url

open Http (Target)

/-! ## Schemes -/

/-- The text behind two slashes. -/
def behindSlashes? : List Char → Option (List Char)
  | '/' :: '/' :: rest => some rest
  | _ => none

theorem behindSlashes?_eq_some_iff {text rest : List Char} :
    behindSlashes? text = some rest ↔ text = '/' :: '/' :: rest := by
  unfold behindSlashes?
  split
  · simp
  · rename_i other
    simpa using other rest

theorem toLower_eq_slash_iff {char : Char} : char.toLower = '/' ↔ char = '/' := by
  cases upper : char.isUpper with
  | true =>
    obtain ⟨index, rfl⟩ := Text.eq_ofNat_of_isUpper upper
    revert index
    decide
  | false => rw [Text.toLower_of_not_isUpper upper]

theorem IsScheme.no_colon {scheme : List Char} (is_scheme : IsScheme scheme) : ':' ∉ scheme :=
  fun member => absurd (is_scheme.inner ':' member) (by decide)

/-- A scheme that is known by name is found where it is the scheme of a URL. -/
theorem afterKnown?_eq {known scheme : List Char} (is_known : IsScheme known)
    (is_scheme : IsScheme scheme) (tail : List Char) :
    Target.afterKnown? known (scheme ++ ':' :: tail) =
      if scheme = known then behindSlashes? tail else none := by
  unfold Target.afterKnown?
  dsimp only
  by_cases same : scheme = known
  · subst same
    simp only [if_pos, List.length_append, List.take_length_add_append, List.map_append,
      is_scheme.lower, List.append_cancel_left_eq, List.drop_length_add_append]
    cases tail with
    | nil => rfl
    | cons first tail =>
      cases tail with
      | nil => simp [behindSlashes?]
      | cons second rest =>
        by_cases slashes : first = '/' ∧ second = '/'
        · obtain ⟨rfl, rfl⟩ := slashes
          rfl
        · have other : behindSlashes? (first :: second :: rest) = none := by
            rw [Option.eq_none_iff_forall_ne_some]
            intro found found_eq
            rw [behindSlashes?_eq_some_iff, List.cons.injEq, List.cons.injEq] at found_eq
            exact slashes ⟨found_eq.1, found_eq.2.1⟩
          rw [other, if_neg]
          simpa [toLower_eq_slash_iff] using slashes
  · rw [if_neg same, if_neg]
    intro started
    -- The first colon ends the scheme of the URL as well as the known one.
    have whole : ∃ rest, scheme ++ ':' :: tail.map Char.toLower = known ++ ':' :: rest := by
      have text_eq := congrArg (List.map Char.toLower)
        (List.take_append_drop (known ++ [':', '/', '/']).length (scheme ++ ':' :: tail))
      rw [List.map_append, started, List.map_append, is_scheme.lower, List.append_assoc] at text_eq
      exact ⟨_, text_eq.symm⟩
    obtain ⟨rest, whole⟩ := whole
    have parts := congrArg (Text.splitOnce? ':') whole
    rw [Text.splitOnce?_of_not_mem is_scheme.no_colon,
      Text.splitOnce?_of_not_mem is_known.no_colon] at parts
    exact same (Prod.mk.inj (Option.some.inj parts)).1

/-- The scheme of a URL is found if two slashes follow, unless it is too long. -/
theorem splitScheme_eq {scheme : List Char} (is_scheme : IsScheme scheme) (tail : List Char) :
    Target.splitScheme (scheme ++ ':' :: tail) =
      match behindSlashes? tail with
      | none => .ok none
      | some rest =>
        if Target.longestScheme < scheme.length then .error .schemeLength
        else .ok (some (scheme, rest)) := by
  have is_web : IsScheme "http".toList := ⟨by decide, List.all_eq_true.1 rfl, rfl⟩
  have is_secure : IsScheme "https".toList := ⟨by decide, List.all_eq_true.1 rfl, rfl⟩
  have kept : ∀ char ∈ scheme, Target.inScheme char = true := by
    intro char member
    have inside := is_scheme.inner char member
    unfold inScheme at inside
    rw [Target.inScheme, inside, Bool.true_or]
  obtain ⟨taken, dropped⟩ := @Text.cut_append _ _ scheme (':' :: tail) kept (by
    rintro char ⟨⟩
    rfl)
  unfold Target.splitScheme
  dsimp only
  rw [afterKnown?_eq is_web is_scheme, afterKnown?_eq is_secure is_scheme, taken, dropped]
  cases slashes : behindSlashes? tail with
  | none =>
    simp only [ite_self]
    split
    · rename_i rest tail_eq
      rw [(List.cons.inj tail_eq).2, behindSlashes?] at slashes
      cases slashes
    · rfl
  | some rest =>
    obtain rfl := behindSlashes?_eq_some_iff.1 slashes
    by_cases web : scheme = "http".toList
    · subst web
      simp [Target.longestScheme]
    · by_cases secure : scheme = "https".toList
      · subst secure
        simp [Target.longestScheme]
      · have long : ¬(scheme ++ ':' :: '/' :: '/' :: rest).length ≤ 3 := by
          have filled := List.length_pos_iff.2 is_scheme.ne_nil
          rw [List.length_append, List.length_cons, List.length_cons, List.length_cons]
          omega
        simp only [if_neg web, if_neg secure, if_neg long]

/-- Behind the scheme of a URL stands an authority, or else there is none. -/
theorem read_scheme {scheme : List Char} (is_scheme : IsScheme scheme) (tail : List Char) :
    Target.read (scheme ++ ':' :: tail) =
      if Target.longest < (Utf8.encode (scheme ++ ':' :: tail)).length then .error .length
      else
        match behindSlashes? tail with
        | none => Target.readAuthority (scheme ++ ':' :: tail) .format
        | some rest =>
          if Target.longestScheme < scheme.length then .error .schemeLength
          else Target.readAbsolute scheme rest := by
  obtain ⟨first, others, scheme_eq⟩ := List.exists_cons_of_ne_nil is_scheme.ne_nil
  have no_slash : first ≠ '/' := by
    rintro rfl
    exact absurd (is_scheme.inner '/' (scheme_eq ▸ List.mem_cons_self)) (by decide)
  unfold Target.read
  split
  · rfl
  · split
    · rename_i empty
      simp at empty
    · rename_i star
      rw [scheme_eq] at star
      simp at star
    · rename_i start
      rw [scheme_eq] at start
      exact absurd (List.cons.inj start).1 no_slash
    · rename_i single
      rw [scheme_eq] at single
      simp at single
    · rw [splitScheme_eq is_scheme]
      cases behindSlashes? tail with
      | none => rfl
      | some rest =>
        by_cases long : Target.longestScheme < scheme.length
        · simp only [if_pos long]
        · simp only [if_neg long]

/-- A text with a stop is no authority. -/
theorem readAuthority_of_stop {text : List Char} {stop : Char} (member : stop ∈ text)
    (is_stop : isStop stop = true) (otherwise : Http.TargetFault) (target : Target) :
    Target.readAuthority text otherwise ≠ .ok target := by
  intro read_eq
  unfold Target.readAuthority at read_eq
  split at read_eq
  · cases read_eq
  · rename_i authority split_eq
    unfold Target.splitAuthority at split_eq
    dsimp only at split_eq
    split at split_eq
    · cases split_eq
    · have none_left := (Prod.mk.inj (Except.ok.inj split_eq)).2
      have inside := List.dropWhile_eq_nil_iff.1 none_left stop member
      unfold isStop at is_stop
      rw [is_stop] at inside
      cases inside
  · cases read_eq

/-- The authority of a target ends in front of the first stop. -/
theorem splitAuthority_append {front back : List Char} (piece : IsPiece front)
    (ended : ∀ char, back.head? = some char → isStop char = true) :
    Target.splitAuthority (front ++ back) =
      match Target.checkAuthority front with
      | .error fault => .error fault
      | .ok () => .ok (front, back) := by
  obtain ⟨taken, dropped⟩ := @Text.cut_append _ (fun char => !isStop char) front back
    (fun char member => by simp [piece char member]) (fun char head => by simp [ended char head])
  unfold isStop at taken dropped
  unfold Target.splitAuthority
  dsimp only
  cases checked : Target.checkAuthority front with
  | error fault => simp only [taken, checked]
  | ok => simp only [taken, dropped, checked]

/-- Behind a scheme an authority is needed, and behind it a path and a query. -/
theorem readAbsolute_eq_ok_iff {scheme front back : List Char} {target : Target}
    (piece : IsPiece front) (ended : ∀ char, back.head? = some char → isStop char = true) :
    Target.readAbsolute scheme (front ++ back) = .ok target ↔
      front ≠ [] ∧ Target.checkAuthority front = .ok () ∧
        ∃ path query, Target.readPath back = .ok (path, query) ∧
          target = ⟨some scheme, front, path, query⟩ := by
  unfold Target.readAbsolute
  rw [splitAuthority_append piece ended]
  cases front with
  | nil =>
    split
    · simp
    · cases Target.checkAuthority [] <;> simp
  | cons first front =>
    rw [if_neg (by simp)]
    cases checked : Target.checkAuthority (first :: front) with
    | error fault => simp
    | ok =>
      cases read_eq : Target.readPath back with
      | error fault => simp [read_eq]
      | ok found =>
        obtain ⟨path, query⟩ := found
        simp only [read_eq]
        constructor
        · rintro ⟨⟩
          exact ⟨by simp, trivial, path, query, rfl, rfl⟩
        · rintro ⟨-, -, _, _, ⟨⟩, rfl⟩
          rfl

/-! ## Parts -/

/-- What stands behind the authority of a URL. -/
def tail (url : Url) : List Char :=
  url.path.text ++ marked '?' url.query ++ marked '#' url.fragment

theorem chars_eq (url : Url) : url.chars = url.scheme ++ ':' :: (url.place ++ url.tail) := by
  simp [chars, tail]

theorem head?_marked {sign char : Char} {part : Option (List Char)}
    (head : (marked sign part).head? = some char) : char = sign := by
  cases part with
  | none => cases head
  | some part => exact (Option.some.inj head).symm

/-- What stands behind the segments of a URL starts with a mark. -/
theorem head?_marks {url : Url} {char : Char}
    (head : (marked '?' url.query ++ marked '#' url.fragment).head? = some char) :
    char = '?' ∨ char = '#' := by
  rw [List.head?_append, Option.or_eq_some_iff] at head
  rcases head with query | ⟨-, fragment⟩
  · exact .inl (head?_marked query)
  · exact .inr (head?_marked fragment)

theorem head?_tail {url : Url} {own : List (List Char)} (path_eq : url.path = .rooted own)
    {char : Char} (head : url.tail.head? = some char) : isStop char = true := by
  rw [tail, List.append_assoc, path_eq] at head
  cases own with
  | nil =>
    rcases head?_marks head with rfl | rfl <;> rfl
  | cons segment own =>
    obtain rfl : char = '/' := (Option.some.inj head).symm
    rfl

theorem WellFormed.no_mark {url : Url} (formed : url.WellFormed) {own : List (List Char)}
    (path_eq : url.path = .rooted own) {char : Char} (member : char ∈ url.path.text) :
    char ≠ '?' ∧ char ≠ '#' := by
  rw [path_eq] at member
  obtain ⟨segment, inside, char_inside⟩ := List.mem_flatMap.1 member
  rcases List.mem_cons.1 char_inside with rfl | later
  · decide
  · have inner := formed.segments_piece own path_eq segment inside char later
    constructor
    · rintro rfl
      cases inner
    · rintro rfl
      cases inner

/-- Without an authority no two slashes follow the scheme. -/
theorem WellFormed.no_slashes {url : Url} (formed : url.WellFormed) {own : List (List Char)}
    (path_eq : url.path = .rooted own) (no_authority : url.authority = none) :
    behindSlashes? (url.place ++ url.tail) = none ∧ '/' ∈ url.place ++ url.tail := by
  obtain ⟨own_ne, shield⟩ := formed.apart no_authority own path_eq
  obtain ⟨first, others, rfl⟩ := List.exists_cons_of_ne_nil own_ne
  have tail_eq : url.tail = '/' :: (first ++ (UrlPath.text (.rooted others) ++
      marked '?' url.query ++ marked '#' url.fragment)) := by
    simp [tail, path_eq, UrlPath.text]
  refine ⟨?_, by simp [tail_eq]⟩
  rw [Option.eq_none_iff_forall_ne_some]
  intro rest slashes
  rw [behindSlashes?_eq_some_iff] at slashes
  simp only [place, no_authority] at slashes
  split at slashes
  · simp at slashes
  · rename_i unshielded
    rw [List.nil_append, tail_eq, List.cons.injEq] at slashes
    -- The second slash would stand in the first segment, or that is empty and more follow.
    cases first with
    | cons char first =>
      have inner := formed.segments_piece _ path_eq _ List.mem_cons_self char List.mem_cons_self
      rw [(List.cons.inj slashes.2).1] at inner
      cases inner
    | nil =>
      cases others with
      | nil =>
        have head := head?_marks (congrArg List.head? slashes.2)
        simp at head
      | cons second others => exact unshielded (shield rfl)

/-- What a request target asks of the parts of a URL. -/
structure CanBeTarget (url : Url) (authority : Authority) : Prop where
  /-- The scheme is not too long. -/
  scheme : url.scheme.length ≤ Target.longestScheme
  /-- Someone is asked. -/
  authority_ne : authority.text ≠ []
  /-- Whoever is asked can be asked. -/
  authority_ok : Target.checkAuthority authority.text = .ok ()
  /-- What is asked for is a path. -/
  path : url.path.text.all Target.inPath = true
  /-- All characters of the query can stand in one. -/
  query : ∀ query, url.query = some query → query.all Target.inQuery = true

/-- The path and the query of a URL are read as they are, and the fragment is forgotten. -/
theorem WellFormed.readPath_tail {url : Url} (formed : url.WellFormed) {own : List (List Char)}
    (path_eq : url.path = .rooted own) {found : List Char × Option (List Char)} :
    Target.readPath url.tail = .ok found ↔
      url.path.text.all Target.inPath = true ∧
        (∀ query, url.query = some query → query.all Target.inQuery = true) ∧
          found = (url.path.text, url.query) := by
  obtain ⟨taken, dropped⟩ := @Text.cut_append _ (fun char => !(char == '?' || char == '#'))
    url.path.text (marked '?' url.query ++ marked '#' url.fragment)
    (fun char member => by simp [formed.no_mark path_eq member])
    (fun char head => by rcases head?_marks head with rfl | rfl <;> rfl)
  unfold Target.readPath
  dsimp only
  rw [tail, List.append_assoc, taken, dropped]
  by_cases plain : url.path.text.all Target.inPath = true
  · rw [if_pos plain]
    cases query_eq : url.query with
    | none =>
      simp only [marked, List.nil_append]
      cases url.fragment with
      | none => simp [plain, @eq_comm _ found]
      | some fragment => simp [plain, @eq_comm _ found]
    | some query =>
      obtain ⟨query_taken, -⟩ := @Text.cut_append _ (fun char => char != '#') query
        (marked '#' url.fragment)
        (fun char member => by
          have other : char ≠ '#' := by
            rintro rfl
            exact formed.query_inner query query_eq member
          simpa using other)
        (fun char head => by simp [head?_marked head])
      rw [show marked '?' (some query) = '?' :: query from rfl, List.cons_append]
      simp only [query_taken]
      by_cases allowed : query.all Target.inQuery = true
      · rw [if_pos allowed]
        simp only [plain, Option.some.injEq, forall_eq', allowed, true_and, Except.ok.injEq]
        exact eq_comm
      · rw [if_neg allowed]
        simp only [Option.some.injEq, forall_eq', allowed, false_and, and_false, reduceCtorEq]
  · rw [if_neg plain]
    simp [plain]

/-- The text of a URL is a request target exactly if it is not too long and its parts can stand in
one; the target has the same parts. -/
theorem WellFormed.read_chars_eq_ok_iff {url : Url} (formed : url.WellFormed)
    {own : List (List Char)} (path_eq : url.path = .rooted own) {target : Target} :
    Target.read url.chars = .ok target ↔
      (Utf8.encode url.chars).length ≤ Target.longest ∧
        ∃ authority, url.authority = some authority ∧ url.CanBeTarget authority ∧
          target = ⟨some url.scheme, authority.text, url.path.text, url.query⟩ := by
  rw [chars_eq, read_scheme formed.scheme, ← chars_eq]
  by_cases long : Target.longest < (Utf8.encode url.chars).length
  · rw [if_pos long]
    simp only [reduceCtorEq, false_iff, not_and]
    exact fun short => absurd long (by omega)
  · rw [if_neg long]
    cases authority_eq : url.authority with
    | none =>
      obtain ⟨no_slashes, slash⟩ := formed.no_slashes path_eq authority_eq
      have member : '/' ∈ url.chars := by
        rw [chars_eq]
        exact List.mem_append_right _ (List.mem_cons_of_mem _ slash)
      simp only [no_slashes, readAuthority_of_stop member rfl, false_iff]
      simp
    | some authority =>
      have slashes : behindSlashes? (url.place ++ url.tail) =
          some (authority.text ++ url.tail) := by
        simp only [place, authority_eq, List.cons_append]
        rfl
      rw [slashes]
      dsimp only
      split
      · rename_i too_long
        simp only [reduceCtorEq, false_iff]
        rintro ⟨-, given, -, can, -⟩
        exact absurd can.scheme (by omega)
      · rename_i short
        rw [readAbsolute_eq_ok_iff (formed.authority_piece authority authority_eq)
          fun char => head?_tail path_eq]
        simp only [formed.readPath_tail path_eq]
        constructor
        · rintro ⟨authority_ne, authority_ok, path, query, ⟨plain, allowed, same⟩, rfl⟩
          obtain ⟨rfl, rfl⟩ := Prod.mk.inj same
          exact ⟨by omega, authority, rfl,
            ⟨by omega, authority_ne, authority_ok, plain, allowed⟩, rfl⟩
        · rintro ⟨-, _, ⟨⟩, can, rfl⟩
          exact ⟨can.authority_ne, can.authority_ok, _, _, ⟨can.path, can.query, rfl⟩, rfl⟩

/-! ## Named values -/

/-- A form can stand in the query of a target. -/
theorem inQuery_of_isLine {char : Char} (line : Form.isLine char = true) :
    Target.inQuery char = true := by
  obtain ⟨above, below⟩ := Form.isLine_bounds line
  have not_listed : ∀ number ∈ [0x22, 0x23, 0x3C, 0x3E], char.toNat ≠ number := by
    intro number member same
    have refused : ∀ number ∈ [0x22, 0x23, 0x3C, 0x3E],
        Form.isLine (Char.ofNat number) = false := by decide
    have spelled := refused number member
    rw [← same, Char.ofNat_toNat, line] at spelled
    cases spelled
  simp only [List.forall_mem_cons] at not_listed
  simp only [Target.inQuery, Bool.or_eq_true, Bool.and_eq_true, beq_iff_eq, decide_eq_true_eq]
  omega

/-- Whether a URL with a named value can be a target does not depend on the value. -/
theorem CanBeTarget.appendPair {url : Url} {authority : Authority} {name value : String}
    (can : (url.appendPair name value).CanBeTarget authority) (other : String) :
    (url.appendPair name other).CanBeTarget authority := by
  obtain ⟨front, appended⟩ := url.appendPair_eq name
  rw [appended] at can ⊢
  refine ⟨can.scheme, can.authority_ne, can.authority_ok, can.path, ?_⟩
  rintro _ ⟨⟩
  have allowed := can.query _ rfl
  rw [List.all_append, Bool.and_eq_true] at allowed ⊢
  refine ⟨allowed.1, List.all_eq_true.2 fun char member => ?_⟩
  exact inQuery_of_isLine (Form.isLine_of_mem_encodePair member)

end SignIn.Url
