import SignIn.Proofs.HeaderSources

/-!
# Letters in either case

Whether an ASCII letter is capital or small changes nothing about what stands around it: neither
which characters are blank or cased, nor whether a sigma is final.  So headers are found by names in
any case, wherever the letters stand, and a name that is listed is found as it is listed.
-/

namespace SignIn

universe u

namespace Text

/-! ## Characters -/

/-- What is the same for each capital letter and its small one does not depend on the case. -/
theorem toLower_congr {α : Type u} {property : Char → α}
    (letters : ∀ index : Fin 26,
      property (Char.ofNat (65 + index)).toLower = property (Char.ofNat (65 + index)))
    (char : Char) : property char.toLower = property char := by
  cases upper : char.isUpper with
  | true =>
    obtain ⟨index, rfl⟩ := eq_ofNat_of_isUpper upper
    exact letters index
  | false => rw [toLower_of_not_isUpper upper]

theorem isBlank_toLower (char : Char) : isBlank char.toLower = isBlank char :=
  toLower_congr (by decide) char

theorem lowerChar_toLower (char : Char) : lowerChar char.toLower = lowerChar char :=
  toLower_congr (by decide) char

theorem isCased_toLower (char : Char) : isCased char.toLower = isCased char :=
  toLower_congr (by decide +kernel) char

theorem isAlpha_toLower (char : Char) : char.toLower.isAlpha = char.isAlpha :=
  toLower_congr (by decide) char

/-- The ignorable characters lie before the capital letters, behind the small ones or between. -/
theorem not_isCaseIgnorable_of_isAlpha {char : Char} (letter : char.isAlpha = true) :
    isCaseIgnorable char = false := by
  have apart : caseIgnorableRanges.all (fun range => Nat.blt range.2 0x41 || Nat.blt 0x7A range.1 ||
      Nat.blt 0x5A range.1 && Nat.blt range.2 0x61) = true := by decide +kernel
  refine List.any_eq_false.2 fun range listed inside => ?_
  have placed := List.all_eq_true.1 apart range listed
  simp only [Bool.or_eq_true, Bool.and_eq_true, Nat.blt_eq, decide_eq_true_eq] at placed inside
  have bounds := isAlpha_bounds letter
  omega

theorem isCaseIgnorable_toLower (char : Char) :
    isCaseIgnorable char.toLower = isCaseIgnorable char := by
  cases letter : char.isAlpha with
  | true =>
    rw [not_isCaseIgnorable_of_isAlpha letter,
      not_isCaseIgnorable_of_isAlpha ((isAlpha_toLower char).trans letter)]
  | false => rw [toLower_of_not_isAlpha letter]

theorem toLower_eq_iff {char sign : Char} (no_letter : sign.isAlpha = false) :
    char.toLower = sign ↔ char = sign := by
  constructor
  · rintro rfl
    rw [isAlpha_toLower] at no_letter
    exact (toLower_of_not_isAlpha no_letter).symm
  · rintro rfl
    exact toLower_of_not_isAlpha no_letter

/-! ## Texts -/

theorem meetsCased_map_toLower (text : List Char) :
    meetsCased (text.map Char.toLower) = meetsCased text := by
  have ignorable : isCaseIgnorable ∘ Char.toLower = isCaseIgnorable :=
    funext isCaseIgnorable_toLower
  rw [meetsCased, List.dropWhile_map, ignorable, meetsCased]
  cases text.dropWhile isCaseIgnorable with
  | nil => rfl
  | cons char rest => exact isCased_toLower char

/-- A sigma is final in the same places, whatever the case of the letters around it. -/
theorem lowerFrom_map_toLower (passed text : List Char) :
    lowerFrom (passed.map Char.toLower) (text.map Char.toLower) = lowerFrom passed text := by
  induction text generalizing passed with
  | nil => rfl
  | cons char text ih =>
    have later := ih (char :: passed)
    have sigma_iff : char.toLower = 'Σ' ↔ char = 'Σ' := toLower_eq_iff rfl
    rw [List.map_cons] at later
    rw [List.map_cons, lowerFrom, lowerFrom, later, lowerChar_toLower, meetsCased_map_toLower,
      meetsCased_map_toLower]
    simp only [sigma_iff]

theorem toLower_map_toLower (text : List Char) : toLower (text.map Char.toLower) = toLower text :=
  lowerFrom_map_toLower [] text

theorem trimStart_map_toLower (text : List Char) :
    trimStart (text.map Char.toLower) = (trimStart text).map Char.toLower := by
  have blank : isBlank ∘ Char.toLower = isBlank := funext isBlank_toLower
  rw [trimStart, List.dropWhile_map, blank, trimStart]

theorem trim_map_toLower (text : List Char) :
    trim (text.map Char.toLower) = (trim text).map Char.toLower := by
  have backwards := trimStart_map_toLower (trimStart text).reverse
  rw [trim, trimStart_map_toLower, trimEnd, ← trimStart, ← List.map_reverse, backwards,
    ← List.map_reverse]
  rfl

/-- Two texts that differ at most in the case of ASCII letters. -/
def SameLetters (text other : List Char) : Prop :=
  text.map Char.toLower = other.map Char.toLower

instance (text other : List Char) : Decidable (SameLetters text other) :=
  inferInstanceAs (Decidable (_ = _))

theorem SameLetters.toLower_eq {text other : List Char} (same : SameLetters text other) :
    toLower text = toLower other := by
  rw [← toLower_map_toLower, same, toLower_map_toLower]

theorem SameLetters.lowerCase_eq {name other : String}
    (same : SameLetters name.toList other.toList) : lowerCase name = lowerCase other := by
  rw [lowerCase, same.toLower_eq, lowerCase]

theorem SameLetters.trim {text other : List Char} (same : SameLetters text other) :
    SameLetters (trim text) (trim other) := by
  rw [SameLetters, ← trim_map_toLower, same, trim_map_toLower]

end Text

namespace Headers

/-! ## Lines -/

/-- Two lines that differ at most in the case of ASCII letters in front of the first colon. -/
structure LineAlike (line other : String) : Prop where
  /-- The names differ in case only. -/
  name : Text.SameLetters (line.toList.takeWhile (· != ':')) (other.toList.takeWhile (· != ':'))
  /-- What follows from the colon on is the same. -/
  rest : line.toList.dropWhile (· != ':') = other.toList.dropWhile (· != ':')

theorem LineAlike.nameIn_eq {line other : String} (alike : LineAlike line other) :
    nameIn line = nameIn other :=
  congrArg String.ofList alike.name.trim.toLower_eq

theorem LineAlike.valueIn_eq {line other : String} (alike : LineAlike line other) :
    valueIn line = valueIn other := by
  rw [valueIn, alike.rest, valueIn]

/-- A line has a colon exactly if something is left from the first colon on. -/
theorem colon_mem_iff {line : String} :
    ':' ∈ line.toList ↔ line.toList.dropWhile (· != ':') ≠ [] := by
  rw [Ne, List.dropWhile_eq_nil_iff]
  simp

theorem LineAlike.readLine?_eq {line other : String} (alike : LineAlike line other) :
    readLine? line = readLine? other := by
  have colons : ':' ∈ line.toList ↔ ':' ∈ other.toList := by
    rw [colon_mem_iff, alike.rest, ← colon_mem_iff]
  have pairs : pairIn line = pairIn other := by
    rw [pairIn, alike.nameIn_eq, alike.valueIn_eq, pairIn]
  rw [Headers.readLine?_eq, Headers.readLine?_eq, pairs]
  exact if_congr colons rfl rfl

theorem addLine_alike {line other : String} (alike : LineAlike line other) {before after : Headers}
    (added : addLine before line = .ok after) : addLine before other = .ok after := by
  rw [addLine] at added
  rw [addLine, ← alike.readLine?_eq]
  cases found : readLine? line with
  | none =>
    rw [found] at added
    cases added
  | some pair => rwa [found] at added

/-- Lines that are alike add the same. -/
theorem foldlM_alike {lines others : List String} (alike : List.Forall₂ LineAlike lines others)
    {before after : Headers} (added : lines.foldlM addLine before = .ok after) :
    others.foldlM addLine before = .ok after := by
  induction alike generalizing before with
  | nil => exact added
  | @cons line other lines others first later ih =>
    rw [List.foldlM_cons] at added ⊢
    cases step : addLine before line with
    | error error =>
      rw [step] at added
      cases added
    | ok next =>
      rw [step] at added
      rw [addLine_alike first step]
      exact ih added

/-! ## Names -/

/-- Headers that have been read are the groups of their lines. -/
theorem groups_of_ofHead {head : List String} {headers : Headers}
    (read_eq : ofHead head = .ok headers) : ∃ first lines, head = first :: lines ∧
      headers.Groups lines := by
  cases head with
  | nil => cases read_eq
  | cons first lines =>
    rw [ofHead_cons] at read_eq
    split at read_eq
    · cases read_eq
    · cases read_eq
      exact ⟨first, lines, rfl, groups_addAll lines⟩

/-- A name that is listed is in lower case, and has values. -/
theorem Groups.get_ne_nil {headers : Headers} {lines : List String} (groups : headers.Groups lines)
    {name : String} (listed : name ∈ headers.names) :
    Text.lowerCase name = name ∧ headers.get name ≠ [] := by
  obtain ⟨line, member, rfl⟩ := (groups.mem_names_iff name).1 listed
  have kept : line ∈ lines.filter fun other =>
      nameIn other == Text.lowerCase (nameIn line) := by
    rw [List.mem_filter, lowerCase_nameIn, beq_self_eq_true]
    exact ⟨member, rfl⟩
  refine ⟨lowerCase_nameIn line, ?_⟩
  rw [groups.get_eq]
  exact List.ne_nil_of_mem (List.mem_map_of_mem kept)

/-- Headers are looked up by names in any case of their ASCII letters, in the message and through
everything that is wrapped around it, and lines can write their names in any case.  Every name that
is listed is found as it is listed. -/
theorem look_ups_ignore_case :
    (∀ name other, Text.SameLetters name.toList other.toList →
      (∀ headers : Headers, headers.get name = headers.get other ∧
        headers.contains name = headers.contains other) ∧
      ∀ source : Source, (source.header name).map FoundValues.values =
        (source.header other).map FoundValues.values) ∧
    (∀ first lines others headers, List.Forall₂ LineAlike lines others →
      ofHead (first :: lines) = .ok headers → ofHead (first :: others) = .ok headers) ∧
    ∀ head headers, ofHead head = .ok headers → ∀ name ∈ headers.names,
      Text.lowerCase name = name ∧ headers.get name ≠ [] ∧ headers.contains name = true := by
  refine ⟨fun name other same => ?_, fun first lines others headers alike => foldlM_alike alike,
    fun head headers read_eq name listed => ?_⟩
  · have get_eq (headers : Headers) : headers.get name = headers.get other := by
      rw [get, same.lowerCase_eq, get]
    refine ⟨fun headers => ⟨get_eq headers, ?_⟩, fun source => ?_⟩
    · rw [contains, same.lowerCase_eq, contains]
    · rw [source.header_eq, source.header_eq]
      cases source.innermost.headers with
      | error error => rfl
      | ok headers => exact congrArg Except.ok (get_eq headers)
  · obtain ⟨first, lines, -, groups⟩ := groups_of_ofHead read_eq
    obtain ⟨settled, filled⟩ := groups.get_ne_nil listed
    exact ⟨settled, filled, (groups.contains_iff name).2 filled⟩

/-- Sigmas next to letters in either case: between two of them, and behind the last. -/
theorem look_ups_ignore_case_sigma :
    ∃ headers, ofHead ["GET / HTTP/1.1", "Trace-aΣBΣ: 1", "K: 2"] = .ok headers ∧
      ofHead ["GET / HTTP/1.1", "tRACE-AΣbΣ: 1", "k: 2"] = .ok headers ∧
      headers.get "TRACE-AΣBΣ" = headers.get "trace-aΣbΣ" ∧
      "trace-aσbς" ∈ headers.names ∧ headers.get "trace-aσbς" ≠ [] := by
  obtain ⟨any_name, any_line, listed⟩ := look_ups_ignore_case
  have read_eq : ∃ headers, ofHead ["GET / HTTP/1.1", "Trace-aΣBΣ: 1", "K: 2"] = .ok headers ∧
      "trace-aσbς" ∈ headers.names := ⟨_, rfl, by decide +kernel⟩
  obtain ⟨headers, read_eq, member⟩ := read_eq
  have alike : List.Forall₂ LineAlike ["Trace-aΣBΣ: 1", "K: 2"] ["tRACE-AΣbΣ: 1", "k: 2"] :=
    .cons ⟨by decide, by decide⟩ (.cons ⟨by decide, by decide⟩ .nil)
  refine ⟨headers, read_eq, any_line _ _ _ headers alike read_eq,
    ((any_name "TRACE-AΣBΣ" "trace-aΣbΣ" (by decide)).1 headers).1, member, ?_⟩
  exact (listed _ headers read_eq _ member).2.1

end Headers

end SignIn
