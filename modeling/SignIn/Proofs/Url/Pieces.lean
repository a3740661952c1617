import Mathlib.Data.List.TakeWhile
import SignIn.Proofs.Except
import SignIn.Proofs.Url.Form
import SignIn.Url.Parse

/-!
# Pieces of URLs

No authority that is read and no segment has a character in it that would end it: whatever would is
written with a percent sign or refused.
-/

namespace SignIn.Url

/-! ## Pieces -/

/-- Whether a character ends an authority or a segment. -/
def isStop (char : Char) : Bool := char == '/' || char == '?' || char == '#'

theorem isStop_iff {char : Char} : isStop char = true ↔ char = '/' ∨ char = '?' ∨ char = '#' := by
  simp [isStop, or_assoc]

/-- A text in which nothing ends. -/
def IsPiece (text : List Char) : Prop := ∀ char ∈ text, isStop char = false

theorem isPiece_nil : IsPiece [] := by simp [IsPiece]

theorem IsPiece.append {front back : List Char} (left : IsPiece front) (right : IsPiece back) :
    IsPiece (front ++ back) := List.forall_mem_append.2 ⟨left, right⟩

theorem IsPiece.cons {char : Char} {text : List Char} (inner : isStop char = false)
    (rest : IsPiece text) : IsPiece (char :: text) := List.forall_mem_cons.2 ⟨inner, rest⟩

theorem IsPiece.take {text : List Char} (piece : IsPiece text) (count : Nat) :
    IsPiece (text.take count) := fun char member => piece char (List.mem_of_mem_take member)

theorem IsPiece.intercalate {separator : List Char} {texts : List (List Char)}
    (inner : IsPiece separator) (pieces : ∀ text ∈ texts, IsPiece text) :
    IsPiece (List.intercalate separator texts) := by
  induction texts with
  | nil => exact isPiece_nil
  | cons text texts ih =>
    obtain ⟨first, later⟩ := List.forall_mem_cons.1 pieces
    cases texts with
    | nil => rwa [List.intercalate_singleton]
    | cons second texts =>
      rw [List.intercalate_cons_cons]
      exact (first.append inner).append (ih later)

theorem isStop_of_isAlphanum {char : Char} (alphanumeric : char.isAlphanum = true) :
    isStop char = false := by
  refine Bool.eq_false_iff.2 fun stop => ?_
  rcases isStop_iff.1 stop with rfl | rfl | rfl <;> exact absurd alphanumeric (by decide)

/-- Nothing ends in an encoded text if all that would is encoded. -/
theorem isPiece_encode {encoded : Char → Bool} {text : List Char}
    (guarded : ∀ char ∈ text, isStop char = true → encoded char = true) :
    IsPiece (Percent.encode encoded text) := by
  intro char member
  rcases Percent.mem_encode member with ⟨kept, plain⟩ | rfl | alphanumeric
  · by_contra stop
    rw [guarded char kept (by simpa using stop)] at plain
    cases plain
  · rfl
  · exact isStop_of_isAlphanum alphanumeric

theorem mem_toDigits {base number : Nat} {char : Char} (member : char ∈ Nat.toDigits base number) :
    ∃ digit, char = Nat.digitChar digit := by
  have core : ∀ fuel number digits, char ∈ Nat.toDigitsCore base fuel number digits →
      char ∈ digits ∨ ∃ digit, char = Nat.digitChar digit := by
    intro fuel
    induction fuel with
    | zero => exact fun _ _ found => .inl found
    | succ fuel ih =>
      intro number digits found
      rw [Nat.toDigitsCore] at found
      have front : char ∈ Nat.digitChar (number % base) :: digits →
          char ∈ digits ∨ ∃ digit, char = Nat.digitChar digit := by
        intro inside
        rcases List.mem_cons.1 inside with rfl | later
        · exact .inr ⟨_, rfl⟩
        · exact .inl later
      split at found
      · exact front found
      · rcases ih _ _ found with inside | digit
        · exact front inside
        · exact .inr digit
  exact (core _ _ _ member).resolve_left (by simp)

theorem isPiece_toDigits (base number : Nat) : IsPiece (Nat.toDigits base number) := by
  intro char member
  obtain ⟨digit, rfl⟩ := mem_toDigits member
  grind [isStop, Nat.digitChar]

/-! ## Authorities -/

theorem isPiece_encode_inUserInfo (text : List Char) :
    IsPiece (Percent.encode Percent.inUserInfo text) := by
  refine isPiece_encode fun char _ stop => ?_
  rcases isStop_iff.1 stop with rfl | rfl | rfl <;> decide

theorem isPiece_ipv4 (address : Ipv4) : IsPiece address.text := by
  refine IsPiece.intercalate (isPiece_nil.cons rfl) fun text member => ?_
  obtain ⟨number, -, rfl⟩ := List.mem_map.1 member
  exact isPiece_toDigits 10 number

theorem isPiece_joinGroups (numbers : List Nat) : IsPiece (Ipv6.joinGroups numbers) := by
  refine IsPiece.intercalate (isPiece_nil.cons rfl) fun text member => ?_
  obtain ⟨number, -, rfl⟩ := List.mem_map.1 member
  exact isPiece_toDigits 16 number

theorem isPiece_ipv6 (address : Ipv6) : IsPiece address.text := by
  unfold Ipv6.text
  dsimp only
  split
  · exact isPiece_joinGroups _
  · exact ((isPiece_joinGroups _).append ((isPiece_nil.cons rfl).cons rfl)).append
      (isPiece_joinGroups _)

theorem isPiece_readBracketed {text : List Char} {host : Host}
    (read_eq : Host.readBracketed text = .ok host) : IsPiece host.text := by
  unfold Host.readBracketed at read_eq
  split at read_eq
  · split at read_eq
    · cases read_eq
      exact ((isPiece_ipv6 _).append (isPiece_nil.cons rfl)).cons rfl
    · cases read_eq
  · cases read_eq

theorem isPiece_toAscii? {text domain : List Char} (ascii_eq : Domain.toAscii? text = some domain) :
    IsPiece domain := by
  have allowed := (Option.filter_eq_some_iff.1 ascii_eq).2
  refine fun char member => Bool.eq_false_iff.2 fun stop => ?_
  have denied : Domain.isDenied char = true := by
    rcases isStop_iff.1 stop with rfl | rfl | rfl <;> decide
  rw [List.any_eq_true.2 ⟨char, member, denied⟩] at allowed
  cases allowed

theorem isPiece_read {text : List Char} {host : Host} (read_eq : Host.read text = .ok host) :
    IsPiece host.text := by
  unfold Host.read at read_eq
  split at read_eq
  · exact isPiece_readBracketed read_eq
  · split at read_eq
    · cases read_eq
    · cases read_eq
    · rename_i domain _ domain_eq
      obtain ⟨decoded, -, ascii_eq⟩ := Option.bind_eq_some_iff.1 domain_eq
      split at read_eq
      · split at read_eq
        · cases read_eq
          exact isPiece_ipv4 _
        · cases read_eq
      · cases read_eq
        exact isPiece_toAscii? ascii_eq

theorem isPiece_readPlain {text : List Char} {host : Host}
    (read_eq : Host.readPlain text = .ok (some host)) : IsPiece host.text := by
  unfold Host.readPlain at read_eq
  split at read_eq
  · cases read_eq
  · split at read_eq
    · obtain ⟨found, found_eq, same⟩ := map_eq_ok_iff.1 read_eq
      cases same
      exact isPiece_readBracketed found_eq
    · split at read_eq
      · cases read_eq
      · rename_i allowed
        cases read_eq
        refine isPiece_encode fun char member stop => absurd ?_ allowed
        refine List.any_eq_true.2 ⟨char, member, ?_⟩
        rcases isStop_iff.1 stop with rfl | rfl | rfl <;> decide

theorem isPiece_readHost {kind : SchemeKind} {text after : List Char} {host : Host}
    (read_eq : readHost kind text after = .ok (some host)) : IsPiece host.text := by
  unfold readHost at read_eq
  split at read_eq
  · split at read_eq
    · cases read_eq
    · split at read_eq <;> cases read_eq
    · rename_i found plain_eq
      cases read_eq
      exact isPiece_readPlain plain_eq
  · split at read_eq
    · cases read_eq
    · obtain ⟨found, found_eq, same⟩ := map_eq_ok_iff.1 read_eq
      cases same
      exact isPiece_read found_eq

/-- The name and the password are encoded. -/
theorem isPiece_readUser (text : List Char) :
    IsPiece (readUser text).1 ∧
      ∀ password, (readUser text).2 = some password → IsPiece password := by
  unfold readUser
  dsimp only
  split
  · exact ⟨isPiece_encode_inUserInfo _, by simp⟩
  · exact ⟨isPiece_encode_inUserInfo _, by simp⟩
  · refine ⟨isPiece_encode_inUserInfo _, fun password same => ?_⟩
    cases same
    exact isPiece_encode_inUserInfo _

/-- Nothing ends in an authority if nothing does in its parts. -/
theorem isPiece_authority {authority : Authority} (name : IsPiece authority.username)
    (password : ∀ given, authority.password = some given → IsPiece given)
    (host : ∀ given, authority.host = some given → IsPiece given.text) :
    IsPiece authority.text := by
  have user : IsPiece authority.userInfo := by
    unfold Authority.userInfo
    split
    · rename_i given given_eq
      exact name.append (((password given given_eq).append (isPiece_nil.cons rfl)).cons rfl)
    · split
      · exact isPiece_nil
      · exact name.append (isPiece_nil.cons rfl)
  have machine : IsPiece authority.hostText := by
    unfold Authority.hostText
    split
    · rename_i given given_eq
      exact host given given_eq
    · exact isPiece_nil
  have port : IsPiece authority.portText := by
    unfold Authority.portText
    split
    · exact (isPiece_toDigits 10 _).cons rfl
    · exact isPiece_nil
  exact (user.append machine).append port

theorem isPiece_readAuthority {scheme text rest : List Char} {ended : Bool}
    {authority : Authority} (read_eq : readAuthority scheme ended text = .ok (authority, rest)) :
    IsPiece authority.text := by
  unfold readAuthority at read_eq
  dsimp only at read_eq
  split at read_eq
  · cases read_eq
  · split at read_eq
    · cases read_eq
    · rename_i host host_eq
      split at read_eq
      · cases read_eq
      · split at read_eq
        · cases read_eq
        · cases read_eq
          obtain ⟨name, password⟩ := isPiece_readUser ((splitUser text).1.getD [])
          refine isPiece_authority name password fun given given_eq => ?_
          rw [show host = some given from given_eq] at host_eq
          exact isPiece_readHost host_eq

/-! ## Paths -/

theorem isPiece_settle {kind : SchemeKind} {before : List (List Char)} {segment : List Char}
    (piece : IsPiece segment) : IsPiece (UrlPath.settle kind before segment) := by
  unfold UrlPath.settle
  split
  · exact (piece.take 1).append (isPiece_nil.cons rfl)
  · exact piece

theorem parent_suffix (before : List (List Char)) : UrlPath.parent before <:+ before := by
  cases before with
  | nil => exact List.suffix_rfl
  | cons last before =>
    rw [UrlPath.parent]
    split
    · exact List.suffix_rfl
    · exact List.suffix_cons _ _

/-- The last segment comes behind those before it, or behind some of them. -/
theorem finish_eq (kind : SchemeKind) (before : List (List Char)) (segment : List Char) :
    ∃ last kept, UrlPath.finish kind before segment = last :: kept ∧ kept <:+ before ∧
      (IsPiece segment → IsPiece last) := by
  unfold UrlPath.finish
  split
  · exact ⟨_, _, rfl, parent_suffix before, fun _ => isPiece_nil⟩
  · split
    · exact ⟨_, _, rfl, List.suffix_rfl, fun _ => isPiece_nil⟩
    · exact ⟨_, _, rfl, List.suffix_rfl, isPiece_settle⟩

theorem isPiece_pass {kind : SchemeKind} {before : List (List Char)} {segment : List Char}
    (pieces : ∀ other ∈ before, IsPiece other) (piece : IsPiece segment) :
    ∀ other ∈ UrlPath.pass kind before segment, IsPiece other := by
  unfold UrlPath.pass
  split
  · exact fun other member => pieces other ((parent_suffix before).subset member)
  · split
    · exact pieces
    · exact List.forall_mem_cons.2 ⟨isPiece_settle piece, pieces⟩

theorem isPiece_walk {kind : SchemeKind} {before segments : List (List Char)}
    (pieces : ∀ other ∈ before, IsPiece other) (given : ∀ segment ∈ segments, IsPiece segment) :
    ∀ other ∈ UrlPath.walk kind before segments, IsPiece other := by
  fun_induction UrlPath.walk kind before segments with
  | case1 before => exact fun other member => pieces other (List.mem_reverse.1 member)
  | case2 before last =>
    obtain ⟨end_segment, kept, finished, suffix, piece⟩ := finish_eq kind before last
    rw [finished]
    intro other member
    rcases List.mem_cons.1 (List.mem_reverse.1 member) with rfl | inside
    · exact piece (given last List.mem_cons_self)
    · exact pieces other (suffix.subset inside)
  | case3 before segment segments _ ih =>
    obtain ⟨first, later⟩ := List.forall_mem_cons.1 given
    exact ih (isPiece_pass pieces first) later

/-- A walk leads somewhere. -/
theorem walk_ne_nil {kind : SchemeKind} {before segments : List (List Char)}
    (segments_ne : segments ≠ []) : UrlPath.walk kind before segments ≠ [] := by
  fun_induction UrlPath.walk kind before segments with
  | case1 before => exact absurd rfl segments_ne
  | case2 before last =>
    obtain ⟨end_segment, kept, finished, -, -⟩ := finish_eq kind before last
    simp [finished]
  | case3 before segment segments further ih =>
    exact ih further

theorem isPiece_resolve {kind : SchemeKind} {before : List (List Char)} {text : List Char}
    (pieces : ∀ other ∈ before, IsPiece other) :
    ∀ segment ∈ UrlPath.resolve kind before text, IsPiece segment := by
  refine isPiece_walk pieces fun segment member => ?_
  obtain ⟨piece, inside, rfl⟩ := List.mem_map.1 member
  refine isPiece_encode fun char char_inside stop => ?_
  rcases isStop_iff.1 stop with rfl | rfl | rfl
  · exact absurd char_inside (Text.not_mem_of_mem_splitAll inside)
  · rfl
  · rfl

theorem resolve_ne_nil (kind : SchemeKind) (before : List (List Char)) (text : List Char) :
    UrlPath.resolve kind before text ≠ [] := by
  refine walk_ne_nil fun empty => ?_
  rw [List.map_eq_nil_iff] at empty
  exact Text.splitAll_ne_nil _ _ empty

theorem collapse_eq (segments : List (List Char)) :
    UrlPath.collapse segments = [[]] ∨ UrlPath.collapse segments <:+ segments ∧
      ∃ first rest, UrlPath.collapse segments = first :: rest ∧ first ≠ [] := by
  unfold UrlPath.collapse
  split
  · exact .inl rfl
  · rename_i further
    cases kept_eq : segments.dropWhile List.isEmpty with
    | nil => exact absurd kept_eq further
    | cons first rest =>
      have filled := List.head?_dropWhile_not List.isEmpty segments
      rw [kept_eq] at filled
      refine .inr ⟨kept_eq ▸ List.dropWhile_suffix _, first, rest, rfl, ?_⟩
      simpa using filled

theorem isPiece_collapse {segments : List (List Char)}
    (pieces : ∀ segment ∈ segments, IsPiece segment) :
    ∀ segment ∈ UrlPath.collapse segments, IsPiece segment := by
  intro segment member
  rcases collapse_eq segments with alone | ⟨suffix, -⟩
  · rw [alone, List.mem_singleton] at member
    exact member ▸ isPiece_nil
  · exact pieces segment (suffix.subset member)

end SignIn.Url
