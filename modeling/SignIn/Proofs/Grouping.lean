import Mathlib.Algebra.BigOperators.Group.List.Lemmas
import Mathlib.Algebra.Ring.Nat
import SignIn.Proofs.Headers
import SignIn.Proofs.LowerCase

/-!
# Lines grouped by name

The headers of a head against its lines: each line with a colon gives one value to one name, and a
name has the values of its lines in their order.  Nothing else decides whether a head can be read
than whether all its lines but the first one have a colon.
-/

namespace SignIn.Headers

/-! ## Lines -/

/-- The name in a line: the text before its first colon, trimmed and in lower case. -/
def nameIn (line : String) : String :=
  String.ofList (Text.toLower (Text.trim (line.toList.takeWhile (· != ':'))))

/-- The value in a line: the text behind its first colon, trimmed. -/
def valueIn (line : String) : String :=
  String.ofList (Text.trim ((line.toList.dropWhile (· != ':')).drop 1))

/-- The name and the value in a line. -/
def pairIn (line : String) : String × String := (nameIn line, valueIn line)

/-- The first line without a colon. -/
def unreadable? (lines : List String) : Option String :=
  lines.find? fun line => decide (':' ∉ line.toList)

theorem unreadable?_eq_none_iff {lines : List String} :
    unreadable? lines = none ↔ ∀ line ∈ lines, ':' ∈ line.toList := by
  simp [unreadable?]

/-- A line without a colon gives nothing. -/
theorem readLine?_eq (line : String) :
    readLine? line = if ':' ∈ line.toList then some (pairIn line) else none := by
  rw [readLine?]
  by_cases colon : ':' ∈ line.toList
  · rw [Text.splitOnce?_of_mem colon, if_pos colon]
    rfl
  · rw [Text.splitOnce?_eq_none_iff.2 colon, if_neg colon]
    rfl

theorem addLine_of_colon {line : String} (colon : ':' ∈ line.toList) (headers : Headers) :
    addLine headers line = .ok (headers.add (nameIn line) (valueIn line)) := by
  rw [addLine, readLine?_eq, if_pos colon]
  rfl

theorem filterMap_readLine? {lines : List String} (colons : ∀ line ∈ lines, ':' ∈ line.toList) :
    lines.filterMap readLine? = lines.map pairIn := by
  rw [← List.filterMap_eq_map]
  refine List.filterMap_congr fun line member => ?_
  rw [readLine?_eq, if_pos (colons line member)]
  rfl

/-- A head is read line by line, and the first line that cannot be read is named. -/
theorem ofHead_cons (first : String) (lines : List String) :
    ofHead (first :: lines) =
      match unreadable? lines with
      | some line => .error (.malformedMessage ("invalid header: " ++ line))
      | none => .ok (empty.addAll (lines.map pairIn)) := by
  have same_test : (fun line => (readLine? line).isNone) =
      fun line => decide (':' ∉ line.toList) := by
    funext line
    rw [readLine?_eq]
    by_cases colon : ':' ∈ line.toList <;> simp [colon]
  rw [ofHead, foldlM_addLine, same_test, ← unreadable?]
  cases found : unreadable? lines with
  | some line => rfl
  | none =>
    simp only [filterMap_readLine? (unreadable?_eq_none_iff.1 found)]

theorem ofHead_eq_error_iff {head : List String} {error : Error} :
    ofHead head = .error error ↔
      head = [] ∧ error = .malformedMessage "head must contain at least one line" ∨
      ∃ first lines line, head = first :: lines ∧ unreadable? lines = some line ∧
        error = .malformedMessage ("invalid header: " ++ line) := by
  cases head with
  | nil => simp [ofHead, eq_comm]
  | cons first lines =>
    rw [ofHead_cons]
    cases found : unreadable? lines with
    | none => simp [found]
    | some line => simp [found, eq_comm]

/-! ## Values -/

theorem valuesOf_map_pairIn (name : String) (lines : List String) :
    valuesOf name (lines.map pairIn) =
      (lines.filter fun line => nameIn line == name).map valueIn := by
  rw [valuesOf, List.filter_map, List.map_map]
  rfl

/-- No name is there without a value. -/
def Filled (headers : Headers) : Prop := ∀ name, headers.values.get? name ≠ some []

theorem Filled.add {headers : Headers} (filled : headers.Filled) (name value : String) :
    (headers.add name value).Filled := by
  intro key
  rw [Headers.add, Dictionary.get?_alter]
  by_cases same : name = key
  · simp [same]
  · rw [if_neg same]
    exact filled key

theorem Filled.addAll {headers : Headers} (filled : headers.Filled)
    (pairs : List (String × String)) : (headers.addAll pairs).Filled := by
  induction pairs generalizing headers with
  | nil => exact filled
  | cons pair pairs ih => exact ih (filled.add pair.1 pair.2)

/-- A name is there exactly if it has values. -/
theorem Filled.contains_iff {headers : Headers} (filled : headers.Filled) (name : String) :
    headers.contains name = true ↔ headers.get name ≠ [] := by
  rw [contains, Dictionary.contains, get]
  cases found : headers.values.get? (Text.lowerCase name) with
  | none => simp
  | some values =>
    have values_ne : values ≠ [] := by
      rintro rfl
      exact filled _ found
    simp [values_ne]

/-! ## Names -/

theorem lowerCase_nameIn (line : String) : Text.lowerCase (nameIn line) = nameIn line :=
  Text.lowerCase_ofList_toLower _

/-! ## Grouping -/

/-- Headers that are the groups of lines: a name has the values of its lines in their order, the
names are those of the lines, and no line is lost or counted twice. -/
structure Groups (headers : Headers) (lines : List String) : Prop where
  /-- A name is looked up in any case. -/
  get_eq : ∀ name, headers.get name =
    (lines.filter fun line => nameIn line == Text.lowerCase name).map valueIn
  /-- The names are listed in order, each once. -/
  names_ascending : headers.names.Pairwise (· < ·)
  /-- The names are those of the lines. -/
  mem_names_iff : ∀ name, name ∈ headers.names ↔ ∃ line ∈ lines, nameIn line = name
  /-- A name is there exactly if it has values. -/
  contains_iff : ∀ name, headers.contains name = true ↔ headers.get name ≠ []
  /-- There are as many values as lines. -/
  total : (headers.names.map fun name => (headers.get name).length).sum = lines.length

/-- Every line is counted for one name. -/
theorem sum_lengths {names : List String} (distinct : names.Nodup) {lines : List String}
    (listed : ∀ name, name ∈ names ↔ name ∈ lines.map nameIn) :
    (names.map fun name => (lines.filter fun line => nameIn line == name).length).sum =
      lines.length := by
  have counted : ∀ name, (lines.filter fun line => nameIn line == name).length =
      (lines.map nameIn).count name := by
    intro name
    rw [List.count, List.countP_map, List.countP_eq_length_filter]
    rfl
  have rearranged : names.Perm (lines.map nameIn).dedup :=
    (List.perm_ext_iff_of_nodup distinct (List.nodup_dedup _)).2 fun name =>
      (listed name).trans List.mem_dedup.symm
  simp only [counted]
  rw [(rearranged.map _).sum_eq, List.sum_map_count_dedup_eq_length, List.length_map]

theorem groups_addAll (lines : List String) :
    (empty.addAll (lines.map pairIn)).Groups lines := by
  have get_eq : ∀ name, (empty.addAll (lines.map pairIn)).get name =
      (lines.filter fun line => nameIn line == Text.lowerCase name).map valueIn := by
    intro name
    rw [get, getD_addAll, valuesOf_map_pairIn]
    simp [empty]
  have listed : ∀ name, name ∈ (empty.addAll (lines.map pairIn)).names ↔
      name ∈ lines.map nameIn := by
    intro name
    rw [mem_names_addAll_empty, List.map_map]
    rfl
  have filled : empty.Filled := by simp [Filled, empty]
  refine ⟨get_eq, Dictionary.keys_ascending _, fun name => (listed name).trans List.mem_map,
    (filled.addAll _).contains_iff, ?_⟩
  refine Eq.trans ?_ (sum_lengths (Dictionary.keys_nodup _) listed)
  -- The listed names are looked up as they are, since lower case stays lower case.
  refine congrArg List.sum (List.map_congr_left fun name member => ?_)
  obtain ⟨line, -, rfl⟩ := List.mem_map.1 ((listed name).1 member)
  rw [get_eq, lowerCase_nameIn, List.length_map]

/-! ## Order of lines -/

theorem add_comm (headers : Headers) {name other : String} (differ : name ≠ other)
    (value last : String) :
    (headers.add name value).add other last = (headers.add other last).add name value :=
  congrArg Headers.mk (headers.values.alter_comm differ _ _)

/-- Two lines next to each other can change places if their names differ. -/
theorem ofHead_swap (first : String) (front back : List String) {one other : String}
    (colon : ':' ∈ one.toList) (other_colon : ':' ∈ other.toList)
    (differ : nameIn one ≠ nameIn other) :
    ofHead (first :: (front ++ one :: other :: back)) =
      ofHead (first :: (front ++ other :: one :: back)) := by
  have added (headers : Headers) : (one :: other :: back).foldlM addLine headers =
      (other :: one :: back).foldlM addLine headers := by
    simp only [List.foldlM_cons, addLine_of_colon colon,
      addLine_of_colon other_colon]
    exact congrArg (back.foldlM addLine) (headers.add_comm differ _ _)
  simp only [ofHead, List.foldlM_append, added]

/-- A head can be read exactly if it has a first line, at which nobody looks, and each of its other
lines has a colon; else the error says that it is empty, or shows the first line without a colon.
The headers that are read are the groups of the lines, and lines of different names that stand next
to each other can change places. -/
theorem head_is_grouped :
    (∀ head error, ofHead head = .error error ↔
      head = [] ∧ error = .malformedMessage "head must contain at least one line" ∨
      ∃ first lines line, head = first :: lines ∧
        lines.find? (fun other => decide (':' ∉ other.toList)) = some line ∧
        error = .malformedMessage ("invalid header: " ++ line)) ∧
    (∀ first other lines, ofHead (first :: lines) = ofHead (other :: lines)) ∧
    (∀ first lines, (∀ line ∈ lines, ':' ∈ line.toList) →
      ∃ headers, ofHead (first :: lines) = .ok headers ∧ headers.Groups lines) ∧
    ∀ first front back one other, ':' ∈ one.toList → ':' ∈ other.toList →
      nameIn one ≠ nameIn other →
        ofHead (first :: (front ++ one :: other :: back)) =
          ofHead (first :: (front ++ other :: one :: back)) := by
  refine ⟨fun head error => ofHead_eq_error_iff, fun first other lines => rfl,
    fun first lines colons => ⟨_, ?_, groups_addAll lines⟩,
    fun first front back one other => ofHead_swap first front back⟩
  rw [ofHead_cons, unreadable?_eq_none_iff.2 colons]

/-- Names in several cases, with a sigma at the end, and empty; values with colons, and empty. -/
theorem head_is_grouped_odd :
    let lines := ["Set-Cookie: a=1:2 ", " ΟΔΟΣ\t:x", ": nameless", "SET-COOKIE:", "οδος: y"]
    ∃ headers, ofHead ("GET / HTTP/1.1" :: lines) = .ok headers ∧
      headers.get "set-cookie" = ["a=1:2", ""] ∧ headers.get "ΟΔΟΣ" = ["x", "y"] ∧
      headers.get "" = ["nameless"] ∧
      ofHead ["GET / HTTP/1.1", "Host: a", "b: c"] =
        ofHead ["GET / HTTP/1.1", "b: c", "Host: a"] := by
  intro lines
  obtain ⟨-, -, groups, swap⟩ := head_is_grouped
  obtain ⟨headers, read_eq, grouped⟩ := groups "GET / HTTP/1.1" lines (by decide)
  refine ⟨headers, read_eq, ?_, ?_, ?_, ?_⟩
  · rw [grouped.get_eq]
    decide +kernel
  · rw [grouped.get_eq]
    decide +kernel
  · rw [grouped.get_eq]
    decide +kernel
  · exact swap "GET / HTTP/1.1" [] [] "Host: a" "b: c" (by decide) (by decide) (by decide)

end SignIn.Headers
