import SignIn.Proofs.Grouping
import SignIn.Source

/-!
# Look-ups tell the same

However a message is wrapped, every look-up comes to what its own head says: all of them fail alike
if it cannot be read, and otherwise they agree on the values of a name, and on what there is if it
has none.
-/

namespace SignIn

/-! ## The innermost message -/

mutual

/-- The message inside all wrappers. -/
def Carrier.innermost : Carrier → Message
  | .plain message => message
  | .reference carrier => carrier.innermost
  | .boxed carrier => carrier.innermost
  | .source source => source.innermost

/-- The message inside all wrappers. -/
def Source.innermost : Source → Message
  | .index carrier => carrier.innermost
  | .facade origin => origin.innermost

end

mutual

/-- Every wrapper hands on head and body of the innermost message. -/
theorem Carrier.head_body_eq (carrier : Carrier) :
    carrier.head = carrier.innermost.head ∧ carrier.body = carrier.innermost.body := by
  cases carrier with
  | plain message => exact ⟨rfl, rfl⟩
  | reference carrier => exact carrier.head_body_eq
  | boxed carrier => exact carrier.head_body_eq
  | source source => exact source.head_body_eq

/-- Every source hands on head and body of the innermost message. -/
theorem Source.head_body_eq (source : Source) :
    source.head = source.innermost.head ∧ source.body = source.innermost.body := by
  cases source with
  | index carrier => exact carrier.head_body_eq
  | facade origin => exact origin.head_body_eq

end

/-! ## Look-ups -/

namespace Source

/-- A source finds what the head of the innermost message says. -/
theorem header_eq (source : Source) (name : String) :
    source.header name = source.innermost.headers.map (FoundValues.mk name) := by
  cases source with
  | index carrier => rw [header, carrier.head_body_eq.1, innermost, Message.headers]
  | facade origin => exact origin.header_eq name

theorem names_eq (source : Source) :
    source.names = source.innermost.headers.map Headers.names := by
  cases source with
  | index carrier => rw [names, carrier.head_body_eq.1, innermost, Message.headers]
  | facade origin => exact origin.names_eq

/-- A single value is looked up as in the message itself. -/
theorem single_eq (source : Source) (name : String) :
    source.single name = source.innermost.single name := by
  rw [single, header_eq, names_eq, Message.single]
  cases source.innermost.headers with
  | error error => rfl
  | ok headers =>
    simp only [Except.map, Except.bind, bind, Headers.single, FoundValues.first?,
      FoundValues.values]
    cases (headers.get name).head? <;> rfl

theorem singleOr_eq (source : Source) (name default : String) :
    source.singleOr name default = source.innermost.singleOr name default := by
  rw [singleOr, header_eq, Message.singleOr]
  cases source.innermost.headers <;> rfl

/-! ## Agreement -/

/-- Every look-up fails with the same error. -/
structure FailsWith (source : Source) (error : Error) : Prop where
  /-- There are no values. -/
  header_eq : ∀ name, source.header name = .error error
  /-- There are no names. -/
  names_eq : source.names = .error error
  /-- There is no value. -/
  single_eq : ∀ name, source.single name = .error error
  /-- A default does not help. -/
  singleOr_eq : ∀ name default, source.singleOr name default = .error error

/-- Every look-up of a name comes to the given values, at least one of them. -/
structure Finds (source : Source) (name first : String) (others : List String) : Prop where
  /-- The first value is there. -/
  single_eq : source.single name = .ok first
  /-- A default is not needed. -/
  singleOr_eq : ∀ default, source.singleOr name default = .ok first
  /-- The values are there in order, and nothing behind them. -/
  header_ok : ∃ found, source.header name = .ok found ∧ found.values = first :: others ∧
    found.first? = some first ∧ found.get 0 = .ok first ∧
    (∀ index value, (first :: others)[index]? = some value → found.get index = .ok value) ∧
    ∀ index, (first :: others).length ≤ index →
      found.get index = .error (.lookUp (.exhausted name (first :: others).length))

/-- Every look-up of a name comes to nothing, and says which names there are. -/
structure Misses (source : Source) (name : String) (known : List String) : Prop where
  /-- The first value is not there. -/
  single_eq : source.single name = .error (.missingHeader name known)
  /-- A default stands in as it is. -/
  singleOr_eq : ∀ default, source.singleOr name default = .ok default
  /-- There is no value at any place. -/
  header_ok : ∃ found, source.header name = .ok found ∧ found.values = [] ∧ found.first? = none ∧
    ∀ index, found.get index = .error (.lookUp (.absent name known.length known))

variable {source : Source}

theorem failsWith {error : Error} (failed : source.innermost.headers = .error error) :
    source.FailsWith error := by
  refine ⟨fun name => ?_, ?_, fun name => ?_, fun name default => ?_⟩
  · rw [header_eq, failed]
    rfl
  · rw [names_eq, failed]
    rfl
  · rw [single_eq, Message.single, failed]
    rfl
  · rw [singleOr_eq, Message.singleOr, failed]
    rfl

variable {headers : Headers}

theorem finds (read_eq : source.innermost.headers = .ok headers) {name first : String}
    {others : List String} (values_eq : headers.get name = first :: others) :
    source.Finds name first others := by
  have value_at (index : Nat) (value : String)
      (inside : (first :: others)[index]? = some value) :
      headers.valueAt name index = .ok value := by
    simp only [Headers.valueAt, values_eq, inside]
  refine ⟨?_, fun default => ?_, FoundValues.mk name headers, ?_, values_eq, ?_,
    value_at 0 first rfl, value_at, fun index outside => ?_⟩
  · rw [single_eq, Message.single, read_eq]
    change headers.single name = .ok first
    simp only [Headers.single, values_eq, List.head?_cons]
  · rw [singleOr_eq, Message.singleOr, read_eq]
    change Except.ok (headers.singleOr name default) = .ok first
    rw [Headers.singleOr, values_eq, List.head?_cons, Option.getD_some]
  · rw [header_eq, read_eq]
    rfl
  · rw [FoundValues.first?, FoundValues.values, values_eq, List.head?_cons]
  · have nothing : (first :: others)[index]? = none := List.getElem?_eq_none outside
    simp only [FoundValues.get, Headers.valueAt, values_eq, nothing, List.isEmpty_cons,
      Bool.false_eq_true, if_false]

theorem misses (read_eq : source.innermost.headers = .ok headers) {name : String}
    (values_eq : headers.get name = []) : source.Misses name headers.names := by
  have size_eq : headers.size = headers.names.length := (List.length_map _).symm
  refine ⟨?_, fun default => ?_, FoundValues.mk name headers, ?_, values_eq, ?_, fun index => ?_⟩
  · rw [single_eq, Message.single, read_eq]
    change headers.single name = _
    simp only [Headers.single, values_eq, List.head?_nil]
  · rw [singleOr_eq, Message.singleOr, read_eq]
    change Except.ok (headers.singleOr name default) = .ok default
    rw [Headers.singleOr, values_eq, List.head?_nil, Option.getD_none]
  · rw [header_eq, read_eq]
    rfl
  · rw [FoundValues.first?, FoundValues.values, values_eq, List.head?_nil]
  · simp only [FoundValues.get, Headers.valueAt, values_eq, List.getElem?_nil, List.isEmpty_nil,
      if_true, size_eq]

/-- However a message is wrapped, head and body are its own.  If its head cannot be read, every
look-up fails for that reason.  Otherwise the names are listed in order, and of each name either all
look-ups come to the same values, or all of them miss it and know the same names. -/
theorem look_ups_agree :
    (∀ carrier : Carrier, carrier.head = carrier.innermost.head ∧
      carrier.body = carrier.innermost.body) ∧
    ∀ source : Source, source.head = source.innermost.head ∧
      source.body = source.innermost.body ∧
      (∀ error, Headers.ofHead source.innermost.head = .error error →
        (∃ reason, error = .malformedMessage reason) ∧ source.FailsWith error) ∧
      ∀ headers, Headers.ofHead source.innermost.head = .ok headers →
        source.names = .ok headers.names ∧ headers.names.Pairwise (· < ·) ∧
        ∀ name,
          (∀ first others, headers.get name = first :: others →
            source.Finds name first others) ∧
          (headers.get name = [] → source.Misses name headers.names) := by
  refine ⟨fun carrier => carrier.head_body_eq, fun source => ⟨source.head_body_eq.1,
    source.head_body_eq.2, fun error failed => ⟨?_, failsWith failed⟩, fun headers read_eq =>
      ⟨?_, Dictionary.keys_ascending _, fun name => ⟨fun first others => finds read_eq,
        misses read_eq⟩⟩⟩⟩
  · rcases Headers.ofHead_eq_error_iff.1 failed with ⟨-, error_eq⟩ | ⟨_, _, _, -, -, error_eq⟩
    · exact ⟨_, error_eq⟩
    · exact ⟨_, error_eq⟩
  · rw [names_eq, Message.headers, read_eq]
    rfl

/-- Wrappers around wrappers; a header whose second value is empty, one that is missing, and a line
without a colon. -/
theorem look_ups_agree_nested :
    let wrapped (lines : List String) : Source :=
      .facade (.facade (.index (.boxed (.source (.index (.reference
        (.plain ⟨"GET / HTTP/1.1" :: lines, []⟩)))))))
    (wrapped ["Vary: a", "vary:", "Host: h"]).Finds "VARY" "a" [""] ∧
    (wrapped ["Vary: a", "vary:", "Host: h"]).Misses "X-Trace" ["host", "vary"] ∧
    (wrapped ["Host: h", "x"]).FailsWith (.malformedMessage "invalid header: x") := by
  intro wrapped
  have read_eq : ∃ headers, Headers.ofHead ["GET / HTTP/1.1", "Vary: a", "vary:", "Host: h"] =
      .ok headers ∧ headers.get "VARY" = ["a", ""] ∧ headers.get "X-Trace" = [] ∧
        headers.names = ["host", "vary"] :=
    ⟨_, rfl, by decide +kernel, by decide +kernel, by decide +kernel⟩
  obtain ⟨headers, read_eq, values_eq, no_values, names_eq⟩ := read_eq
  obtain ⟨-, -, -, agree⟩ := look_ups_agree.2 (wrapped ["Vary: a", "vary:", "Host: h"])
  obtain ⟨-, -, found⟩ := agree headers read_eq
  have failed : Headers.ofHead ["GET / HTTP/1.1", "Host: h", "x"] =
      .error (.malformedMessage "invalid header: x") := by decide +kernel
  obtain ⟨-, -, fails, -⟩ := look_ups_agree.2 (wrapped ["Host: h", "x"])
  refine ⟨(found "VARY").1 _ _ values_eq, ?_, (fails _ failed).2⟩
  rw [← names_eq]
  exact (found "X-Trace").2 no_values

end Source

end SignIn
