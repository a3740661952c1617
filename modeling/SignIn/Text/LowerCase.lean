import SignIn.Text.CaseTable

/-!
# Lower case

Lower-casing of whole texts after the Unicode standard: every character has its own lower case, the
capital I with a dot above becomes two characters, and a capital sigma depends on where it stands.
-/

namespace SignIn.Text

/-- The lower case of one character that has one, apart from the context of a sigma. -/
def lowerChar (char : Char) : List Char :=
  let code := char.toNat
  if code < 0x80 then
    [if 0x41 ≤ code ∧ code ≤ 0x5A then Char.ofNat (code + 32) else char]
  else if code = 0x130 then ['i', '\u0307']
  else
    match lowerRanges.find? fun range =>
        range.first ≤ code && code ≤ range.last && (code - range.first) % range.step == 0 with
    | some range => [Char.ofNat (Int.toNat (code + range.shift))]
    | none => [char]

/-- The property `Cased`. -/
def isCased (char : Char) : Bool := inRanges casedRanges char.toNat

/-- The property `Case_Ignorable`. -/
def isCaseIgnorable (char : Char) : Bool := inRanges caseIgnorableRanges char.toNat

/-- Whether the first character that is not ignorable exists and is cased. -/
def meetsCased (text : List Char) : Bool :=
  match text.dropWhile isCaseIgnorable with
  | [] => false
  | char :: _ => isCased char

/-- The lower case of a text whose reversed start has been passed.  A sigma is final when a cased
character precedes it and none follows. -/
def lowerFrom : List Char → List Char → List Char
  | _, [] => []
  | passed, char :: rest =>
    let lowered :=
      if char = 'Σ' then [if meetsCased passed && !meetsCased rest then 'ς' else 'σ']
      else lowerChar char
    lowered ++ lowerFrom (char :: passed) rest

/-- The lower case of a text. -/
def toLower (text : List Char) : List Char := lowerFrom [] text

/-- The lower case of a string. -/
def lowerCase (text : String) : String := String.ofList (toLower text.toList)

end SignIn.Text
