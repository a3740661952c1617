import SignIn.Text.Blank
import SignIn.Url.Domain.Label
import SignIn.Url.Domain.Normal
import SignIn.Url.Domain.Punycode

/-!
# Domains

The ASCII form of a domain name.  A name in ASCII is lower-cased; a name with other characters is
brought into its normal form and its labels are written in ASCII, after the rules for labels have
been checked.  Labels that are already written so are read back and checked as well.
-/

namespace SignIn.Domain

/-- The ASCII characters that no domain of a URL may hold. -/
def isDenied (char : Char) : Bool :=
  char.toNat ≤ 0x20 || char.toNat == 0x7F ||
    ['%', '#', '/', ':', '<', '>', '?', '@', '[', '\\', ']', '^', '|'].contains char

/-- Whether a text is ASCII. -/
def isAscii (text : List Char) : Bool := text.all (·.toNat < 0x80)

/-- How a label that is written in ASCII for another one starts. -/
def marker : List Char := ['x', 'n', '-', '-']

/-- What a marked label stands for. -/
def unmark? (label : List Char) : Option (List Char) :=
  if label.take 4 = marker then some (label.drop 4) else none

/-- The longest label that is written in ASCII. -/
def longestWritten : Nat := 1000

/-- The longest text that is read back as a label. -/
def longestRead : Nat := 2000

/-- A marked label read back: it must need its mark and be normal. -/
def readMarked? (text : List Char) : Option (List Char) :=
  if longestRead < text.length then none
  else
    match Punycode.decode? text with
    | none => none
    | some label =>
      if isAscii label = false ∧ normal? label = some label then some label else none

/-- The label that a normal label stands for. -/
def readLabel? (label : List Char) : Option (List Char) :=
  match unmark? label with
  | some text => readMarked? text
  | none => some label

/-- A label in ASCII. -/
def writeLabel? (label : List Char) : Option (List Char) :=
  if isAscii label then some label
  else if longestWritten < label.length then none
  else some (marker ++ Punycode.encode label)

/-- Whether a name in ASCII has a marked label. -/
def hasMarked (text : List Char) : Bool :=
  (Text.splitAll '.' text).any fun label => (unmark? label).isSome

/-- The ASCII form of a normal name. -/
def ofNormal? (name : List Char) : Option (List Char) :=
  match (Text.splitAll '.' name).mapM readLabel? with
  | none => none
  | some labels =>
    if labels.all (fun label => isAscii label || isValidLabel label) ∧ areDirected labels then
      (labels.mapM writeLabel?).map (List.intercalate ['.'])
    else none

/-- The ASCII form of a name, if it is a domain. -/
def toAscii? (text : List Char) : Option (List Char) :=
  let lower := text.map lowerAscii
  let ascii :=
    if isAscii text ∧ hasMarked lower = false then some lower
    else (normal? text).bind ofNormal?
  ascii.filter fun domain => !domain.any isDenied

end SignIn.Domain
