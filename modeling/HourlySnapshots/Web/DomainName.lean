import HourlySnapshots.Text.Composition
import HourlySnapshots.Text.Lowercase
import HourlySnapshots.Text.Punycode
import HourlySnapshots.Web.DomainTable

/-!
# Domain names

The names of hosts of the web, in any script. A name is read in its plain spelling: capitals and
other variants are replaced, marks are composed, and labels that are written in Punycode are
resolved. What is left has to obey the rules for labels.
-/

namespace HourlySnapshots.DomainName

open Text (inRanges)

/-! ## Spelling -/

/-- What a row of the table makes of a character. -/
def replaceBy? (code : Nat) : List Nat → Option Nat
  | [only, result] => if code = only then some result else none
  | [first, last, result] =>
    if first ≤ code ∧ code ≤ last then some (result + (code - first)) else none
  | [first, last, step, result] =>
    if first ≤ code ∧ code ≤ last ∧ (code - first) % step = 0 then some (result + (code - first))
    else none
  | _ => none

/-- What a character is read as; `none` for one that no name may hold. -/
def plainSpelling? (code : Nat) : Option (List Nat) :=
  match replacedRows.findSome? (replaceBy? code) with
  | some result => some [result]
  | none =>
    match expandedRows.find? fun row => row.head? = some code with
    | some row => some (row.drop 1)
    | none =>
      if inRanges ignoredRanges code then some []
      else if inRanges refusedRanges code then none
      else some [code]

/-- Whether a character is read as itself. -/
def isPlain (code : Nat) : Bool := plainSpelling? code == some [code]

/-- The plain spelling of a text. -/
def spell? (codes : List Nat) : Option (List Nat) :=
  (codes.mapM plainSpelling?).map fun parts => Text.compose parts.flatten

/-! ## Labels -/

/-- What stands before a label that is written in Punycode. -/
def encodedMark : List Nat := "xn--".toList.map Char.toNat

/-- The longest label, and the longest one written in Punycode, that are dealt with. -/
def longestLabel : Nat := 1000
def longestEncoded : Nat := 2000

/--
The label that is meant by another. One that was written in Punycode must need it, and must have
been written in its plain spelling.
-/
def resolve? (label : List Nat) : Option (List Nat) :=
  if encodedMark.isPrefixOf label then
    let written := label.drop encodedMark.length
    if longestEncoded < written.length then none
    else
      (Text.Punycode.decode? (written.map Char.ofNat)).bind fun cs =>
        let meant := cs.map Char.toNat
        let plain := meant.all isPlain && Text.compose meant == meant
        if plain && meant.any (0x80 ≤ ·) && !encodedMark.isPrefixOf meant then some meant else none
  else some label

/-- Characters with a meaning of their own in addresses, and those without a shape. -/
def isReserved (code : Nat) : Bool :=
  code ≤ 0x20 || code == 0x7F || (code < 0x80 && "%#/:<>?@[\\]^|".toList.contains (Char.ofNat code))

def isNonspacing (code : Nat) : Bool := inRanges nonspacingRanges code

def isMark (code : Nat) : Bool := isNonspacing code || inRanges spacingRanges code

/-! ## Joiners -/

def nonJoiner : Nat := 0x200C
def joiner : Nat := 0x200D

/-- The combining class of marks that take away the vowel of a letter. -/
def viramaClass : Nat := 9

/-- Whether a character lets the letters around it join; the second one is a letter that does. -/
def isTransparent (code : Nat) : Bool := isNonspacing code || code == 0x1E94B

/-- Whether a letter joins the one after it. -/
def joinsNext (code : Nat) : Bool :=
  inRanges leftJoiningRanges code || inRanges dualJoiningRanges code

/-- Whether a letter joins the one before it. -/
def joinsPrevious (code : Nat) : Bool :=
  inRanges rightJoiningRanges code || inRanges dualJoiningRanges code

/--
Whether joiners stand only where they show: after a mark that takes away a vowel, and, if they keep
letters apart, between letters that would join. The characters before the text are given reversed.
-/
def joinersFit (before : List Nat) : List Nat → Bool
  | [] => true
  | code :: rest =>
    let afterVirama := (before.head?).any fun last => Text.combiningClass last == viramaClass
    let between := ((before.dropWhile isTransparent).head?).any joinsNext &&
      ((rest.dropWhile isTransparent).head?).any joinsPrevious
    let fits :=
      if code = joiner then afterVirama
      else if code = nonJoiner then afterVirama || between
      else true
    fits && joinersFit (code :: before) rest

/-- Whether a resolved label obeys the rules for labels of one direction. -/
def isLabel (label : List Nat) : Bool :=
  !label.any isReserved && !(label.head?).any isMark && joinersFit [] label &&
    (label.length ≤ longestLabel || label.all (· < 0x80))

/-! ## Directions -/

/-- How a character takes part in the direction of a text. -/
inductive Direction where
  | leftToRight
  | rightToLeft
  | europeanDigit
  | arabicDigit
  /-- A mark, which takes the direction of its letter. -/
  | mark
  | undirected
deriving DecidableEq

/-- Nonspacing marks that take part as letters do. -/
def directedMarks : List Nat := [0xCBF, 0xCC6, 0x11A07, 0x11A08, 0x11C3F]

def directionOf (code : Nat) : Direction :=
  if isNonspacing code && !directedMarks.contains code then .mark
  else if inRanges rightToLeftRanges code then .rightToLeft
  else if inRanges europeanDigitRanges code then .europeanDigit
  else if inRanges arabicDigitRanges code then .arabicDigit
  else if inRanges undirectedRanges code then .undirected
  else .leftToRight

/--
Whether a label keeps its shape next to labels of the other direction. It begins with a letter, and
after it come no letters of the other direction; it ends with a letter or a digit, apart from marks.
A label that is written from right to left holds only one kind of digits.
-/
def keepsShape (label : List Nat) : Bool :=
  let directions := label.map directionOf
  let last := ((directions.reverse.dropWhile (· = .mark)).head?).getD .mark
  match directions with
  | [] => true
  | .leftToRight :: _ =>
    (last = .leftToRight || last = .europeanDigit) &&
      !directions.contains .rightToLeft && !directions.contains .arabicDigit
  | .rightToLeft :: _ =>
    (last = .rightToLeft || last = .europeanDigit || last = .arabicDigit) &&
      !directions.contains .leftToRight &&
      !(directions.contains .europeanDigit && directions.contains .arabicDigit)
  | _ => false

/-- Whether a label has letters or digits that are written from right to left. -/
def turnsLeft (label : List Nat) : Bool :=
  label.any fun code => directionOf code = .rightToLeft || directionOf code = .arabicDigit

/-! ## Names -/

/-- The plain spelling of a name, if it is one. A name may be empty, and so may its labels. -/
def read? (cs : List Char) : Option (List Char) := do
  let spelled ← spell? (cs.map Char.toNat)
  let labels ← (spelled.splitOn '.'.toNat).mapM resolve?
  if labels.all isLabel && (!labels.any turnsLeft || labels.all keepsShape) then
    some ((['.'].intercalate (labels.map fun label => label.map Char.ofNat)))
  else none

end HourlySnapshots.DomainName
