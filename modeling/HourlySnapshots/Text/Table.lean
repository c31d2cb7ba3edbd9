import HourlySnapshots.Text.Blank
import HourlySnapshots.Text.Hex

/-!
# Tables of characters

Properties of characters are given by tables. A long table is written out as text: rows with blanks
between them, each of which holds hexadecimal numbers with commas between them.
-/

namespace HourlySnapshots.Text

/-- Whether a code lies in one of the ranges. -/
def inRanges (ranges : List (Nat × Nat)) (n : Nat) : Bool :=
  ranges.any fun (first, last) => first ≤ n && n ≤ last

/-- The rows of a table. -/
def tableRows (text : String) : List (List Nat) :=
  ((text.toList.splitOnP isBlank).filter fun row => !row.isEmpty).map fun row =>
    (row.splitOn ',').map fun digits => (readHex? digits).getD 0

/-- The ranges in a table whose rows hold one code each, or the first and the last of several. -/
def tableRanges (text : String) : List (Nat × Nat) :=
  (tableRows text).filterMap fun
    | [code] => some (code, code)
    | [first, last] => some (first, last)
    | _ => none

end HourlySnapshots.Text
