import Chip8.Text.Layout
import Chip8.Text.Trim
import Chip8.Text.Wide
import Chip8.Text.ZeroWidth

/-!
# Wrapped lines

Text is set in lines of a given number of cells.  A line is broken before a word that does not fit
any more; a word that fits on no line is cut into pieces as wide as a line.  A word takes the blanks
after it along, and blanks beyond the end of a line are dropped.
-/
namespace Chip8.Console

/-- The number of cells that a character takes. -/
def charCells (c : Char) : Nat :=
  if ' ' ≤ c && c ≤ '~' then 1
  else if Text.zeroWidth.contains c then 0
  else if Text.wide.contains c then 2
  else 1

/-- The number of cells that a text takes. -/
def cells (s : List Char) : Nat := (s.map charCells).foldl (· + ·) 0

/-- The text without bells, backspaces, vertical tabulators, form feeds and carriage returns. -/
def printableOnly (s : List Char) : List Char :=
  s.filter fun c => !([7, 8, 11, 12, 13].contains c.toNat)

/-- The text with blanks for tabulators, which reach to the next multiple of eight cells. -/
def expandTabs (position : Nat) : List Char → List Char
  | [] => []
  | c :: rest =>
    if c = '\t' then
      let count := 8 - position % 8
      List.replicate count ' ' ++ expandTabs (position + count) rest
    else c :: expandTabs (position + charCells c) rest

/-- The words of a line, each with the blanks after it, the first also with those before it.  Blanks
alone make no word. -/
def words (s : List Char) : List (List Char) :=
  let blank := Text.blank.contains
  let rec go : Nat → List Char → List (List Char)
    | 0, _ => []
    | fuel + 1, s =>
      let before := s.takeWhile blank
      let rest := s.dropWhile blank
      let letters := rest.takeWhile fun c => !blank c
      let rest := rest.dropWhile fun c => !blank c
      let after := rest.takeWhile blank
      if letters.isEmpty then []
      else (before ++ letters ++ after) :: go fuel (rest.dropWhile blank)
  go (s.length + 1) s

/-- A word cut into pieces of at most `width` cells; `used` cells of the last piece are taken. -/
def chop (width : Nat) (piece : List Char) (used : Nat) : List Char → List (List Char)
  | [] => [piece.reverse]
  | c :: rest =>
    if width < used + charCells c then piece.reverse :: chop width [c] (charCells c) rest
    else chop width (c :: piece) (used + charCells c) rest

/-- The pieces of a text with their breaks: the line in progress, reversed, and its cells; then the
words that are still to be set. -/
def setWords (width : Nat) (line : List Char) (used : Nat) : List (List Char) → List (List Char)
  | [] => [line]
  | word :: rest =>
    let needed := cells (Text.trimEnd Text.blank.contains word)
    if used + needed ≤ width then setWords width (line ++ word) (used + cells word) rest
    else if width < needed then
      let pieces := chop width [] 0 word
      let finished := (if line.isEmpty then [] else [line]) ++ pieces.dropLast
      let last := pieces.getLast?.getD []
      finished ++ setWords width last (cells last) rest
    else if line.isEmpty then setWords width word (cells word) rest
    else line :: setWords width word (cells word) rest

/-- The line without the blanks at its end that lie beyond `width` characters. -/
def dropExcess (width : Nat) (line : List Char) : List Char :=
  let trimmed := Text.trimEnd Text.blank.contains line
  line.take (max trimmed.length (min width line.length))

/-- The beginning of a line that is `width` cells wide, looked for between two numbers of characters
by halving.  A wide character that would lie half inside becomes a blank. -/
def cropBetween (width : Nat) (s : List Char) : Nat → Nat → Nat → List Char
  | 0, _, _ => s
  | fuel + 1, low, high =>
    let middle := (low + high) / 2
    let start := s.take (middle + 1)
    let used := cells start
    if used = width + 1 && (start.getLast?.map charCells) = some 2 then start.dropLast ++ [' ']
    else if used = width then start
    else if width < used then cropBetween width s fuel low middle
    else cropBetween width s fuel middle high

/-- A line of at most `width` cells. -/
def crop (width : Nat) (s : List Char) : List Char :=
  if cells s ≤ width then s else cropBetween width s s.length 0 s.length

/-- One line of text, broken into lines that may end in blanks beyond `width` cells. -/
def breakLine (width : Nat) (s : List Char) : List (List Char) :=
  let line := expandTabs 0 s
  let set := words line
  let pieces := if set.isEmpty then [line] else setWords width [] 0 set
  pieces.map (dropExcess width)

/-- A text, broken into lines. -/
def breakText (width : Nat) (s : String) : List (List Char) :=
  (Text.lines (String.ofList (printableOnly s.toList))).flatMap fun line =>
    breakLine width line.toList

/-- A text in lines of at most `width` cells. -/
def wrap (width : Nat) (s : String) : List String :=
  (breakText width s).map fun line => String.ofList (crop width line)

/-- A text in the middle of lines of `width` cells; an odd blank goes to the right. -/
def centred (width : Nat) (s : String) : List String :=
  (breakText width s).map fun line =>
    let text := crop width (Text.trimEnd Text.blank.contains line)
    let left := (width - cells text) / 2
    let right := width - cells text - left
    String.ofList (List.replicate left ' ' ++ text ++ List.replicate right ' ')

end Chip8.Console
