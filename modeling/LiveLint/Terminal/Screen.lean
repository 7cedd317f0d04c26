import LiveLint.Decimal
import LiveLint.Terminal.Markup
import LiveLint.Terminal.Width
import LiveLint.Text.Basic

/-!
# Lines on the screen

A line that is too long for the terminal goes on in the next one. It breaks in front of a word; a
word that is longer than a whole line breaks wherever the line is full.
-/

namespace LiveLint.Terminal

/-- Tabs widened to the next multiple of eight columns, from a column on. -/
def widenTabsFrom (column : Nat) : List Char → List Char
  | [] => []
  | c :: rest =>
    if c == '\t' then
      let gap := 8 - column % 8
      List.replicate gap ' ' ++ widenTabsFrom (column + gap) rest
    else c :: widenTabsFrom (column + width c) rest

def widenTabs (line : List Char) : List Char := widenTabsFrom 0 line

/-- The first word with the blanks around it, and what follows. -/
def firstWord (cs : List Char) : List Char × List Char :=
  let lead := cs.takeWhile Text.isBlank
  let body := cs.dropWhile Text.isBlank
  let word := body.takeWhile (!Text.isBlank ·)
  let after := body.dropWhile (!Text.isBlank ·)
  (lead ++ word ++ after.takeWhile Text.isBlank, after.dropWhile Text.isBlank)

/-- The words of a line with the blanks that follow them, as many as there is fuel for. -/
def wordsWith : Nat → List Char → List (List Char)
  | 0, _ => []
  | fuel + 1, cs =>
    if cs.all Text.isBlank then []
    else (firstWord cs).1 :: wordsWith fuel (firstWord cs).2

/-- The words of a line with the blanks that follow them. Blanks in front belong to the first. -/
def spacedWords (line : List Char) : List (List Char) := wordsWith line.length line

/-- Pieces of a word that fill whole lines, given the piece that was begun, in reverse. -/
def foldFrom (columns : Nat) (begun : List Char) : List Char → List (List Char)
  | [] => [begun.reverse]
  | c :: rest =>
    if columns < cells begun + width c then begun.reverse :: foldFrom columns [c] rest
    else foldFrom columns (c :: begun) rest

/-- Lines that are full, the latest first, and the line that is being filled. -/
structure Page where
  full : List (List Char) := []
  current : List Char := []
  deriving Repr

namespace Page

def next (p : Page) (text : List Char) : Page :=
  { full := if p.current.isEmpty then p.full else p.current :: p.full, current := text }

def put (columns : Nat) (p : Page) (word : List Char) : Page :=
  let needed := cells (Text.trimRight word)
  if cells p.current + needed ≤ columns then { p with current := p.current ++ word }
  else if columns < needed then (foldFrom columns [] word).foldl next p
  else p.next word

def lines (p : Page) : List (List Char) := (p.current :: p.full).reverse

end Page

/-- The lines that show a line on a terminal. Blanks at their ends are not shown. -/
def wrapLine (columns : Nat) (line : List Char) : List (List Char) :=
  ((spacedWords (widenTabs line)).foldl (Page.put columns) {}).lines.map Text.trimRight

/-!
## The screen

What a terminal shows of texts with tags: lines that fit its columns.
-/

/-- The columns of the terminal that output is laid out for. -/
def columns : Nat := 200

def lines (text : String) : Except Fault (List String) :=
  (Markup.shown text).map fun s =>
    ((Text.lines s.toList).flatMap (wrapLine columns)).map String.ofList

def allLines (texts : List String) : Except Fault (List String) :=
  (texts.mapM lines).map List.flatten

end LiveLint.Terminal

/-!
## Grids

A grid shows cells in rows between upright rules, with a blank on both sides of each cell. A column is
as wide as its widest cell. If the grid is too wide for the terminal, its widest columns give way
first; a cell that is too wide for its column goes on below, and a word that is too long for that is
cut off.
-/

namespace LiveLint.Terminal.Grid

/-- The columns of the terminal that are left for cells and the blanks beside them if a grid has a
rule on both sides of each cell. -/
def room (screen count : Nat) : Nat := screen - (count + 1)

/-- The columns of the terminal that a cell takes with the blanks beside it. -/
def extent (cell : String) : Nat :=
  (((Text.paragraphs cell.toList).map cells).foldl max 0) + 2

def cellsAt (rows : List (List String)) (place : Nat) : List String :=
  rows.map fun row => (row[place]?).getD ""

/-- Takes from each of some widths its share of an excess. All that are as wide as the widest give the
same, up to some limit; what rounding leaves falls to the later ones. -/
def shrinkEach (widest limit : Nat) (excess givers : Nat) : List Nat → List Nat
  | [] => []
  | width :: rest =>
    if width == widest && 0 < givers then
      let given := min limit (Decimal.roundQuotient excess givers)
      (width - given) :: shrinkEach widest limit (excess - given) (givers - 1) rest
    else width :: shrinkEach widest limit excess givers rest

/-- The widest columns give way until they are no wider than the next ones or the excess is gone. -/
def shrinkWidest (excess : Nat) (widths : List Nat) : List Nat :=
  let widest := widths.foldl max 0
  let next := (widths.filter (· != widest)).foldl max 0
  shrinkEach widest (min excess (widest - next)) excess (widths.count widest) widths

/-- Columns give way, as many times as there is fuel for, until they fit. -/
def shrink (room : Nat) : Nat → List Nat → List Nat
  | 0, widths => widths
  | fuel + 1, widths =>
    let excess := total id widths - room
    if excess == 0 then widths else shrink room fuel (shrinkWidest excess widths)

def columnWidths (screen : Nat) (rows : List (List String)) : List Nat :=
  let count := (rows.map List.length).foldl max 0
  let room := room screen count
  let natural := (List.range count).map fun place =>
    min room (((cellsAt rows place).map extent).foldl max 0)
  shrink room (total id natural) natural

/-- The front of a line that fits, filled up with blanks. -/
def fill : Nat → List Char → List Char
  | columns, [] => List.replicate columns ' '
  | columns, c :: rest =>
    if width c ≤ columns then c :: fill (columns - width c) rest else List.replicate columns ' '

/-- A line that fits. A sign stands for what is cut off. -/
def cut (columns : Nat) (line : List Char) : List Char :=
  if cells line ≤ columns then line else fill (columns - 1) line ++ ['…']

/-- A line without the blanks at its end that exceed a number of characters. -/
def trimExcess (columns : Nat) (line : List Char) : List Char :=
  let blanks := line.length - (Text.trimRight line).length
  line.take (line.length - min blanks (line.length - columns))

/-- Puts a word on a page without breaking it. -/
def putWhole (columns : Nat) (p : Page) (word : List Char) : Page :=
  if cells p.current + cells (Text.trimRight word) ≤ columns then
    { p with current := p.current ++ word }
  else p.next word

/-- The lines that show a line in a cell. -/
def wrapWhole (columns : Nat) (line : List Char) : List (List Char) :=
  (((spacedWords (widenTabs line)).foldl (putWhole columns) {}).lines.map (trimExcess columns)).map
    (cut columns)

/-- The lines that show a cell, without blanks around them. -/
def cellLines (columns : Nat) (cell : String) : List String :=
  ((Text.lines cell.toList).flatMap (wrapWhole columns)).map fun line =>
    String.ofList (Text.trim line)

/-- The lines that show a row, each by what it holds of the cells. -/
def rowLines (widths : List Nat) (row : List String) : List (List String) :=
  let shown := (row.zip widths).map fun (cell, width) => cellLines (width - 2) cell
  let height := (shown.map List.length).foldl max 1
  (List.range height).map fun i => shown.map fun lines => (lines[i]?).getD ""

def lines (screen : Nat) (rows : List (List String)) : List (List String) :=
  rows.flatMap (rowLines (columnWidths screen rows))

end LiveLint.Terminal.Grid
