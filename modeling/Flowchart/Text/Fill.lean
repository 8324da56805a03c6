import Flowchart.Text.Blank
import Flowchart.Text.Word

/-!
# Filling lines

Filling breaks a text into lines of a given width.  Tabs are expanded and line ends become spaces.
The text is then divided into chunks: runs of spaces, runs of at least two hyphens between words,
and words.  A word ends before a space, before such a run of hyphens, and after a hyphen between two
letters on either side.  Lines take as many whole chunks as fit; a chunk that is wider than a line
is cut.
-/

set_option autoImplicit false

namespace Flowchart.Text

/-! ### Spaces -/

/-- Tabs become spaces up to the next column that is a multiple of eight. -/
def expandTabs : (column : Nat) → List Char → List Char
  | _, [] => []
  | column, c :: rest =>
    if c == '\t' then
      List.replicate (8 - column % 8) ' ' ++ expandTabs 0 rest
    else if c == '\n' || c == '\r' then c :: expandTabs 0 rest
    else c :: expandTabs (column + 1) rest

/-- The characters that separate words.  Wider notions of blank do not count here. -/
def isGap (c : Char) : Bool :=
  c == ' ' || c == '\t' || c == '\n' || c == '\x0b' || c == '\x0c' || c == '\r'

/-- A text with its tabs expanded, in which all separators are spaces. -/
def flatten (text : List Char) : List Char :=
  (expandTabs 0 text).map fun c => if isGap c then ' ' else c

/-! ### Chunks -/

/-- The characters after which a run of hyphens counts as a dash. -/
def isBeforeDash (c : Char) : Bool :=
  isWordChar c || c == '!' || c == '"' || c == '\'' || c == '&' || c == '.' || c == ',' || c == '?'

/-- Whether a dash stands at the beginning of `rest`, where `before` is the text in front of it read
backwards: at least two hyphens between a word and a word character. -/
def atDash (before rest : List Char) : Bool :=
  match before with
  | b :: _ =>
    isBeforeDash b && 2 ≤ (rest.takeWhile (· == '-')).length &&
      (match rest.dropWhile (· == '-') with
       | c :: _ => isWordChar c
       | [] => false)
  | [] => false

/-- Whether `rest` begins with a hyphen at which a word may be divided: two letters, or a letter
between hyphens, stand in front of it, and two letters, perhaps with a hyphen between them,
follow. -/
def atHyphen (before rest : List Char) : Bool :=
  (match rest with
   | '-' :: c :: d :: more =>
     isLetter c && (isLetter d || (d == '-' && (match more with
       | e :: _ => isLetter e
       | [] => false)))
   | _ => false) &&
  (match before with
   | b :: c :: more =>
     isLetter b && (isLetter c || (c == '-' && (match more with
       | d :: _ => isLetter d
       | [] => false)))
   | _ => false)

/-- The word at the beginning of a text and what follows it.  The first character belongs to the
word in any case. -/
def takeWord (before : List Char) : List Char → List Char × List Char
  | [] => ([], [])
  | c :: rest =>
    let before := c :: before
    if rest.isEmpty || rest.head?.any isGap then ([c], rest)
    else if atHyphen before rest then ([c, '-'], rest.drop 1)
    else if atDash before rest then ([c], rest)
    else
      let (word, rest) := takeWord before rest
      (c :: word, rest)

/-- The first chunk of a text and what follows it. -/
def takeChunk (before text : List Char) : List Char × List Char :=
  if text.head?.any isGap then (text.takeWhile isGap, text.dropWhile isGap)
  else if atDash before text then (text.takeWhile (· == '-'), text.dropWhile (· == '-'))
  else takeWord before text

/-- Taking a word leaves less of the text, so that cutting a text into words ends. -/
theorem length_takeWord_lt (text : List Char) :
    ∀ before, text ≠ [] → (takeWord before text).2.length < text.length := by
  induction text with
  | nil => simp
  | cons c rest ih =>
    intro before _
    rw [takeWord]
    split
    · simp
    · split
      · simp only [List.length_drop, List.length_cons]
        omega
      · split
        · simp
        · rename_i h _ _
          have hrest : rest ≠ [] := by
            rintro rfl
            simp at h
          have := ih (c :: before) hrest
          simp only [List.length_cons]
          omega

/-- Taking a chunk leaves less of the text, so that cutting a text into chunks ends. -/
theorem length_takeChunk_lt (before text : List Char) (h : text ≠ []) :
    (takeChunk before text).2.length < text.length := by
  cases text with
  | nil => contradiction
  | cons c rest =>
    rw [takeChunk]
    split
    · rename_i hc
      have hc : isGap c = true := by simpa using hc
      have := (List.dropWhile_suffix (l := rest) isGap).length_le
      simp only [List.dropWhile_cons, hc, if_true, List.length_cons]
      omega
    · split
      · rename_i hd
        have hc : (c == '-') = true := by
          cases before with
          | nil => simp [atDash] at hd
          | cons b more =>
            simp only [atDash, Bool.and_eq_true, decide_eq_true_eq] at hd
            by_cases hc : (c == '-') = true
            · exact hc
            · have hlen := hd.1.2
              simp [hc] at hlen
        have := (List.dropWhile_suffix (l := rest) (· == '-')).length_le
        simp only [List.dropWhile_cons, hc, if_true, List.length_cons]
        omega
      · exact length_takeWord_lt _ _ h

/-- The chunks of a text, in order. -/
def chunks (before text : List Char) : List (List Char) :=
  if text = [] then []
  else
    let piece := takeChunk before text
    piece.1 :: chunks (piece.1.reverse ++ before) piece.2
termination_by text.length
decreasing_by exact length_takeChunk_lt before text ‹_›

/-! ### Lines -/

/-- A chunk of blanks only. -/
def isBlankChunk (chunk : List Char) : Bool :=
  chunk.all isBlank

/-- The chunks that fit into the given room, and the others. -/
def takeFitting (room : Nat) : List (List Char) → List (List Char) × List (List Char)
  | [] => ([], [])
  | chunk :: rest =>
    if chunk.length ≤ room then
      let (line, rest) := takeFitting (room - chunk.length) rest
      (chunk :: line, rest)
    else ([], chunk :: rest)

/-- Where a chunk that is too wide is cut: after its last hyphen within the room, if something other
than hyphens stands in front of that, and otherwise at the end of the room. -/
def cutAt (room : Nat) (chunk : List Char) : Nat :=
  let tail := (chunk.take room).reverse.dropWhile (· != '-')
  let head := tail.drop 1
  if !tail.isEmpty && head.any (· != '-') then head.length + 1 else room

/-- A line without a blank chunk at its end. -/
def dropBlankEnd (line : List (List Char)) : List (List Char) :=
  if line.getLast?.any isBlankChunk then line.dropLast else line

/-- The next line and the chunks that remain. -/
def takeLine (width : Nat) (chunks : List (List Char)) : List (List Char) × List (List Char) :=
  let (line, rest) := takeFitting width chunks
  match rest with
  | [] => (dropBlankEnd line, [])
  | chunk :: more =>
    if width < chunk.length then
      let cut := cutAt (width - line.flatten.length) chunk
      (dropBlankEnd (line ++ [chunk.take cut]), chunk.drop cut :: more)
    else (dropBlankEnd line, rest)

/-- The lines made of the chunks.  A line other than the first does not begin with a blank chunk,
and lines without chunks are left out. -/
def fillLines (width : Nat) : (fuel : Nat) → (first : Bool) → List (List Char) → List (List Char)
  | 0, _, _ => []
  | _, _, [] => []
  | fuel + 1, first, chunk :: rest =>
    let chunks := if !first && isBlankChunk chunk then rest else chunk :: rest
    let (line, rest) := takeLine width chunks
    if line.isEmpty then fillLines width fuel first rest
    else line.flatten :: fillLines width fuel false rest

/-- A text filled to the given width. -/
def fill (width : Nat) (text : String) : String :=
  let flat := flatten text.toList
  let lines := fillLines width (2 * flat.length + 1) true (chunks [] flat)
  "\n".intercalate (lines.map String.ofList)

end Flowchart.Text
