import Flowchart.Proofs.Program.Obstacles
import Flowchart.Proofs.Text.Number

/-!
# `Flowchart.Proofs.Program.Leaves`: what of an expression is in its text

In the end an expression is made of names, numbers and texts (`Tree.leaves`), and so is its text,
with signs, commas and parentheses in between.  The leaves of a text are found by reading it once
from the left (`readLeaves`).  Behind an operand and a blank there is a sign, and everything else is
an operand or stands around one.  So no table of signs is needed, and a name may be any word.

`leaves_of_text` compares the two.  The text has the leaves of the expression in their order, but
for those inside the keyword arguments of calls.  The text of a call leaves its keyword arguments
out, and there is nothing in it that tells so: `keyword_argument_left_out`.

The text of an expression is read as a whole operand, wherever it stands (`Reads`).  There is a
lemma for each form of expression.
-/

set_option autoImplicit false

namespace Flowchart

/-! ### Reading a text from the left -/

/-- Where a reader of the text of an expression is. -/
inductive Reader where
  /-- In front of an operand. -/
  | ahead
  /-- Behind an operand. -/
  | behind
  /-- In the sign between two operands. -/
  | sign
  /-- In a name or a number, of which this was read. -/
  | word (soFar : List Char)
  /-- In a quotation, of which this was read. -/
  | quotation (quote : Char) (soFar : List Char)
  /-- In a quotation, behind a backslash. -/
  | escape (quote : Char) (soFar : List Char)

namespace Reader

/-- Whether a character is outside of all words. -/
def isBreak (c : Char) : Bool :=
  c == ' ' || c == ',' || c == '(' || c == ')'

/-- Where the reader is after a character behind an operand. -/
def past (c : Char) : Reader :=
  if c = ' ' then sign else if c = ')' then behind else ahead

/-- The leaves found in a text. -/
def leaves : Reader → List Char → List (List Char)
  | word soFar, [] => [soFar]
  | _, [] => []
  | ahead, c :: rest =>
    if c = '\'' ∨ c = '"' then leaves (quotation c [c]) rest
    else if c = ')' then leaves behind rest
    else if isBreak c then leaves ahead rest
    else leaves (word [c]) rest
  | behind, c :: rest => leaves (past c) rest
  | sign, c :: rest => leaves (if c = ' ' then ahead else sign) rest
  | word soFar, c :: rest =>
    if isBreak c then soFar :: leaves (past c) rest else leaves (word (soFar ++ [c])) rest
  | quotation quote soFar, c :: rest =>
    if c = quote then (soFar ++ [c]) :: leaves behind rest
    else leaves
      (if c = '\\' then escape quote (soFar ++ [c]) else quotation quote (soFar ++ [c])) rest
  | escape quote soFar, c :: rest => leaves (quotation quote (soFar ++ [c])) rest

end Reader

/-- The leaves of the text of an expression, from the left. -/
def readLeaves (text : String) : List String :=
  (Reader.leaves .ahead text.toList).map String.ofList

example : readLeaves "(f(a, 'b, (c') or (x = -1))" = ["f", "a", "'b, (c'", "x", "-1"] := by decide

/-- The characters are read as a whole operand with the given leaves, if a break or nothing
follows. -/
def Reads (chars : List Char) (found : List (List Char)) : Prop :=
  ∀ rest, EndsRun (fun c => !Reader.isBreak c) rest →
    Reader.leaves .ahead (chars ++ rest) = found ++ Reader.leaves .behind rest

namespace Reader

/-- A word ends where nothing follows. -/
theorem endsRun_nil : EndsRun (fun c => !isBreak c) [] := by
  intro c hc
  cases hc

/-- A word ends before a break. -/
theorem endsRun_cons {c : Char} (hc : isBreak c = true) (rest : List Char) :
    EndsRun (fun c => !isBreak c) (c :: rest) := by
  intro d hd
  cases hd
  simp [hc]

/-! ### Words and quotations -/

/-- A word ends where a break or nothing follows. -/
theorem leaves_word {word : List Char} (hword : ∀ c ∈ word, isBreak c = false) {rest : List Char}
    (hrest : EndsRun (fun c => !isBreak c) rest) (soFar : List Char) :
    leaves (.word soFar) (word ++ rest) = (soFar ++ word) :: leaves behind rest := by
  induction word generalizing soFar with
  | nil =>
      rw [List.nil_append, List.append_nil]
      cases rest with
      | nil => rfl
      | cons c rest =>
          have hc : isBreak c = true := by simpa using hrest c rfl
          simp only [leaves, hc, if_true]
  | cons c word ih =>
      have hc := hword c List.mem_cons_self
      rw [List.cons_append, leaves, hc, if_neg Bool.false_ne_true,
        ih fun d hd => hword d (List.mem_cons_of_mem _ hd)]
      simp

/-- A word without quotes is a leaf. -/
theorem reads_word {word : List Char} (hne : word ≠ [])
    (hword : ∀ c ∈ word, c ∉ [' ', ',', '(', ')', '\'', '"']) : Reads word [word] := by
  have hbreak : ∀ c ∈ word, isBreak c = false := by
    intro c hc
    have hout := hword c hc
    simp only [List.mem_cons, List.not_mem_nil, or_false, not_or] at hout
    simp [isBreak, hout]
  intro rest hrest
  obtain ⟨c, tail, rfl⟩ := List.exists_cons_of_ne_nil hne
  have hout := hword c List.mem_cons_self
  simp only [List.mem_cons, List.not_mem_nil, or_false, not_or] at hout
  -- The first character is no break and no quote, so a word begins.
  rw [List.cons_append, leaves, if_neg (by simp [hout]), if_neg hout.2.2.2.1,
    hbreak c List.mem_cons_self, if_neg Bool.false_ne_true,
    leaves_word (fun d hd => hbreak d (List.mem_cons_of_mem _ hd)) hrest]
  rfl

section
variable {quote : Char}

/-- Characters other than backslashes and quotes are read as they are. -/
theorem leaves_plain {word : List Char} (h : ∀ c ∈ word, c ∉ ['\\', quote])
    (rest soFar : List Char) :
    leaves (quotation quote soFar) (word ++ rest)
      = leaves (quotation quote (soFar ++ word)) rest := by
  induction word generalizing soFar with
  | nil => simp
  | cons c word ih =>
      have hc := h c List.mem_cons_self
      simp only [List.mem_cons, List.not_mem_nil, or_false, not_or] at hc
      rw [List.cons_append, leaves, if_neg hc.2, if_neg hc.1,
        ih fun d hd => h d (List.mem_cons_of_mem _ hd)]
      simp

variable (hquote : quote = '\'' ∨ quote = '"')
include hquote

/-- A backslash hides what follows it. -/
theorem leaves_backslash (c : Char) (rest soFar : List Char) :
    leaves (quotation quote soFar) ('\\' :: c :: rest)
      = leaves (quotation quote (soFar ++ ['\\', c])) rest := by
  have hne : '\\' ≠ quote := by rcases hquote with rfl | rfl <;> decide
  rw [leaves, if_neg hne, if_pos rfl, leaves]
  simp

/-- No escape ends a quotation. -/
theorem leaves_escape {n : Nat} {word : List Char} (h : Text.Escape quote n word)
    (rest soFar : List Char) :
    leaves (quotation quote soFar) (word ++ rest)
      = leaves (quotation quote (soFar ++ word)) rest := by
  cases h with
  | plain c hn hplain =>
      refine leaves_plain ?_ rest soFar
      simp only [List.mem_cons, List.not_mem_nil, or_false, not_or, forall_eq] at hplain ⊢
      exact ⟨hplain.1, hplain.2.1⟩
  | letter c hc => exact leaves_backslash hquote c rest soFar
  | numbered mark width hmark hn =>
      -- The digits behind the mark are neither backslashes nor quotes.
      have hdigits : ∀ c ∈ Text.hexDigits width n, c ∉ ['\\', quote] := by
        intro c hc
        obtain ⟨m, rfl⟩ := Text.exists_of_mem_hexDigits hc
        have hspec := (Text.hexDigit_spec m).2.2
        rcases hquote with rfl | rfl <;> simp_all
      rw [List.cons_append, List.cons_append, leaves_backslash hquote, leaves_plain hdigits]
      simp

end

/-- A quoted text is a leaf, whatever is in it. -/
theorem reads_quoted (text : List Text.CodePoint) :
    Reads (Text.quoted text).toList [(Text.quoted text).toList] := by
  obtain ⟨quote, hquote, hlist⟩ := Text.toList_quoted text
  -- By induction on the text: no escape ends the quotation, and the closing quote does.
  have hbody : ∀ (units : List Text.CodePoint) (rest soFar : List Char),
      leaves (quotation quote soFar) (units.flatMap (Text.escapeCodePoint quote) ++ quote :: rest)
        = (soFar ++ units.flatMap (Text.escapeCodePoint quote) ++ [quote])
          :: leaves behind rest := by
    intro units rest
    induction units with
    | nil =>
        intro soFar
        rw [List.flatMap_nil, List.nil_append, leaves, if_pos rfl, List.append_nil]
    | cons p units ih =>
        intro soFar
        rw [List.flatMap_cons, List.append_assoc,
          leaves_escape hquote (Text.escape_escapeCodePoint hquote p), ih]
        simp
  intro rest _
  rw [hlist, List.cons_append, leaves, if_pos hquote, List.append_assoc, List.singleton_append,
    Text.escaped, hbody]
  simp

/-! ### Operands in a row -/

/-- A parenthesis in front of an operand opens it. -/
theorem leaves_opening (rest : List Char) : leaves ahead ('(' :: rest) = leaves ahead rest := rfl

/-- A parenthesis behind an operand closes one around it. -/
theorem leaves_closing (rest : List Char) : leaves behind (')' :: rest) = leaves behind rest := rfl

/-- A parenthesis to the right of a name opens its arguments. -/
theorem leaves_called (rest : List Char) : leaves behind ('(' :: rest) = leaves ahead rest := rfl

/-- An operand in parentheses is read as the operand. -/
theorem reads_parenthesized {chars : List Char} {found : List (List Char)} (h : Reads chars found) :
    Reads ('(' :: (chars ++ [')'])) found := by
  intro rest _
  have hinside := h (')' :: rest) (endsRun_cons rfl rest)
  rw [List.cons_append, List.append_assoc, List.singleton_append, leaves_opening, hinside,
    leaves_closing]

/-- Characters between two operands: behind them, a reader is in front of the second one. -/
structure Divides (separator : List Char) : Prop where
  endsRun : ∀ rest, EndsRun (fun c => !isBreak c) (separator ++ rest)
  leaves_behind : ∀ rest, leaves behind (separator ++ rest) = leaves ahead rest

/-- A comma and a blank stand between arguments. -/
theorem divides_comma : Divides [',', ' '] where
  endsRun rest := endsRun_cons rfl _
  leaves_behind rest := by simp [leaves, past, isBreak]

/-- A sign with blanks around it stands between operands. -/
theorem divides_spaced (sign : Sign) : Divides sign.spaced where
  endsRun rest := endsRun_cons rfl _
  leaves_behind rest := by
    cases sign <;> simp [Sign.spaced, Sign.text, leaves, past]

/-- An operand behind another one. -/
theorem reads_link {first separator chars : List Char} {leaf found : List (List Char)}
    (hfirst : Reads first leaf) (hdivides : Divides separator) (hreads : Reads chars found) :
    Reads (first ++ (separator ++ chars)) (leaf ++ found) := by
  intro rest hrest
  rw [List.append_assoc, List.append_assoc, hfirst _ (hdivides.endsRun _), hdivides.leaves_behind,
    hreads rest hrest, List.append_assoc]

/-- Several operands behind another one, all with the same separator. -/
theorem reads_links {α : Type} {links : List α} {separator : List Char} {chars : α → List Char}
    {found : α → List (List Char)} (hdivides : Divides separator)
    (h : ∀ link ∈ links, Reads (chars link) (found link)) {first : List Char}
    {leaf : List (List Char)} (hfirst : Reads first leaf) :
    Reads (first ++ links.flatMap fun link => separator ++ chars link)
      (leaf ++ links.flatMap found) := by
  induction links generalizing first leaf with
  | nil => simpa using hfirst
  | cons link links ih =>
      obtain ⟨hreads, hlinks⟩ := List.forall_mem_cons.mp h
      have hrow := ih hlinks (reads_link hfirst hdivides hreads)
      simpa using hrow

/-- Several operands with one separator between them, or none at all, in parentheses. -/
theorem reads_intercalated {α : Type} {xs : List α} {chars : α → List Char}
    {found : α → List (List Char)} (h : ∀ x ∈ xs, Reads (chars x) (found x)) {separator : List Char}
    (hdivides : Divides separator) :
    Reads ('(' :: (separator.intercalate (xs.map chars) ++ [')'])) (xs.flatMap found) := by
  cases xs with
  | nil =>
      intro rest _
      simp [leaves, isBreak]
  | cons x xs =>
      obtain ⟨hfirst, hrest⟩ := List.forall_mem_cons.mp h
      rw [List.map_cons, Expr.intercalate_cons, List.flatMap_map, List.flatMap_cons]
      exact reads_parenthesized (reads_links hdivides hrest hfirst)

/-- A word and something in parentheses behind it. -/
theorem reads_called {word inner : List Char} {found : List (List Char)} (hword : Reads word [word])
    (hinner : Reads ('(' :: inner) found) : Reads (word ++ '(' :: inner) (word :: found) := by
  intro rest hrest
  have hargs := hinner rest hrest
  rw [List.cons_append, leaves_opening] at hargs
  rw [List.append_assoc, List.cons_append, hword _ (endsRun_cons rfl _), leaves_called, hargs]
  rfl

end Reader

/-! ### Leaves -/

/-- What expressions are made of in the end. -/
inductive Leaf where
  | name (id : String)
  | number (value : Number)
  | string (text : List Text.CodePoint)

namespace Leaf

/-- The characters of a leaf.  The parentheses around a complex number are not counted in. -/
def chars : Leaf → List Char
  | name id => id.toList
  | number n => n.text.toList.filter fun c => c != '(' && c != ')'
  | string text => (Text.quoted text).toList

/-- The text of a leaf. -/
def text (leaf : Leaf) : String :=
  String.ofList leaf.chars

end Leaf

/-- No character of a number is a break or a quote. -/
theorem not_mem_of_isNumeric {c : Char} (h : isNumeric c = true) :
    c ∉ [' ', ',', '(', ')', '\'', '"'] := by
  have hnone : [' ', ',', '(', ')', '\'', '"'].all (fun d => !isNumeric d) = true := rfl
  intro hmem
  have hout := List.all_eq_true.mp hnone c hmem
  rw [h] at hout
  cases hout

/-- The text of a number is a leaf, with parentheses around it or not. -/
theorem Reader.reads_number (n : Number) : Reads n.text.toList [(Leaf.number n).chars] := by
  obtain ⟨word, hword, htext⟩ := n.exists_numeral
  have hplain : word.filter (fun c => c != '(' && c != ')') = word := by
    refine List.filter_eq_self.mpr fun c hc => ?_
    have hout := not_mem_of_isNumeric (hword.numeric c hc)
    simp only [List.mem_cons, List.not_mem_nil, or_false, not_or] at hout
    simp [hout]
  have hreads := reads_word hword.ne_nil fun c hc => not_mem_of_isNumeric (hword.numeric c hc)
  rw [Leaf.chars]
  -- Only complex numbers have parentheses, which are not counted in.
  rcases htext with htext | htext
  · rw [htext, hplain]
    exact hreads
  · have hinside : ('(' :: (word ++ [')'])).filter (fun c => c != '(' && c != ')') = word := by
      simp [hplain]
    rw [htext, hinside]
    exact reads_parenthesized hreads

namespace Expr

open Reader

/-- A text stands for an expression, and it is read as an operand with the given leaves. -/
structure ReadsAs (e : Expr) (found : List (List Char)) : Prop where
  meets : e.Meets []
  reads : Reads e.text.toList found

/-- An expression is read as the text that stands for it. -/
theorem readsAs_of_piece {e : Expr} {text : String} {found : List (List Char)}
    (hpiece : e.piece = .ok (.text text)) (hreads : Reads text.toList found) : e.ReadsAs found := by
  have htext : e.text = text := by rw [Expr.text, hpiece]
  exact ⟨meets_of_piece hpiece, by rwa [htext]⟩

/-- An operation is read as its operands. -/
theorem readsAs_binary {left right : Expr} {found found' : List (List Char)}
    (hleft : left.ReadsAs found) (hright : right.ReadsAs found') (sign : Sign) :
    (binary left (.ok sign) right).ReadsAs (found ++ found') := by
  have hpiece : piece (binary left (.ok sign) right)
      = .ok (.text ("(" ++ (left.text ++ " " ++ sign.text ++ " " ++ right.text) ++ ")")) := by
    rw [piece, bare_binary, hleft.meets, hright.meets]
    rfl
  have hreads := reads_parenthesized (reads_link hleft.reads (divides_spaced sign) hright.reads)
  refine readsAs_of_piece hpiece ?_
  simpa [Sign.spaced] using hreads

section
variable {α : Type} {xs : List α} {expr : α → Expr} {found : α → List (List Char)}
  (h : ∀ x ∈ xs, (expr x).ReadsAs (found x))
include h

/-- Texts stand for expressions each of which is read as leaves. -/
theorem pieces_of_readsAs :
    pieces (xs.map expr) = .ok ((xs.map fun x => (expr x).text).map .text) := by
  have hmeets : ∀ x ∈ xs, (expr x).Meets ((fun _ => []) x) := fun x hx => (h x hx).meets
  rw [pieces_of_meets hmeets, List.flatMap_eq_nil_iff.mpr fun _ _ => rfl]
  rfl

/-- A row of operands with a sign between them is read as its operands. -/
theorem readsAs_junction (sign : Sign) :
    (junction (.ok sign) (xs.map expr)).ReadsAs (xs.flatMap found) := by
  have hjoin := Piece.join_texts (" " ++ sign.text ++ " ") (xs.map fun x => (expr x).text)
  have hpiece : piece (junction (.ok sign) (xs.map expr)) = .ok (.text ("(" ++
      (" " ++ sign.text ++ " ").intercalate (xs.map fun x => (expr x).text) ++ ")")) := by
    rw [piece, bare, pieces_of_readsAs h]
    simp only [bind, Except.bind, hjoin]
    rfl
  have hreads := reads_intercalated (fun x hx => (h x hx).reads) (divides_spaced sign)
  refine readsAs_of_piece hpiece ?_
  simpa [Sign.spaced, String.toList_intercalate, Function.comp_def] using hreads

/-- A call is read as its name and its arguments, without the keyword arguments. -/
theorem readsAs_call {id : String} (hid : Reads id.toList [id.toList]) (keywords : List Expr) :
    (call (.ok (.text id)) (xs.map expr) keywords).ReadsAs (id.toList :: xs.flatMap found) := by
  have hpiece : piece (call (.ok (.text id)) (xs.map expr) keywords) = .ok (.text
      (id ++ "(" ++ ", ".intercalate (xs.map fun x => (expr x).text) ++ ")")) := by
    rw [piece, bare, pieces_of_readsAs h]
    simp only [bind, Except.bind, shownAll_texts]
    rfl
  have hreads := reads_called hid (reads_intercalated (fun x hx => (h x hx).reads) divides_comma)
  refine readsAs_of_piece hpiece ?_
  simpa [String.toList_intercalate, Function.comp_def] using hreads

/-- A comparison goes on operand by operand. -/
theorem compared_of_readsAs {sign : α → Except Refusal Sign}
    (hsign : ∀ x ∈ xs, ∃ value, sign x = .ok value) {start : String} {leaf : List (List Char)}
    (hstart : Reads start.toList leaf) :
    ∃ text, compared (.text start) (xs.map sign) (xs.map expr) = .ok (.text text) ∧
      Reads text.toList (leaf ++ xs.flatMap found) := by
  induction xs generalizing start leaf with
  | nil => exact ⟨start, rfl, by simpa using hstart⟩
  | cons x xs ih =>
      rw [List.forall_mem_cons] at h hsign
      obtain ⟨value, hvalue⟩ := hsign.1
      -- What has been reached is the start of what is left.
      have hnext : Reads (start ++ (" " ++ value.text ++ " " ++ (expr x).text)).toList
          (leaf ++ found x) := by
        have hlink := reads_link hstart (divides_spaced value) h.1.reads
        simpa [Sign.spaced] using hlink
      obtain ⟨text, htext, hreads⟩ := ih h.2 hsign.2 hnext
      refine ⟨text, ?_, ?_⟩
      · rw [List.map_cons, List.map_cons, compared_cons, hvalue, h.1.meets]
        exact htext
      · rwa [List.flatMap_cons, ← List.append_assoc]

/-- A comparison is read as its operands. -/
theorem readsAs_comparison {left : Expr} {leaf : List (List Char)} (hleft : left.ReadsAs leaf)
    {sign : α → Except Refusal Sign} (hsign : ∀ x ∈ xs, ∃ value, sign x = .ok value) :
    (comparison left (xs.map sign) (xs.map expr)).ReadsAs (leaf ++ xs.flatMap found) := by
  obtain ⟨text, htext, hreads⟩ := compared_of_readsAs h hsign hleft.reads
  have hpiece : piece (comparison left (xs.map sign) (xs.map expr))
      = .ok (.text ("(" ++ text ++ ")")) := by
    rw [piece, bare_comparison, hleft.meets]
    show compared (.text left.text) (xs.map sign) (xs.map expr) >>= _ = _
    rw [htext]
    rfl
  refine readsAs_of_piece hpiece ?_
  simpa using reads_parenthesized hreads

end

end Expr

namespace Tree

mutual

/-- The leaves of a tree in the order of its fields, each with whether it is shown: what is inside a
keyword argument of a call is not. -/
def leaves : Tree → List (Leaf × Bool)
  | .node .ident (.constant (.str id) :: _) _ => [(.name (Text.ofCodePoints id), true)]
  | .node .constant (.constant (.number n) :: _) _ => [(.number n, true)]
  | .node .constant (.constant (.str text) :: _) _ => [(.string text, true)]
  | .node .call [function, args, keywords] _ =>
    leaves function ++ leaves args ++ (leaves keywords).map fun leaf => (leaf.1, false)
  | .node _ fields _ => leavesAll fields
  | .list items => leavesAll items
  | _ => []

/-- The leaves of several trees. -/
def leavesAll : List Tree → List (Leaf × Bool)
  | [] => []
  | t :: rest => leaves t ++ leavesAll rest

end

/-- The texts of all leaves of a tree. -/
def leafTexts (t : Tree) : List String :=
  t.leaves.map fun leaf => leaf.1.text

/-- The leaves of a tree that are shown. -/
def shownLeaves (t : Tree) : List Leaf :=
  (t.leaves.filter fun leaf => leaf.2).map fun leaf => leaf.1

/-- The leaves of several trees are those of each of them. -/
theorem leavesAll_eq_flatMap (ts : List Tree) : leavesAll ts = ts.flatMap leaves := by
  induction ts with
  | nil => rfl
  | cons t ts ih => rw [leavesAll, ih, List.flatMap_cons]

/-- An operator has no leaves. -/
theorem leaves_operator (op : Kind) (place : Place Tree) : leaves (.node op [] place) = [] := by
  cases op <;> rfl

/-- The leaves shown of a list are those shown of its items. -/
theorem shownLeaves_list (ts : List Tree) : shownLeaves (.list ts) = ts.flatMap shownLeaves := by
  rw [shownLeaves, leaves, leavesAll_eq_flatMap, List.filter_flatMap, List.map_flatMap]
  rfl

section
variable {place : Place Tree}

/-- The leaves shown of an operation are those shown of its operands. -/
theorem shownLeaves_binary (left right : Tree) (op : Kind) (opPlace : Place Tree) :
    shownLeaves (.node .binOp [left, .node op [] opPlace, right] place)
      = left.shownLeaves ++ right.shownLeaves := by
  have hleaves : leaves (.node .binOp [left, .node op [] opPlace, right] place)
      = left.leaves ++ right.leaves := by
    show left.leaves ++ (leaves (.node op [] opPlace) ++ (right.leaves ++ [])) = _
    rw [leaves_operator, List.nil_append, List.append_nil]
  rw [shownLeaves, hleaves, List.filter_append, List.map_append]
  rfl

/-- The leaves shown of a row of operands are those shown of each operand. -/
theorem shownLeaves_junction (operands : List Tree) (op : Kind) (opPlace : Place Tree) :
    shownLeaves (.node .boolOp [.node op [] opPlace, .list operands] place)
      = operands.flatMap shownLeaves := by
  have hleaves : leaves (.node .boolOp [.node op [] opPlace, .list operands] place)
      = leaves (.list operands) := by
    show leaves (.node op [] opPlace) ++ (leaves (.list operands) ++ []) = _
    rw [leaves_operator, List.nil_append, List.append_nil]
  rw [← shownLeaves_list, shownLeaves, hleaves]
  rfl

/-- The leaves shown of a comparison are those shown of its operands. -/
theorem shownLeaves_comparison (left : Tree) (links : List (Kind × Place Tree × Tree)) :
    shownLeaves (.node .compare [left, .list (links.map fun link => .node link.1 [] link.2.1),
        .list (links.map fun link => link.2.2)] place)
      = left.shownLeaves ++ links.flatMap fun link => link.2.2.shownLeaves := by
  -- The operators stand in a list of their own, which has no leaves.
  have hops : leaves (.list (links.map fun link => .node link.1 [] link.2.1)) = [] := by
    rw [leaves, leavesAll_eq_flatMap, List.flatMap_map, List.flatMap_eq_nil_iff]
    exact fun link _ => leaves_operator link.1 link.2.1
  have hleaves : leaves (.node .compare [left,
      .list (links.map fun link => .node link.1 [] link.2.1),
      .list (links.map fun link => link.2.2)] place)
        = left.leaves ++ leaves (.list (links.map fun link => link.2.2)) := by
    show left.leaves ++ (leaves (.list _) ++ (leaves (.list _) ++ [])) = _
    rw [hops, List.nil_append, List.append_nil]
  have hothers := shownLeaves_list (links.map fun link => link.2.2)
  rw [List.flatMap_map] at hothers
  rw [← hothers, shownLeaves, hleaves, List.filter_append, List.map_append]
  rfl

/-- The keyword arguments of a call are not shown. -/
theorem shownLeaves_call (function keywords : Tree) (args : List Tree) :
    shownLeaves (.node .call [function, .list args, keywords] place)
      = function.shownLeaves ++ args.flatMap shownLeaves := by
  have hkeywords : (keywords.leaves.map fun leaf => (leaf.1, false)).filter
      (fun leaf => leaf.2) = [] := by
    simp
  rw [← shownLeaves_list, shownLeaves, leaves, List.filter_append, List.filter_append, hkeywords,
    List.append_nil, List.map_append]
  rfl

end

/-! ### The leaves of a text -/

open Flowchart.Expr Reader

/-- A name is a leaf. -/
theorem reads_identifier {id : String} (h : Text.isIdentifier id.toList = true) :
    Reads id.toList [id.toList] := by
  have hbelow : [' ', ',', '(', ')', '\'', '"'].all (fun d => decide (d.toNat < 48)) = true := rfl
  refine reads_word ?_ fun c hc hmem => ?_
  · intro hnil
    rw [hnil] at h
    cases h
  · have hlt := of_decide_eq_true (List.all_eq_true.mp hbelow c hmem)
    have hle := Text.le_toNat_of_isIdentifier h c hc
    omega

/-- A called function without an obstacle is a name. -/
theorem Parsed.exists_name {function : Tree} (h : function.Parsed)
    (hclear : calleeObstacles function = []) :
    ∃ id ctx place, function = .node .ident [.constant (.str id), ctx] place := by
  have hname := calleeObstacles_eq_nil.mp hclear
  cases h with
  | name hplace => exact ⟨_, _, _, rfl⟩
  -- Names are not among the other kinds.
  | other hkind hplaced hplace =>
      unfold isName at hname
      split at hname
      · next heq =>
          cases heq
          exact absurd (by decide) hkind
      · cases hname
  | _ => cases hname

/-- The sign of an operator without an obstacle. -/
theorem exists_sign {op : Kind} {place : Place Tree}
    (hclear : operatorObstacles (.node op [] place) = []) :
    ∃ sign, signOf (.node op [] place) = .ok sign := by
  obtain ⟨sign, hsign⟩ := signOf_node op [] place
  rw [hclear] at hsign
  exact ⟨sign, hsign⟩

/-- A number within the limit of digits is read as a leaf. -/
theorem readsAs_number {n : Number} (h : n.isShort = true) :
    (Expr.number n).ReadsAs [(Leaf.number n).chars] := by
  have htext : n.text? = some n.text := by
    cases n with
    | int n =>
        rw [Number.isShort, decide_eq_true_iff] at h
        rw [Number.text?, intText?, if_pos h]
        rfl
    | float x => rfl
    | complex re im => rfl
  refine @readsAs_of_piece _ n.text _ ?_ (reads_number n)
  rw [piece, bare, htext]
  rfl

/-- An expression without obstacles is read as its leaves, but for those that are not shown. -/
theorem Parsed.readsAs {t : Tree} (h : t.Parsed) (hclear : t.obstacles = [])
    (hnames : ∀ id, Leaf.name id ∈ t.shownLeaves → Text.isIdentifier id.toList = true) :
    (ofTree t).ReadsAs (t.shownLeaves.map Leaf.chars) := by
  induction h with
  | @name id ctx place hplace =>
      exact readsAs_of_piece rfl
        (reads_identifier (hnames (Text.ofCodePoints id) List.mem_cons_self))
  | @constant value suffix place hplace =>
      -- Of the constants only numbers and texts have no obstacle.
      cases value with
      | number n =>
          rw [obstacles] at hclear
          split at hclear
          · next hshort => exact readsAs_number hshort
          · cases hclear
      | str text => exact readsAs_of_piece rfl (reads_quoted text)
      | _ => cases hclear
  | @binary left right op opPlace place hplace hleft hright ihLeft ihRight =>
      rw [obstacles, List.append_eq_nil_iff, List.append_eq_nil_iff] at hclear
      obtain ⟨⟨hleftClear, hrightClear⟩, hopClear⟩ := hclear
      obtain ⟨sign, hsign⟩ := exists_sign hopClear
      rw [shownLeaves_binary] at hnames ⊢
      rw [ofTree, hsign, List.map_append]
      exact readsAs_binary
        (ihLeft hleftClear fun id hid => hnames id (List.mem_append_left _ hid))
        (ihRight hrightClear fun id hid => hnames id (List.mem_append_right _ hid)) sign
  | @junction operands op opPlace place hplace hoperands ih =>
      rw [obstacles, allObstacles_eq_flatMap, List.append_eq_nil_iff, List.flatMap_eq_nil_iff]
        at hclear
      obtain ⟨hoperandsClear, hopClear⟩ := hclear
      obtain ⟨sign, hsign⟩ := exists_sign hopClear
      rw [shownLeaves_junction] at hnames ⊢
      rw [ofTree, ofItems, ofTrees_eq_map, hsign, List.map_flatMap]
      exact readsAs_junction (fun t ht => ih t ht (hoperandsClear t ht)
        fun id hid => hnames id (List.mem_flatMap.mpr ⟨t, ht, hid⟩)) sign
  | @comparison left links place hplace hleft hlinks ihLeft ih =>
      rw [obstacles, linkedObstacles_map, List.append_eq_nil_iff, List.flatMap_eq_nil_iff] at hclear
      obtain ⟨hleftClear, hlinksClear⟩ := hclear
      have hlinkClear := fun link hlink => List.append_eq_nil_iff.mp (hlinksClear link hlink)
      rw [shownLeaves_comparison] at hnames ⊢
      rw [ofTree, signsOf, ofOthers, ofTrees_eq_map, List.map_map, List.map_map, List.map_append,
        List.map_flatMap]
      exact readsAs_comparison (fun link hlink =>
        ih link hlink (hlinkClear link hlink).2 fun id hid =>
          hnames id (List.mem_append_right _ (List.mem_flatMap.mpr ⟨link, hlink, hid⟩)))
        (ihLeft hleftClear fun id hid => hnames id (List.mem_append_left _ hid))
        fun link hlink => exists_sign (hlinkClear link hlink).1
  | @call function keywords args place hplace hfunction hargs ihFunction ih =>
      rw [obstacles, allObstacles_eq_flatMap, List.append_eq_nil_iff, List.flatMap_eq_nil_iff]
        at hclear
      obtain ⟨hfunctionClear, hargsClear⟩ := hclear
      obtain ⟨id, ctx, idPlace, rfl⟩ := hfunction.exists_name hfunctionClear
      rw [shownLeaves_call] at hnames ⊢
      rw [ofTree, ofItems, ofTrees_eq_map, List.map_append, List.map_flatMap]
      exact readsAs_call (fun t ht => ih t ht (hargsClear t ht) fun id hid =>
          hnames id (List.mem_append_right _ (List.mem_flatMap.mpr ⟨t, ht, hid⟩)))
        (reads_identifier (hnames _ List.mem_cons_self)) _
  | other hkind hplaced hplace =>
      rw [obstacles_other hkind] at hclear
      cases hclear

/-- All leaves of a tree are shown, or some text is missing among those that are. -/
theorem map_shownLeaves_eq_iff (t : Tree) :
    t.shownLeaves.map Leaf.text = t.leafTexts ↔ ∀ leaf ∈ t.leaves, leaf.2 = true := by
  rw [shownLeaves, leafTexts, List.map_map]
  constructor
  · intro h
    have hlength := congrArg List.length h
    rw [List.length_map, List.length_map] at hlength
    exact List.length_filter_eq_length_iff.mp hlength
  · intro h
    rw [List.filter_eq_self.mpr h]
    rfl

/-- The leaves of the text of an expression, read from the left, are the leaves of the expression in
their order, but for those inside the keyword arguments of calls.  So they are all of its leaves
exactly if none is inside a keyword argument. -/
theorem leaves_of_text {t : Tree} (h : t.Parsed)
    (hnames : ∀ id, Leaf.name id ∈ t.shownLeaves → Text.isIdentifier id.toList = true)
    {text : String} (htext : (ofTree t).piece = .ok (.text text)) :
    readLeaves text = t.shownLeaves.map Leaf.text ∧
    (readLeaves text = t.leafTexts ↔ ∀ leaf ∈ t.leaves, leaf.2 = true) := by
  have hmeets : (ofTree t).piece = barring (t.obstacles.map Obstacle.refusal) _ := h.meets
  rw [htext] at hmeets
  obtain ⟨hclear, hsame⟩ := barring_eq_ok.mp hmeets.symm
  -- The text is read to its end, where nothing follows.
  have hreads := (h.readsAs (List.map_eq_nil_iff.mp hclear) hnames).reads [] endsRun_nil
  rw [Piece.text.inj hsame, List.append_nil] at hreads
  have hread : readLeaves text = t.shownLeaves.map Leaf.text := by
    rw [readLeaves, hreads, List.map_append, List.map_map]
    exact List.append_nil _
  rw [hread]
  exact ⟨rfl, map_shownLeaves_eq_iff t⟩

/-- A call inside an operation inside a comparison inside a call, all by position, and a text with
all kinds of breaks in it. -/
theorem leaves_of_text_nested :
    let place : Place Tree :=
      ⟨.constant (.int 1), .constant (.int 0), .constant .none, .constant .none, []⟩
    let word (id : String) : Tree := .node .ident [.constant (.ofString id), .constant .none] place
    let op (kind : Kind) : Tree := .node kind [] (.nowhere kind)
    let quotation : Tree := .node .constant [.constant (.ofString "x, (y)"), .constant .none] place
    let inner : Tree := .node .call [word "g", .list [word "a", quotation], .list []] place
    let sum : Tree := .node .binOp [inner, op .add, word "b"] place
    let test : Tree := .node .compare [sum, .list [op .lt], .list [word "c"]] place
    let t : Tree := .node .call [word "f", .list [test, word "d"], .list []] place
    t.Parsed ∧ (ofTree t).piece = .ok (.text "f(((g(a, 'x, (y)') + b) < c), d)") ∧
      t.leafTexts = ["f", "g", "a", "'x, (y)'", "b", "c", "d"] ∧
      readLeaves "f(((g(a, 'x, (y)') + b) < c), d)" = t.leafTexts := by
  intro place word op quotation inner sum test t
  have hplace : IsLocated place :=
    ⟨⟨1, rfl, by decide +kernel⟩, ⟨0, rfl, by decide +kernel⟩, rfl⟩
  have hword : ∀ id, (word id).Parsed := fun id => .name hplace
  have hinner : inner.Parsed := .call hplace (hword "g")
    (List.forall_mem_cons.mpr ⟨hword "a", List.forall_mem_singleton.mpr (.constant hplace)⟩)
  have htest : test.Parsed := @Parsed.comparison _ [(.lt, .nowhere .lt, word "c")] _ hplace
    (.binary hplace hinner (hword "b")) (List.forall_mem_singleton.mpr (hword "c"))
  have ht : t.Parsed := .call hplace (hword "f")
    (List.forall_mem_cons.mpr ⟨htest, List.forall_mem_singleton.mpr (hword "d")⟩)
  have hpiece : (ofTree t).piece = .ok (.text "f(((g(a, 'x, (y)') + b) < c), d)") := rfl
  have hleaves : t.shownLeaves =
    [.name "f", .name "g", .name "a", .string (Text.codePoints "x, (y)"), .name "b", .name "c",
      .name "d"] := rfl
  refine ⟨ht, hpiece, rfl, (leaves_of_text ht ?_ hpiece).2.mpr ?_⟩
  · intro id hid
    rw [hleaves] at hid
    simp only [List.mem_cons, Leaf.name.injEq, List.not_mem_nil, or_false, reduceCtorEq, false_or]
      at hid
    rcases hid with rfl | rfl | rfl | rfl | rfl | rfl <;> rfl
  · have hshown : t.leaves.all (fun leaf => leaf.2) = true := rfl
    exact List.all_eq_true.mp hshown

/-- The keyword argument of a call is not in its text. -/
theorem keyword_argument_left_out :
    let place : Place Tree :=
      ⟨.constant (.int 1), .constant (.int 0), .constant .none, .constant .none, []⟩
    let word (id : String) : Tree := .node .ident [.constant (.ofString id), .constant .none] place
    let keyword : Tree := .node .keywordArg [.constant (.ofString "b"), word "c"] place
    let t : Tree := .node .call [word "f", .list [word "a"], .list [keyword]] place
    t.Parsed ∧ (ofTree t).piece = .ok (.text "f(a)") ∧ readLeaves "f(a)" = ["f", "a"] ∧
      t.leafTexts = ["f", "a", "c"] := by
  intro place word keyword t
  have hplace : IsLocated place :=
    ⟨⟨1, rfl, by decide +kernel⟩, ⟨0, rfl, by decide +kernel⟩, rfl⟩
  exact ⟨.call hplace (.name hplace) (List.forall_mem_singleton.mpr (.name hplace)), rfl, rfl, rfl⟩

end Tree

end Flowchart
