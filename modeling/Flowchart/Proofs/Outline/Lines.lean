import Flowchart.Proofs.Outline.Readability
import Mathlib.Data.List.Forall2

/-!
# `Flowchart.Proofs.Outline.Lines`: where the lines of an outline begin

After the first line, a line of an outline begins an item of a list or closes a list.  The lists and
items of a tree can be gone through without writing the tree (`Outline.marks`), and this tells for
every line what it begins with and how many steps it is further in: twice as many as there are lists
around an item, and one less for the end of the innermost of them (`Mark.Begins`).  The rest of a
line does not depend on the step.  Both are `outline_lines`.

The tokens of a tree are split where lines end (`firstRow`, `laterRows`).  One invariant carries the
result through nodes and lists: every line end is followed by what it announces (`Led`).  It holds
of rows of tokens one behind the other because it only looks ahead to what was written together with
the line end.
-/

set_option autoImplicit false

namespace Flowchart

namespace Tree

/-- Whether a tree is written on its line by itself and without a fault if its children are. -/
def IsPlain : Tree → Prop
  | .constant c => c.text?.isSome = true ∧ c.isDistinct = true
  | .absent _ _ => False
  | _ => True

/-- All parts of a tree are plain. -/
def Plain (places : Bool) (t : Tree) : Prop :=
  ∀ s, t.Part places s → s.IsPlain

/-- The children of a plain tree are plain. -/
theorem Plain.child {places : Bool} {t s : Tree} (h : t.Plain places) (hs : s ∈ t.children places) :
    s.Plain places :=
  fun part hpart => h part (.head hs hpart)

/-- The parts of a plain tree can be written. -/
theorem Plain.hasText {places : Bool} {t s : Tree} (h : t.Plain places) (hs : t.Part places s) :
    s.HasText := by
  have hplain := h s hs
  cases s with
  | constant c => exact hplain.1
  | absent owner field => exact hplain
  | _ => trivial

/-- A tree whose parts can be written and whose constants tell what they are is plain. -/
theorem plain_of_hasText {places : Bool} {t : Tree} (htext : ∀ s, t.Part places s → s.HasText)
    (hconstants : ∀ c, t.Part places (.constant c) → c.isDistinct = true) : t.Plain places := by
  intro s hs
  have hwritten := htext s hs
  cases s with
  | constant c => exact ⟨hwritten, hconstants c hs⟩
  | absent owner field => exact hwritten
  | _ => trivial

end Tree

namespace Outline

open Flowchart.Tree

/-! ### What lines begin with -/

/-- What the lines of a tree begin with after the first one, if there are `depth` lists around
it. -/
def marks (places : Bool) (depth : Nat) : Tree → List Mark
  | .node kind fields place =>
    ((Tree.node kind fields place).children places).attach.flatMap
      fun ⟨s, _⟩ => marks places depth s
  | .list [] => []
  | .list (first :: rest) =>
    ((first :: rest).attach.flatMap fun ⟨item, _⟩ =>
        .item (depth + 1) item :: marks places (depth + 1) item) ++
      [.close (depth + 1) (first :: rest)]
  | .constant _ | .absent _ _ => []
termination_by t => sizeOf t
decreasing_by
  · exact Tree.sizeOf_lt_of_mem_children ‹_›
  · exact @Tree.sizeOf_lt_of_mem_children false _ _ ‹_›

/-- The lines of a node are those of what it shows. -/
theorem marks_node (places : Bool) (depth : Nat) (kind : Kind) (fields : List Tree)
    (place : Place Tree) : marks places depth (.node kind fields place) =
      ((Tree.node kind fields place).entries places).flatMap fun e => marks places depth e.2 := by
  rw [marks, List.flatMap_subtype fun _ _ => rfl, List.unattach_attach, Tree.children,
    List.flatMap_map]
  simp

/-- The lines of a list that is not empty: one for each item with the lines of the item behind it,
and one to close the list. -/
theorem marks_list (places : Bool) (depth : Nat) {items : List Tree} (h : items ≠ []) :
    marks places depth (.list items) =
      (items.flatMap fun item => .item (depth + 1) item :: marks places (depth + 1) item) ++
        [.close (depth + 1) items] := by
  obtain ⟨first, rest, rfl⟩ := List.exists_cons_of_ne_nil h
  rw [marks, List.flatMap_subtype fun _ _ => rfl, List.unattach_attach]

/-- The lines of a text. -/
def lines (text : String) : List (List Char) :=
  text.toList.splitOn '\n'

/-- A line without the blanks in front. -/
def trimmed (line : List Char) : List Char :=
  line.dropWhile Text.isBlank

/-- Whether a step of indentation is made of blanks and does not end a line. -/
def isMargin (step : String) : Bool :=
  step.toList.all fun c => Text.isBlank c && c != '\n'

/-- What it means for a line to begin as a mark says. -/
def Mark.Begins (options : Options) (step : String) (line : List Char) : Mark → Prop
  | item depth element => 1 ≤ depth ∧ ∃ c rest, line = margin step (2 * depth) ++ c :: rest ∧
      Text.isBlank c = false ∧ ∃ own first others, text options (2 * depth) element = .ok own ∧
        lines own = first :: others ∧ first <+: c :: rest
  | close depth items => 1 ≤ depth ∧ items ≠ [] ∧
      ∃ rest, line = margin step (2 * depth - 1) ++ ']' :: rest

/-! ### Rows of tokens -/

/-- The characters before the first line end. -/
def firstRow : List Token → List Char
  | [] => []
  | .char c :: rest => c :: firstRow rest
  | .lineEnd _ :: _ => []

/-- The characters behind each line end. -/
def laterRows : List Token → List (Mark × List Char)
  | [] => []
  | .char _ :: rest => laterRows rest
  | .lineEnd next :: rest => (next, firstRow rest) :: laterRows rest

/-- A row of tokens that goes on begins with what it began with. -/
theorem firstRow_prefix {ts ts' : List Token} (h : ts <+: ts') : firstRow ts <+: firstRow ts' := by
  obtain ⟨more, rfl⟩ := h
  induction ts with
  | nil => exact List.nil_prefix
  | cons token ts ih =>
      cases token with
      | char c => exact (List.prefix_cons_inj c).mpr ih
      | lineEnd next => exact List.nil_prefix

/-- What stands in front of the first text stands in front of them all. -/
theorem intercalate_append_cons {α : Type} (separator a b : List α) (rest : List (List α)) :
    separator.intercalate ((a ++ b) :: rest) = a ++ separator.intercalate (b :: rest) := by
  cases rest with
  | nil => simp
  | cons text rest => simp [List.intercalate_cons_cons]

/-- What is written for tokens is the first row and, behind a line end each, the later ones with
their indentation. -/
theorem render_eq_intercalate (step : String) (ts : List Token) :
    render step ts = ['\n'].intercalate
      (firstRow ts :: (laterRows ts).map fun row => margin step row.1.steps ++ row.2) := by
  induction ts with
  | nil => rfl
  | cons token ts ih =>
      cases token with
      | char c => exact (congrArg (c :: ·) ih).trans (intercalate_append_cons _ [c] _ _).symm
      | lineEnd next =>
          rw [render_cons, ih, firstRow, laterRows, List.map_cons, List.intercalate_cons_cons,
            intercalate_append_cons]
          rfl

/-- No character among the tokens ends a line. -/
def OneLined (ts : List Token) : Prop :=
  ∀ c, .char c ∈ ts → c ≠ '\n'

/-- Without characters that end a line, the first row is on one line. -/
theorem OneLined.firstRow {ts : List Token} (h : OneLined ts) : '\n' ∉ firstRow ts := by
  induction ts with
  | nil => simp [Outline.firstRow]
  | cons token ts ih =>
      have hrest := ih fun c hc => h c (List.mem_cons_of_mem _ hc)
      cases token with
      | char c =>
          have hc := h c List.mem_cons_self
          simp [Outline.firstRow, hrest, hc.symm]
      | lineEnd next => simp [Outline.firstRow]

/-- Without characters that end a line, every later row is on one line. -/
theorem OneLined.laterRows {ts : List Token} (h : OneLined ts) :
    ∀ row ∈ laterRows ts, '\n' ∉ row.2 := by
  induction ts with
  | nil => simp [Outline.laterRows]
  | cons token ts ih =>
      have hts : OneLined ts := fun c hc => h c (List.mem_cons_of_mem _ hc)
      cases token with
      | char c => exact ih hts
      | lineEnd next => exact List.forall_mem_cons.mpr ⟨hts.firstRow, ih hts⟩

/-- The characters of a margin are blanks that do not end a line. -/
theorem of_mem_margin {step : String} (hstep : isMargin step = true) {count : Nat} {c : Char}
    (hc : c ∈ margin step count) : Text.isBlank c = true ∧ c ≠ '\n' := by
  simpa using List.all_eq_true.mp hstep c (mem_of_mem_margin hc)

/-- The lines of what is written for tokens. -/
theorem lines_render {step : String} (hstep : isMargin step = true) {ts : List Token}
    (h : OneLined ts) : lines (String.ofList (render step ts)) =
      firstRow ts :: (laterRows ts).map fun row => margin step row.1.steps ++ row.2 := by
  rw [lines, String.toList_ofList, render_eq_intercalate]
  refine List.splitOn_intercalate '\n' ?_ (List.cons_ne_nil _ _)
  refine List.forall_mem_cons.mpr ⟨h.firstRow, List.forall_mem_map.mpr fun row hrow => ?_⟩
  rw [List.mem_append, not_or]
  exact ⟨fun hmem => (of_mem_margin hstep hmem).2 rfl, h.laterRows row hrow⟩

/-- Without the blanks in front the step is not seen. -/
theorem trimmed_lines_render {step : String} (hstep : isMargin step = true) {ts : List Token}
    (h : OneLined ts) : (lines (String.ofList (render step ts))).map trimmed =
      trimmed (firstRow ts) :: (laterRows ts).map fun row => trimmed row.2 := by
  rw [lines_render hstep h, List.map_cons, List.map_map]
  refine congrArg _ (List.map_congr_left fun row _ => ?_)
  exact List.dropWhile_append_of_pos fun c hc => (of_mem_margin hstep hc).1

/-! ### The line ends of a tree -/

/-- The mark of a line end. -/
def Token.mark? : Token → Option Mark
  | char _ => none
  | lineEnd next => some next

/-- The later rows begin at the line ends. -/
theorem laterRows_map_fst (ts : List Token) :
    (laterRows ts).map (·.1) = ts.filterMap Token.mark? := by
  induction ts with
  | nil => rfl
  | cons token ts ih =>
      cases token with
      | char c => exact ih
      | lineEnd next => exact congrArg (next :: ·) ih

/-- No line ends within spelled characters. -/
@[simp] theorem filterMap_mark?_spelled (s : String) : (spelled s).filterMap Token.mark? = [] := by
  simp [spelled, Token.mark?, List.filterMap_map, Function.comp_def]

/-- Where a separator has no values, those of texts with separators are those of the texts. -/
theorem filterMap_intercalate {α β : Type} (f : α → Option β) {separator : List α}
    (hseparator : separator.filterMap f = []) (texts : List (List α)) :
    (separator.intercalate texts).filterMap f = texts.flatMap (List.filterMap f) := by
  induction texts with
  | nil => rfl
  | cons text texts ih =>
      cases texts with
      | nil => simp
      | cons next texts => simp [List.intercalate_cons_cons, ih, hseparator]

/-- The lines of a tree end where its lists and items tell. -/
theorem filterMap_mark?_tokens (names places : Bool) (t : Tree) : ∀ depth,
    (tokens names places depth t).filterMap Token.mark? = marks places depth t := by
  induction t using Tree.childInduction places with
  | step t ih =>
      intro depth
      cases t with
      | node kind fields place =>
          -- Names, labels and commas have no line ends in them.
          rw [tokens_node, marks_node, List.filterMap_append, List.filterMap_append,
            filterMap_intercalate _ (filterMap_mark?_spelled ", "), List.flatMap_map]
          simp only [filterMap_mark?_spelled, List.filterMap_append, List.nil_append,
            List.append_nil]
          exact List.flatMap_congr fun e he => ih e.2 (List.mem_map_of_mem he) depth
      | list items =>
          cases items with
          | nil => rw [tokens, marks, filterMap_mark?_spelled]
          | cons first rest =>
              rw [tokens_list _ _ _ (List.cons_ne_nil _ _), marks_list _ _ (List.cons_ne_nil _ _),
                List.filterMap_append, List.filterMap_append, List.filterMap_flatMap,
                filterMap_mark?_spelled, List.nil_append]
              refine congrArg (· ++ _) (List.flatMap_congr fun item hitem => ?_)
              simp [Token.mark?, ih item hitem (depth + 1)]
      | constant c => rw [tokens, marks, filterMap_mark?_spelled]
      | absent owner field => rw [tokens, marks]; rfl

/-! ### Characters that end a line -/

section
variable {names places : Bool}

/-- The text of a constant is on one line. -/
theorem lineEnd_not_mem_constant {c : Constant} (hc : c.isDistinct = true) :
    '\n' ∉ c.text.toList := by
  cases c with
  | number n =>
      cases n with
      | int n =>
          have hdigits : '\n' ∉ Nat.toDigits 10 n.natAbs :=
            fun hmem => absurd (isDigit_of_mem_toDigits _ hmem) (by decide)
          show '\n' ∉ (intText n).toList
          rw [toList_intText]
          split <;> simp [hdigits]
      | _ => cases hc
  | str text => exact Text.lineEnd_not_mem_quoted text
  | bytes bytes => exact Text.lineEnd_not_mem_quotedBytes bytes
  | bool b => cases b <;> decide
  | _ => decide

/-- The name of a kind is on one line. -/
theorem lineEnd_not_mem_name (kind : Kind) : '\n' ∉ kind.name.toList :=
  fun hmem => absurd (List.all_eq_true.mp (name_letters kind).2 _ hmem) (by decide)

/-- What stands in front of a value is on one line. -/
theorem lineEnd_not_mem_label {t : Tree} {e : String × Tree} (he : e ∈ t.entries places) :
    '\n' ∉ (label names e.1).toList := by
  have hfields : ∀ kind ∈ Kind.all,
      kind.fields.all (fun field => !field.name.toList.contains '\n') = true := by decide +kernel
  have hname : '\n' ∉ e.1.toList := by
    cases t with
    | node kind fields place =>
        -- The name is that of a field of the kind or of a coordinate.
        rcases List.mem_append.mp he with hfield | hcoordinate
        · have hmem := (List.of_mem_zip (List.mem_filter.mp hfield).1).1
          obtain ⟨field, hknown, hfield⟩ := List.mem_map.mp hmem
          have hall := List.all_eq_true.mp (hfields kind (Kind.mem_all kind)) field hknown
          rw [← hfield]
          simpa using hall
        · split at hcoordinate
          · simp only [Place.coordinates, List.mem_cons, List.not_mem_nil, or_false] at hcoordinate
            rcases hcoordinate with rfl | rfl | rfl | rfl <;> simp
          · cases hcoordinate
    | _ => cases he
  rw [label]
  split
  · simp [hname]
  · simp

/-! ### What follows a line end -/

/-- What a mark announces. -/
def Mark.Follows (names places : Bool) (ts : List Token) : Mark → Prop
  | item depth element =>
    1 ≤ depth ∧ element.Plain places ∧ tokens names places depth element <+: ts
  | close depth items => 1 ≤ depth ∧ items ≠ [] ∧ [.char ']'] <+: ts

/-- No character ends a line, and every line end is followed by what it announces. -/
def Led (names places : Bool) : List Token → Prop
  | [] => True
  | .char c :: rest => c ≠ '\n' ∧ Led names places rest
  | .lineEnd next :: rest => next.Follows names places rest ∧ Led names places rest

/-- If every line end is followed by what it announces, no character ends a line. -/
theorem Led.oneLined {ts : List Token} (h : Led names places ts) : OneLined ts := by
  induction ts with
  | nil =>
      intro c hc
      cases hc
  | cons token ts ih =>
      intro c hc
      cases token with
      | char d =>
          rcases List.mem_cons.mp hc with heq | hmem
          · cases heq
            exact h.1
          · exact ih h.2 c hmem
      | lineEnd next =>
          rcases List.mem_cons.mp hc with heq | hmem
          · cases heq
          · exact ih h.2 c hmem

/-- What is announced does not depend on what comes later. -/
theorem Mark.Follows.append {mark : Mark} {ts : List Token} (h : mark.Follows names places ts)
    (more : List Token) : mark.Follows names places (ts ++ more) := by
  cases mark with
  | item depth element => exact ⟨h.1, h.2.1, h.2.2.trans (List.prefix_append _ _)⟩
  | close depth items => exact ⟨h.1, h.2.1, h.2.2.trans (List.prefix_append _ _)⟩

/-- Two rows of tokens in which every line end is followed by what it announces make one such
row. -/
theorem Led.append {ts ts' : List Token} (h : Led names places ts) (h' : Led names places ts') :
    Led names places (ts ++ ts') := by
  induction ts with
  | nil => exact h'
  | cons token ts ih =>
      cases token with
      | char c => exact ⟨h.1, ih h.2⟩
      | lineEnd next => exact ⟨h.1.append ts', ih h.2⟩

/-- Spelled characters none of which ends a line are a row without line ends. -/
theorem led_spelled {s : String} (h : '\n' ∉ s.toList) : Led names places (spelled s) := by
  rw [spelled]
  generalize s.toList = chars at h
  induction chars with
  | nil => trivial
  | cons c chars ih =>
      rw [List.mem_cons, not_or] at h
      exact ⟨fun heq => h.1 heq.symm, ih h.2⟩

/-- Rows one behind the other, in each of which every line end is followed by what it announces. -/
theorem led_flatMap {α : Type} {f : α → List Token} {xs : List α}
    (h : ∀ x ∈ xs, Led names places (f x)) : Led names places (xs.flatMap f) := by
  induction xs with
  | nil => trivial
  | cons x xs ih =>
      rw [List.forall_mem_cons] at h
      exact h.1.append (ih h.2)

/-- Rows with a separator between them, in each of which every line end is followed by what it
announces. -/
theorem led_intercalate {separator : List Token} (hseparator : Led names places separator)
    {texts : List (List Token)} (h : ∀ ts ∈ texts, Led names places ts) :
    Led names places (separator.intercalate texts) := by
  induction texts with
  | nil => trivial
  | cons text texts ih =>
      rw [List.forall_mem_cons] at h
      cases texts with
      | nil => simpa using h.1
      | cons next texts =>
          rw [List.intercalate_cons_cons]
          exact (h.1.append hseparator).append (ih h.2)

/-- In a plain tree every line end is followed by what it announces. -/
theorem led_tokens (t : Tree) : t.Plain places → ∀ depth,
    Led names places (tokens names places depth t) := by
  induction t using Tree.childInduction places with
  | step t ih =>
      intro ht depth
      have hcomma : Led names places (spelled ",") := led_spelled (by decide)
      cases t with
      | node kind fields place =>
          have hkind : Led names places (spelled (kind.name ++ "(")) :=
            led_spelled (by simp [lineEnd_not_mem_name kind])
          rw [tokens_node]
          refine (hkind.append (led_intercalate (led_spelled (by decide)) ?_)).append
            (led_spelled (by decide))
          refine List.forall_mem_map.mpr fun e he =>
            (led_spelled (lineEnd_not_mem_label he)).append ?_
          exact ih e.2 (List.mem_map_of_mem he) (ht.child (List.mem_map_of_mem he)) depth
      | list items =>
          cases items with
          | nil => rw [tokens]; exact led_spelled (by decide)
          | cons first rest =>
              rw [tokens_list _ _ _ (List.cons_ne_nil _ _)]
              refine ((led_spelled (by decide)).append (led_flatMap fun item hitem => ?_)).append ?_
              · -- The line end before an item is written together with the item.
                have hplain := ht.child hitem
                exact ⟨⟨Nat.le_add_left 1 depth, hplain, List.prefix_append _ _⟩,
                  (ih item hitem hplain (depth + 1)).append hcomma⟩
              · exact ⟨⟨Nat.le_add_left 1 depth, List.cons_ne_nil _ _, List.prefix_rfl⟩,
                  by decide, trivial⟩
      | constant c =>
          rw [tokens]
          exact led_spelled (lineEnd_not_mem_constant (ht _ .refl).2)
      | absent owner field => exact (ht _ .refl).elim

/-- Every later row begins with what the line end before it announces. -/
theorem Led.follows {ts : List Token} (h : Led names places ts) :
    ∀ row ∈ laterRows ts,
      ∃ behind, row.1.Follows names places behind ∧ row.2 = firstRow behind := by
  induction ts with
  | nil => simp [laterRows]
  | cons token ts ih =>
      cases token with
      | char c => exact ih h.2
      | lineEnd next => exact List.forall_mem_cons.mpr ⟨⟨ts, h.1, rfl⟩, ih h.2⟩

end

/-! ### The lines of an outline -/

section
variable {options : Options} {step : String} (hindent : options.indent = .text step)
  (hstep : isMargin step = true)
include hindent

/-- A plain tree has a text. -/
theorem text_of_plain {t : Tree} (ht : t.Plain options.places) (depth : Nat) :
    text options (2 * depth) t =
      .ok (String.ofList (render step (tokens options.names options.places depth t))) := by
  rw [text_eq hindent, (faults_eq_nil_iff t).mpr fun s hs => ht.hasText hs]
  rfl

include hstep

/-- What is announced is what a line begins with. -/
theorem Mark.Follows.begins {mark : Mark} {ts : List Token}
    (h : mark.Follows options.names options.places ts) :
    mark.Begins options step (margin step mark.steps ++ firstRow ts) := by
  cases mark with
  | item depth element =>
      obtain ⟨hdepth, hplain, hprefix⟩ := h
      have hthere : element.isThere = true := by
        cases element with
        | absent owner field => exact (hplain _ .refl).elim
        | _ => rfl
      obtain ⟨c, rest, htokens, hc⟩ := @tokens_opening options.names options.places element hthere
        (by rintro c rfl; exact (hplain _ .refl).2) depth
      -- The first character of the item is that of the line.
      obtain ⟨more, rfl⟩ : ∃ more, ts = .char c :: more := by
        obtain ⟨more, hmore⟩ := hprefix
        exact ⟨rest ++ more, by rw [← hmore, htokens, List.cons_append]⟩
      -- The text of the item by itself begins with the same line.
      have hled := @led_tokens options.names options.places element hplain depth
      exact ⟨hdepth, c, firstRow more, rfl, isBlank_of_isOpening hc, _, _, _,
        text_of_plain hindent hplain depth, lines_render hstep hled.oneLined,
        firstRow_prefix hprefix⟩
  | close depth items =>
      obtain ⟨hdepth, hne, more, hmore⟩ := h
      exact ⟨hdepth, hne, firstRow more, by rw [← hmore]; rfl⟩

/-- The lines of an outline without the blanks in front, or why there are none. -/
theorem outline_map_trimmed {t : Tree} {kind : Kind} {fields : List Tree} {place : Place Tree}
    (ht : t = .node kind fields place)
    (hconstants : ∀ c, t.Part options.places (.constant c) → c.isDistinct = true) :
    (outline options t).map (fun text => (lines text).map trimmed) =
      barring (faults options.places t)
        (trimmed (firstRow (tokens options.names options.places 0 t)) ::
          (laterRows (tokens options.names options.places 0 t)).map fun row => trimmed row.2) := by
  rw [outline_node hindent ht]
  cases hfaults : faults options.places t with
  | nil =>
      have hplain := plain_of_hasText ((faults_eq_nil_iff t).mp hfaults) hconstants
      -- The lines are those of the tokens, which do not depend on the step.
      have hled := @led_tokens options.names options.places t hplain 0
      exact congrArg Except.ok (trimmed_lines_render hstep hled.oneLined)
  | cons fault faults => rfl

end

/-- A node has an outline if all its parts can be written.  The first line of the outline aside, its
lines are those that the lists and items of the tree tell, one by one: the line of an item has two
steps of indentation for every list around it, and the line that closes a list has one less than its
items have.  Another step gives the same lines but for the blanks in front. -/
theorem outline_lines {options : Options} {step : String} (hindent : options.indent = .text step)
    (hstep : isMargin step = true) {t : Tree}
    (hconstants : ∀ c, t.Part options.places (.constant c) → c.isDistinct = true) :
    ((∃ text, outline options t = .ok text) ↔ (∃ kind fields place, t = .node kind fields place) ∧
      ∀ s, t.Part options.places s → s.HasText) ∧
    (∀ text, outline options t = .ok text → ∃ first rest, lines text = first :: rest ∧
      List.Forall₂ (fun mark line => mark.Begins options step line)
        (marks options.places 0 t) rest) ∧
    ∀ step', isMargin step' = true →
      (outline { options with indent := .text step' } t).map
          (fun text => (lines text).map trimmed) =
        (outline options t).map fun text => (lines text).map trimmed := by
  refine ⟨⟨?_, ?_⟩, ?_, ?_⟩
  · rintro ⟨text, htext⟩
    obtain ⟨kind, fields, place, hnode⟩ := exists_node_of_outline htext
    rw [outline_node hindent hnode] at htext
    exact ⟨⟨kind, fields, place, hnode⟩, (faults_eq_nil_iff t).mp (barring_eq_ok.mp htext).1⟩
  · rintro ⟨⟨kind, fields, place, hnode⟩, htext⟩
    rw [outline_node hindent hnode, (faults_eq_nil_iff t).mpr htext]
    exact ⟨_, rfl⟩
  · intro text htext
    obtain ⟨kind, fields, place, hnode⟩ := exists_node_of_outline htext
    rw [outline_node hindent hnode] at htext
    obtain ⟨hfaults, rfl⟩ := barring_eq_ok.mp htext
    have hplain := plain_of_hasText ((faults_eq_nil_iff t).mp hfaults) hconstants
    have hled := @led_tokens options.names options.places t hplain 0
    refine ⟨_, _, lines_render hstep hled.oneLined, ?_⟩
    -- Marks and lines both come from the same line ends.
    rw [← filterMap_mark?_tokens options.names, ← laterRows_map_fst, List.forall₂_map_left_iff,
      List.forall₂_map_right_iff, List.forall₂_same]
    intro row hrow
    obtain ⟨behind, hfollows, hrest⟩ := hled.follows row hrow
    rw [hrest]
    exact hfollows.begins hindent hstep
  · intro step' hstep'
    cases t with
    | node kind fields place =>
        exact (@outline_map_trimmed { options with indent := .text step' } step' rfl hstep' _ _ _ _
          rfl hconstants).trans (outline_map_trimmed hindent hstep rfl hconstants).symm
    | _ => rfl

/-- Lists in a list, and a text and bytes with line ends of their own. -/
theorem outline_lines_brackets :
    let options : Options := ⟨true, false, .text "\t "⟩
    let inner : List Tree := [.constant (.ofString "\n]"), .list []]
    let items : List Tree := [.list inner, .constant (.bytes [10])]
    let tree : Tree := .node .returnStmt [.list items] (.nowhere .returnStmt)
    let begins : List Mark := [.item 1 (.list inner), .item 2 (.constant (.ofString "\n]")),
      .item 2 (.list []), .close 2 inner, .item 1 (.constant (.bytes [10])), .close 1 items]
    let text := "Return(value=[\n\t \t [\n\t \t \t \t '\\n]',\n\t \t \t \t [],\n\t \t \t ],\n" ++
      "\t \t b'\\n',\n\t ])"
    outline options tree = .ok text ∧
      (∃ first rest, lines text = first :: rest ∧
        List.Forall₂ (fun mark line => mark.Begins options "\t " line) begins rest) ∧
      (outline { options with indent := .text "" } tree).map
          (fun text => (lines text).map trimmed) =
        (outline options tree).map fun text => (lines text).map trimmed := by
  intro options inner items tree begins text
  have hleaf : ∀ {c : Constant}, c.isDistinct = true → (Tree.constant c).Complete options.places :=
    fun hc => complete_of_children hc nofun
  have hlist : ∀ {items : List Tree}, (∀ s ∈ items, s.Complete options.places) →
      (Tree.list items).Complete options.places :=
    fun hitems => complete_of_children trivial hitems
  have hinner : (Tree.list inner).Complete options.places := by
    refine hlist ?_
    simp only [inner, List.forall_mem_cons]
    exact ⟨hleaf rfl, hlist nofun, nofun⟩
  have htree : tree.Complete options.places := by
    refine complete_of_children ⟨rfl, rfl⟩ (List.forall_mem_singleton.mpr (hlist ?_))
    simp only [items, List.forall_mem_cons]
    exact ⟨hinner, hleaf rfl, nofun⟩
  have hmarks : marks options.places 0 tree = begins := by
    rw [marks_node]
    show marks options.places 0 (.list items) ++ [] = _
    simp [begins, items, inner, marks]
  have htext : outline options tree = .ok text := rfl
  have hlines := @outline_lines options "\t " rfl rfl tree fun c hc => htree _ hc
  rw [hmarks] at hlines
  exact ⟨htext, hlines.2.1 text htext, hlines.2.2 "" rfl⟩

end Outline

end Flowchart
