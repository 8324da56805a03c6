import Flowchart.Proofs.Faults
import Flowchart.Tree.Outline

/-!
# `Flowchart.Proofs.Outline.Spelling`: what an outline is made of

An outline goes through a tree part by part.  Of a node it shows the fields that are there and,
where they are asked for, the coordinates (`Tree.entries`); of a list it shows the items.  These are
the children of a tree as far as an outline is concerned (`Tree.children`), and every statement
about outlines is proved for a tree from its children (`Tree.childInduction`).

The text of a tree is a row of characters and of line ends (`Outline.tokens`).  A line ends where an
item of a list begins and where a list is closed, and the next line begins with as many steps of
indentation as the number of lists around it tells.  So the characters of an outline depend on the
step only where a line begins (`Outline.render`).  Whether there is an outline at all does not
depend on it: `Outline.text_eq` gives the text of a tree, or the first of its faults.
-/

set_option autoImplicit false

namespace Flowchart

/-- Where a constant can be written, this is its text. -/
theorem Constant.text_of_text? {c : Constant} {text : String} (h : c.text? = some text) :
    text = c.text := by
  have hint : ∀ {n : Int}, intText? n = some text → text = intText n := by
    intro n hn
    rw [intText?] at hn
    split at hn
    · exact (Option.some.inj hn).symm
    · cases hn
  cases c with
  | number n =>
      cases n with
      | int n => exact hint h
      | float x => exact (Option.some.inj h).symm
      | complex re im => exact (Option.some.inj h).symm
  | none => exact (Option.some.inj h).symm
  | bool b => exact (Option.some.inj h).symm
  | str s => exact (Option.some.inj h).symm
  | bytes b => exact (Option.some.inj h).symm
  | ellipsis => exact (Option.some.inj h).symm

namespace Tree

/-! ### The parts of a tree -/

/-- Whether a field or coordinate is there. -/
def isThere : Tree → Bool
  | .absent _ _ => false
  | _ => true

/-- What an outline shows of a tree by name. -/
def entries (places : Bool) : Tree → List (String × Tree)
  | .node kind fields place =>
    ((kind.fields.map (·.name)).zip fields).filter (·.2.isThere) ++
      if places && kind.placement ≠ .unplaced then place.coordinates else []
  | _ => []

/-- What an outline shows of a tree. -/
def children (places : Bool) : Tree → List Tree
  | .list items => items
  | t => (t.entries places).map (·.2)

/-- A value that a tree shows by name is smaller than the tree. -/
theorem sizeOf_lt_of_mem_entries {places : Bool} {t : Tree} {e : String × Tree}
    (h : e ∈ t.entries places) : sizeOf e.2 < sizeOf t := by
  cases t with
  | node kind fields place =>
      rcases List.mem_append.mp h with hfield | hcoordinate
      · have hmem : e.2 ∈ fields := (List.of_mem_zip (List.mem_filter.mp hfield).1).2
        have hlt := List.sizeOf_lt_of_mem hmem
        simp only [node.sizeOf_spec]
        omega
      · split at hcoordinate
        · obtain ⟨line, column, endLine, endColumn, remarks⟩ := place
          simp only [Place.coordinates, List.mem_cons, List.not_mem_nil, or_false] at hcoordinate
          rcases hcoordinate with rfl | rfl | rfl | rfl <;>
            simp only [node.sizeOf_spec, Place.mk.sizeOf_spec] <;> omega
        · cases hcoordinate
  | list items => cases h
  | constant c => cases h
  | absent owner field => cases h

/-- A child is smaller than its tree. -/
theorem sizeOf_lt_of_mem_children {places : Bool} {t s : Tree} (h : s ∈ t.children places) :
    sizeOf s < sizeOf t := by
  have hentry : s ∈ (t.entries places).map (·.2) → sizeOf s < sizeOf t := by
    intro hs
    obtain ⟨e, he, rfl⟩ := List.mem_map.mp hs
    exact sizeOf_lt_of_mem_entries he
  cases t with
  | list items =>
      have hlt := List.sizeOf_lt_of_mem (show s ∈ items from h)
      simp only [list.sizeOf_spec]
      omega
  | node kind fields place => exact hentry h
  | constant c => exact hentry h
  | absent owner field => exact hentry h

/-- What holds of a tree whenever it holds of its children holds of every tree. -/
theorem childInduction (places : Bool) {motive : Tree → Prop}
    (step : ∀ t, (∀ s ∈ t.children places, motive s) → motive t) (t : Tree) : motive t :=
  step t fun s hs =>
    have := sizeOf_lt_of_mem_children hs
    childInduction places step s
termination_by sizeOf t

/-- The tree itself and whatever an outline shows inside it, at any depth. -/
abbrev Part (places : Bool) : Tree → Tree → Prop :=
  Within (children places)

/-- Whether a tree can be written if its children can. -/
def HasText : Tree → Prop
  | .constant c => c.text?.isSome = true
  | .absent _ _ => False
  | _ => True

end Tree

namespace Outline

/-! ### Line ends -/

/-- What a line begins with, if it is not the first one. -/
inductive Mark where
  /-- An item of a list, with the number of lists around it. -/
  | item (depth : Nat) (element : Tree)
  /-- The end of a list, with the number of lists around it if it is counted too. -/
  | close (depth : Nat) (items : List Tree)

/-- The number of steps of indentation in front. -/
def Mark.steps : Mark → Nat
  | item depth _ => 2 * depth
  | close depth _ => 2 * depth - 1

/-- A character of an outline, or the end of a line. -/
inductive Token where
  | char (c : Char)
  | lineEnd (next : Mark)

/-- Characters in a row. -/
def spelled (s : String) : List Token :=
  s.toList.map .char

/-- Steps of indentation. -/
def margin (step : String) (count : Nat) : List Char :=
  (List.replicate count step.toList).flatten

/-- A margin has no characters but those of the step. -/
theorem mem_of_mem_margin {step : String} {count : Nat} {c : Char} (h : c ∈ margin step count) :
    c ∈ step.toList := by
  obtain ⟨_, hsteps, hc⟩ := List.mem_flatten.mp h
  rw [List.eq_of_mem_replicate hsteps] at hc
  exact hc

/-- The characters of a token. -/
def Token.chars (step : String) : Token → List Char
  | char c => [c]
  | lineEnd next => '\n' :: margin step next.steps

/-- The characters of several tokens. -/
def render (step : String) (tokens : List Token) : List Char :=
  tokens.flatMap (Token.chars step)

/-- Nothing is written for no tokens. -/
@[simp] theorem render_nil (step : String) : render step [] = [] := rfl

/-- The first token is written in front of the others. -/
@[simp] theorem render_cons (step : String) (token : Token) (tokens : List Token) :
    render step (token :: tokens) = token.chars step ++ render step tokens := rfl

/-- Tokens in a row are written in a row. -/
@[simp] theorem render_append (step : String) (tokens tokens' : List Token) :
    render step (tokens ++ tokens') = render step tokens ++ render step tokens' :=
  List.flatMap_append

/-- Spelled characters are written as they are, whatever the step. -/
@[simp] theorem render_spelled (step s : String) : render step (spelled s) = s.toList := by
  rw [render, spelled, List.flatMap_map]
  exact List.flatMap_singleton' s.toList

/-- Rows of tokens one behind the other are written one behind the other. -/
theorem render_flatMap {α : Type} (step : String) (f : α → List Token) (xs : List α) :
    render step (xs.flatMap f) = xs.flatMap fun x => render step (f x) :=
  List.flatMap_assoc

/-- Rows of tokens with a separator between them are written with the separator between them. -/
theorem render_intercalate (step : String) (separator : List Token) (texts : List (List Token)) :
    render step (separator.intercalate texts)
      = (render step separator).intercalate (texts.map (render step)) := by
  induction texts with
  | nil => rfl
  | cons text texts ih =>
      cases texts with
      | nil => simp
      | cons next texts => simp [List.intercalate_cons_cons, ih]

/-! ### The tokens of a tree -/

/-- The characters in front of a value. -/
def label (names : Bool) (name : String) : String :=
  if names then name ++ "=" else ""

/-- The characters and line ends of a tree with a number of lists around it. -/
def tokens (names places : Bool) (depth : Nat) : Tree → List Token
  | .node kind fields place =>
    spelled (kind.name ++ "(") ++
      (spelled ", ").intercalate (((Tree.node kind fields place).entries places).attach.map
        fun ⟨e, _⟩ => spelled (label names e.1) ++ tokens names places depth e.2) ++ spelled ")"
  | .list [] => spelled "[]"
  | .list (first :: rest) =>
    spelled "[" ++ ((first :: rest).attach.flatMap fun ⟨item, _⟩ =>
        .lineEnd (.item (depth + 1) item) ::
          (tokens names places (depth + 1) item ++ spelled ",")) ++
      [.lineEnd (.close (depth + 1) (first :: rest)), .char ']']
  | .constant c => spelled c.text
  | .absent _ _ => []
termination_by t => sizeOf t
decreasing_by
  · exact Tree.sizeOf_lt_of_mem_entries ‹_›
  · exact @Tree.sizeOf_lt_of_mem_children false _ _ ‹_›

/-- The faults of a tree in the order in which an outline meets them. -/
def faults (places : Bool) : Tree → List Fault
  | .constant c => if c.text?.isSome then [] else [.tooManyDigits]
  | .absent owner field => [.missing owner field]
  | t => (t.children places).attach.flatMap fun ⟨s, _⟩ => faults places s
termination_by t => sizeOf t
decreasing_by exact Tree.sizeOf_lt_of_mem_children ‹_›

/-- The tokens of a node: its name and, in parentheses, what it shows. -/
theorem tokens_node (names places : Bool) (depth : Nat) (kind : Kind) (fields : List Tree)
    (place : Place Tree) : tokens names places depth (.node kind fields place) =
      spelled (kind.name ++ "(") ++
        (spelled ", ").intercalate (((Tree.node kind fields place).entries places).map
          fun e => spelled (label names e.1) ++ tokens names places depth e.2) ++ spelled ")" := by
  rw [tokens, List.map_subtype fun _ _ => rfl, List.unattach_attach]
  rfl

/-- The tokens of a list that is not empty: a line for each item and one to close it. -/
theorem tokens_list (names places : Bool) (depth : Nat) {items : List Tree} (h : items ≠ []) :
    tokens names places depth (.list items) =
      spelled "[" ++ (items.flatMap fun item => .lineEnd (.item (depth + 1) item) ::
          (tokens names places (depth + 1) item ++ spelled ",")) ++
        [.lineEnd (.close (depth + 1) items), .char ']'] := by
  obtain ⟨first, rest, rfl⟩ := List.exists_cons_of_ne_nil h
  rw [tokens, List.flatMap_subtype fun _ _ => rfl, List.unattach_attach]

/-- The characters of a node. -/
theorem render_node (step : String) (names places : Bool) (depth : Nat) (kind : Kind)
    (fields : List Tree) (place : Place Tree) :
    render step (tokens names places depth (.node kind fields place)) =
      kind.name.toList ++ '(' :: ([',', ' '].intercalate
        (((Tree.node kind fields place).entries places).map fun e =>
          (label names e.1).toList ++ render step (tokens names places depth e.2)) ++ [')']) := by
  simp [tokens_node, render_intercalate, Function.comp_def]

/-- The characters of a list that is not empty. -/
theorem render_list (step : String) (names places : Bool) (depth : Nat) {items : List Tree}
    (h : items ≠ []) : render step (tokens names places depth (.list items)) =
      '[' :: ((items.flatMap fun item => '\n' :: (margin step (2 * (depth + 1)) ++
        (render step (tokens names places (depth + 1) item) ++ [',']))) ++
          '\n' :: (margin step (2 * depth + 1) ++ [']'])) := by
  have hclose : 2 * (depth + 1) - 1 = 2 * depth + 1 := by omega
  rw [tokens_list _ _ _ h]
  simp [render_flatMap, Token.chars, Mark.steps, hclose]

/-- The faults of a node are those of what it shows. -/
theorem faults_node (places : Bool) (kind : Kind) (fields : List Tree) (place : Place Tree) :
    faults places (.node kind fields place) =
      ((Tree.node kind fields place).entries places).flatMap fun e => faults places e.2 := by
  rw [faults, List.flatMap_subtype fun _ _ => rfl, List.unattach_attach, Tree.children,
    List.flatMap_map]
  all_goals simp

/-- The faults of a list are those of its items. -/
theorem faults_list (places : Bool) (items : List Tree) :
    faults places (.list items) = items.flatMap (faults places) := by
  rw [faults, List.flatMap_subtype fun _ _ => rfl, List.unattach_attach, Tree.children]
  all_goals simp

/-- A tree is without fault if all its parts can be written. -/
theorem faults_eq_nil_iff {places : Bool} (t : Tree) :
    faults places t = [] ↔ ∀ s, t.Part places s → s.HasText := by
  induction t using Tree.childInduction places with
  | step t ih =>
      rw [forall_within_iff]
      -- By induction this is so for the children, and a tree has their faults or one of its own.
      have hchildren : (∀ s ∈ t.children places, faults places s = []) ↔
          ∀ child ∈ t.children places, ∀ s, child.Part places s → s.HasText :=
        forall₂_congr ih
      cases t with
      | node kind fields place =>
          rw [← hchildren, faults_node, List.flatMap_eq_nil_iff]
          show _ ↔ True ∧ ∀ s ∈ ((Tree.node kind fields place).entries places).map (·.2), _
          rw [List.forall_mem_map, true_and]
      | list items =>
          rw [← hchildren, faults_list, List.flatMap_eq_nil_iff]
          exact (iff_of_eq (true_and _)).symm
      | constant c =>
          have hnone : ∀ child ∈ (Tree.constant c).children places, ∀ s, child.Part places s →
              s.HasText := nofun
          rw [faults, and_iff_left hnone]
          show _ ↔ c.text?.isSome = true
          split <;> simp_all
      | absent owner field =>
          rw [faults]
          exact iff_of_false (List.cons_ne_nil _ _) fun h => h.1

/-! ### The text of a tree -/

/-- The text of a node, with its fields and coordinates gone through in one row. -/
theorem text_node (options : Options) (level : Nat) (kind : Kind) (fields : List Tree)
    (place : Place Tree) : text options level (.node kind fields place) = do
      let values ← ((Tree.node kind fields place).entries options.places).mapM fun e =>
        text options level e.2 >>= fun value => pure (entry options e.1 value)
      return kind.name ++ "(" ++ ", ".intercalate values ++ ")" := by
  -- The fields are gone through together with their names, and those that are absent are left out.
  have hfields : ∀ (known : List Field) (fields : List Tree),
    fieldTexts options level known fields =
      (((known.map (·.name)).zip fields).filter (·.2.isThere)).mapM fun e =>
        text options level e.2 >>= fun value => pure (entry options e.1 value) := by
    intro known
    induction known with
    | nil => intro fields; simp [fieldTexts]
    | cons field known ih =>
        intro fields
        cases fields with
        | nil => simp [fieldTexts]
        | cons t fields =>
            cases t <;> simp [fieldTexts, Tree.isThere, ih]
  obtain ⟨line, column, endLine, endColumn, remarks⟩ := place
  rw [text, hfields, Tree.entries]
  split
  · simp [List.mapM_append, Place.coordinates]
  · simp

/-- Indentation by a text never fails. -/
theorem before_text {step : String} (count : Nat) (text : String) :
    (Step.text step).before count text = .ok (String.ofList (margin step count) ++ text) := by
  have hjoin : String.join (List.replicate count step) = String.ofList (margin step count) := by
    rw [← String.toList_inj, String.toList_join, String.toList_ofList, margin, ← List.map_replicate,
      List.flatMap_def]
  rw [Step.before, hjoin]

/-- A separator behind each of several texts, seen as one in front of each. -/
theorem cons_flatMap_snoc {α : Type} (separator : α) (texts : List (List α)) :
    separator :: texts.flatMap (· ++ [separator])
      = texts.flatMap (separator :: ·) ++ [separator] := by
  induction texts with
  | nil => rfl
  | cons text texts ih => simp [← ih]

section
variable {options : Options} {step : String} (hstep : options.indent = .text step)
include hstep

/-- The lines of the items of a list, each with its indentation and a comma behind it. -/
theorem itemLines_eq (level : Nat) (items : List Tree) : itemLines options level items =
    items.mapM fun item => text options level item >>= fun text =>
      pure (String.ofList (margin step level) ++ (text ++ ",")) := by
  induction items with
  | nil => simp [itemLines]
  | cons item items ih =>
      rw [itemLines, hstep, Step.repeatFault?, List.mapM_cons, ih]
      simp only [before_text]
      cases text options level item <;> rfl

/-- The text of a list from its lines, which never fails. -/
theorem bracketed_eq (level : Nat) (lines : List String) : bracketed options level lines = .ok
    (if lines.isEmpty then "[]"
      else String.ofList ('[' :: ((lines.map String.toList).flatMap ('\n' :: ·) ++
        '\n' :: (margin step (level + 1) ++ [']'])))) := by
  rw [bracketed, hstep]
  split
  · rfl
  · rw [before_text]
    refine congrArg Except.ok ?_
    -- The line ends are written behind the lines here, and in front of them in the tokens.
    have hlines := cons_flatMap_snoc '\n' (lines.map String.toList)
    rw [← String.toList_inj, String.toList_ofList, List.append_cons, ← hlines]
    simp [String.toList_join, List.flatMap_map]

/-- The text of a tree is what is written for its tokens, or the first of its faults. -/
theorem text_eq (t : Tree) : ∀ depth, text options (2 * depth) t =
    barring (faults options.places t)
      (String.ofList (render step (tokens options.names options.places depth t))) := by
  induction t using Tree.childInduction options.places with
  | step t ih =>
      intro depth
      cases t with
      | node kind fields place =>
          have hentry : ∀ e ∈ (Tree.node kind fields place).entries options.places,
              (text options (2 * depth) e.2 >>= fun value => pure (entry options e.1 value)) =
                barring (faults options.places e.2) (String.ofList (render step
                  (spelled (label options.names e.1) ++
                    tokens options.names options.places depth e.2))) := by
            intro e he
            rw [ih e.2 (List.mem_map_of_mem he) depth, barring_map, entry, label]
            refine congrArg _ ?_
            rw [← String.toList_inj]
            split <;> simp
          -- The first fault of a row is the first one of the first part that has any.
          rw [text_node, mapM_barring hentry, barring_map, ← faults_node]
          refine congrArg _ ?_
          rw [← String.toList_inj]
          simp [String.toList_intercalate, render_node, Function.comp_def]
      | list items =>
          have hitem : ∀ item ∈ items, (text options (2 * (depth + 1)) item >>= fun text =>
              pure (String.ofList (margin step (2 * (depth + 1))) ++ (text ++ ","))) =
                barring (faults options.places item)
                  (String.ofList (margin step (2 * (depth + 1))) ++ (String.ofList (render step
                    (tokens options.names options.places (depth + 1) item)) ++ ",")) := by
            intro item hitem
            rw [ih item hitem (depth + 1), barring_map]
          rw [text]
          show (itemLines options (2 * (depth + 1)) items >>= bracketed options (2 * depth)) = _
          -- Putting the brackets around the items is no further fault.
          have hbracketed : ∀ lines, bracketed options (2 * depth) lines = barring [] _ :=
            fun lines => bracketed_eq hstep (2 * depth) lines
          rw [itemLines_eq hstep, mapM_barring hitem, barring_bind (hbracketed _), List.append_nil,
            faults_list]
          refine congrArg _ ?_
          rw [← String.toList_inj, String.toList_ofList]
          cases items with
          | nil => simp [tokens]
          | cons first rest =>
              rw [render_list _ _ _ _ (List.cons_ne_nil first rest)]
              simp [List.flatMap_map]
      | constant c =>
          rw [text, constant, faults, tokens, render_spelled, String.ofList_toList]
          cases htext : c.text? with
          | none => rfl
          | some text => rw [Constant.text_of_text? htext]; rfl
      | absent owner field =>
          rw [text, faults]
          rfl

/-- The outline of a node. -/
theorem outline_node {t : Tree} {kind : Kind} {fields : List Tree} {place : Place Tree}
    (ht : t = .node kind fields place) : outline options t = barring (faults options.places t)
      (String.ofList (render step (tokens options.names options.places 0 t))) := by
  subst ht
  exact text_eq hstep _ 0

end

/-- Only a node has an outline. -/
theorem exists_node_of_outline {options : Options} {t : Tree} {text : String}
    (h : outline options t = .ok text) : ∃ kind fields place, t = .node kind fields place := by
  cases t with
  | node kind fields place => exact ⟨kind, fields, place, rfl⟩
  | _ => cases h

end Outline

end Flowchart
