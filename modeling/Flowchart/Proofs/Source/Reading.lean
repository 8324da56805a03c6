import Flowchart.Source.Parser

/-!
# `Flowchart.Proofs.Source.Reading`: programs as they are read from source

The tree of a program that is read from a text is of a certain form (`Tree.ParsedProgram`).  The
fields of conditions and loops that hold statements are lists, and where the test of one is a name,
the name is a text.  Trees that are built in another way need not be so: a name may be anything
there.  `parsedProgram_of_parse` says that every program that is read is of this form.

A reader may fail; `Yields` speaks of what it gives when it does not.  Rules of the grammar lead
back to one another through the parameter `g` of their readers.  So the lemma on each reader
supposes that the rules it is given read what they have to (`Grammar.Sound`), and the whole grammar
is sound by induction on how deep it may be followed (`sound_rule`).
-/

set_option autoImplicit false

namespace Flowchart

namespace Tree

/-! ### The form of a program -/

/-- A name is a text.  This says nothing of a tree that is no name. -/
def HasTextName : Tree → Prop
  | .node .ident fields _ => ∃ id ctx, fields = [.constant (.str id), ctx]
  | _ => True

/-- The statements that hold statements and may be drawn, and programs. -/
def compoundKinds : List Kind :=
  [.ifStmt, .whileStmt, .program]

/-- Statements as they are read from source.  What is inside a statement of another kind does not
matter. -/
inductive ParsedStatement : Tree → Prop
  | condition {test : Tree} {body orelse : List Tree} {place : Place Tree}
      (htest : test.HasTextName) (hbody : ∀ t ∈ body, ParsedStatement t)
      (horelse : ∀ t ∈ orelse, ParsedStatement t) :
      ParsedStatement (.node .ifStmt [test, .list body, .list orelse] place)
  | loop {test : Tree} {body orelse : List Tree} {place : Place Tree}
      (htest : test.HasTextName) (hbody : ∀ t ∈ body, ParsedStatement t)
      (horelse : ∀ t ∈ orelse, ParsedStatement t) :
      ParsedStatement (.node .whileStmt [test, .list body, .list orelse] place)
  | other {kind : Kind} {fields : List Tree} {place : Place Tree} (hkind : kind ∉ compoundKinds) :
      ParsedStatement (.node kind fields place)

/-- Programs as they are read from source. -/
inductive ParsedProgram : Tree → Prop
  | program {body : List Tree} {ignores : Tree} {place : Place Tree}
      (hbody : ∀ t ∈ body, ParsedStatement t) :
      ParsedProgram (.node .program [.list body, ignores] place)

end Tree

namespace Source

open Parse
open Flowchart.Tree (HasTextName ParsedStatement ParsedProgram compoundKinds)

/-! ### What a reader gives -/

/-- All that a reader gives has a property. -/
def Yields {α : Type} (reader : Parse α) (P : α → Prop) : Prop :=
  ∀ cursor a cursor', reader.run cursor = some (a, cursor') → P a

section Yields
variable {α β : Type} {P : α → Prop} {Q : β → Prop}

/-- A reader that reads nothing gives its value. -/
theorem Yields.pure {a : α} (h : P a) : Yields (pure a) P := by
  intro cursor b cursor' hrun
  cases hrun
  exact h

/-- A reader that fails gives nothing. -/
theorem Yields.failure : Yields failure P :=
  fun _ _ _ hrun => nomatch hrun

/-- Two readers one after the other give what the second gives, for all that the first gives. -/
theorem Yields.bind {reader : Parse α} {next : α → Parse β} (h : Yields reader P)
    (hnext : ∀ a, P a → Yields (next a) Q) : Yields (reader >>= next) Q := by
  intro cursor b cursor' hrun
  rw [StateT.run_bind] at hrun
  obtain ⟨⟨a, between⟩, hfirst, hsecond⟩ := Option.bind_eq_some_iff.mp hrun
  exact hnext a (h cursor a between hfirst) between b cursor' hsecond

/-- What comes before may give anything, if what follows does not depend on it. -/
theorem Yields.after {reader : Parse α} {next : α → Parse β} (hnext : ∀ a, Yields (next a) Q) :
    Yields (reader >>= next) Q :=
  .bind (P := fun _ => True) (fun _ _ _ _ => trivial) fun a _ => hnext a

/-- Behind a failure nothing is read. -/
theorem Yields.failed {next : α → Parse β} : Yields (Alternative.failure >>= next) Q :=
  .bind (P := fun _ => False) .failure fun _ hfalse => hfalse.elim

/-- A choice of two readers gives what either gives. -/
theorem Yields.ite {condition : Prop} [Decidable condition] {yes no : Parse α} (hyes : Yields yes P)
    (hno : Yields no P) : Yields (if condition then yes else no) P := by
  split
  · exact hyes
  · exact hno

/-- Items that are read one by one have a property if each of them has it. -/
theorem yields_many {step : Parse (Option α)} (hstep : Yields step fun a? => ∀ a ∈ a?, P a) :
    Yields (many step) fun items => ∀ a ∈ items, P a := by
  have hloop : ∀ bound, Yields (many.loop step bound) fun items => ∀ a ∈ items, P a := by
    intro bound
    induction bound with
    | zero => exact .pure (List.forall_mem_nil _)
    | succ bound ih =>
        refine .bind hstep fun a? ha => ?_
        cases a? with
        | none => exact .pure (List.forall_mem_nil _)
        | some a =>
            refine .bind ih fun items hitems => .pure ?_
            exact List.forall_mem_cons.mpr ⟨ha a rfl, hitems⟩
  exact .after fun cursor => hloop cursor.bound

/-- A value that is changed step by step keeps a property that each step keeps. -/
theorem yields_iterate {step : α → Parse (Option α)} {start : α} (hstart : P start)
    (hstep : ∀ a, P a → Yields (step a) fun b? => ∀ b ∈ b?, P b) :
    Yields (iterate step start) P := by
  have hloop : ∀ bound a, P a → Yields (iterate.loop step bound a) P := by
    intro bound
    induction bound with
    | zero => exact fun a ha => .pure ha
    | succ bound ih =>
        intro a ha
        refine .bind (hstep a ha) fun b? hb => ?_
        cases b? with
        | none => exact .pure ha
        | some b => exact ih b (hb b rfl)
  exact .after fun cursor => hloop cursor.bound start hstart

/-- A step that gives a value gives it as an item. -/
theorem Yields.item {reader : Parse α} (h : Yields reader P) :
    Yields (do return some (← reader)) fun a? => ∀ a ∈ a?, P a :=
  .bind h fun _ ha => .pure fun _ hb => Option.mem_some_iff.mp hb ▸ ha

/-- At the end of the items there is none. -/
theorem Yields.noItem : Yields (Pure.pure none) fun a? : Option α => ∀ a ∈ a?, P a :=
  .pure fun _ ha => nomatch ha

/-- The node that is finished has its kind and its fields. -/
theorem yields_finishNode {P : Tree → Prop} {kind : Kind} {fields : List Tree} {start : Spot}
    (h : ∀ place, P (.node kind fields place)) : Yields (finishNode kind fields start) P :=
  .after fun _ => .pure (h _)

end Yields

/-- What a rule of the grammar reads. -/
def Rule.Reads : Rule → Tree → Prop
  | .expression, t | .factor, t | .inversion, t => t.HasTextName
  | .conditional _, t => t.ParsedStatement
  | .block, t => ∃ items, t = .list items ∧ ∀ s ∈ items, s.ParsedStatement

/-- Every rule of a grammar reads what it has to. -/
def Grammar.Sound (g : Grammar) : Prop :=
  ∀ rule, Yields (g rule) rule.Reads

/-! ### Expressions -/

/-- Items behind commas have the property of each item. -/
theorem yields_commaTail {P : Tree → Prop} {item : Parse Tree} (h : Yields item P)
    (atEnd : Parse Bool) : Yields (commaTail item atEnd) fun tail => ∀ t ∈ tail.1, P t := by
  have hstep : ∀ state : List Tree × Bool, (∀ t ∈ state.1, P t) →
      Yields (commaTail.step item atEnd state) fun next => ∀ s ∈ next, ∀ t ∈ s.1, P t := by
    intro state hstate
    refine .ite .noItem (.after fun comma => .ite (.after fun ends => .ite ?_ ?_) .noItem)
    · exact .item (.pure hstate)
    · exact .bind h fun t ht => .item (.pure (List.forall_mem_cons.mpr ⟨ht, hstate⟩))
  refine .bind (yields_iterate (List.forall_mem_nil _) hstep) fun state hstate => .pure ?_
  exact fun t ht => hstate t (List.mem_reverse.mp ht)

/-- Items in brackets have the property of each item. -/
theorem yields_bracketed {P : Tree → Prop} {item : Parse Tree} (h : Yields item P)
    (closing : String) : Yields (bracketed item closing) fun items => ∀ t ∈ items.1, P t := by
  refine .after fun closed => .ite (.pure (List.forall_mem_nil _)) ?_
  refine .bind h fun first hfirst => .bind (yields_commaTail h _) fun tail htail => ?_
  exact .after fun _ => .pure (List.forall_mem_cons.mpr ⟨hfirst, htail⟩)

/-- A junction is no name, unless it is a single operand. -/
theorem yields_junction (word : String) (kind : Kind) {item : Parse Tree}
    (h : Yields item HasTextName) : Yields (junction word kind item) HasTextName := by
  refine .after fun start => .bind h fun first hfirst => .after fun rest => ?_
  exact .ite (.pure hfirst) (yields_finishNode fun _ => trivial)

/-- A constant is no name. -/
theorem yields_constantNode (value : Constant) (mark : Tree) (start : Spot) :
    Yields (constantNode value mark start) HasTextName :=
  yields_finishNode fun _ => trivial

/-- Literals side by side are no name. -/
theorem yields_literals : Yields literals HasTextName := by
  refine .after fun start => .after fun lexeme => ?_
  split
  · exact .after fun _ => .after fun rest => yields_constantNode _ _ start
  · exact .after fun _ => .after fun rest => yields_constantNode _ _ start
  · exact .failure

/-- A dictionary or a set is no name. -/
theorem yields_braced (g : Grammar) (start : Spot) : Yields (braced g start) HasTextName := by
  have hdict : ∀ entries : List (Tree × Tree),
      Yields (finishNode .dict [.list (entries.map (·.1)), .list (entries.map (·.2))] start)
        HasTextName :=
    fun entries => yields_finishNode fun _ => trivial
  refine .after fun closed => .ite (hdict []) (.after fun mapping => .ite ?_ ?_)
  · exact .after fun first => .after fun rest => hdict _
  · refine .after fun first => .after fun keyed => .ite ?_ ?_
    · split
      · exact .failure
      · exact .after fun value => .after fun rest => hdict _
    · exact .after fun tail => .after fun _ => yields_finishNode fun _ => trivial

/-- A member, a call or a subscript is no name. -/
theorem yields_trailer (g : Grammar) (start : Spot) (value : Tree) :
    Yields (trailer g start value) fun t? => ∀ t ∈ t?, t.HasTextName := by
  refine .after fun dot => .ite (.after fun name => .item (yields_finishNode fun _ => trivial)) ?_
  refine .after fun opens => .ite (.after fun args => .item (yields_finishNode fun _ => trivial)) ?_
  refine .after fun opens => .ite ?_ .noItem
  exact .after fun index => .after fun _ => .item (yields_finishNode fun _ => trivial)

section Expression
variable {g : Grammar} (hg : g.Sound)
include hg

/-- Operations are no names, and their innermost operand is a factor. -/
theorem yields_operations (levels : List (List (String × Kind))) :
    Yields (operations g levels) HasTextName := by
  induction levels with
  | nil =>
      rw [operations]
      exact hg .factor
  | cons level tighter ih =>
      rw [operations]
      refine .after fun start => .bind ih fun first hfirst => yields_iterate hfirst fun left _ => ?_
      rw [operations.step]
      refine .after fun op? => ?_
      cases op? with
      | none => exact .noItem
      | some op =>
          exact .after fun _ => .after fun right => .item (yields_finishNode fun _ => trivial)

/-- A comparison is no name, unless it is a single operand. -/
theorem yields_comparison : Yields (comparison g) HasTextName := by
  refine .after fun start => .bind (yields_operations hg _) fun left hleft => .after fun links => ?_
  exact .ite (.pure hleft) (yields_finishNode fun _ => trivial)

/-- A negation is no name. -/
theorem yields_inversion : Yields (inversion g) HasTextName := by
  refine .after fun start => .after fun negated => .ite ?_ (yields_comparison hg)
  exact .after fun inner => yields_finishNode fun _ => trivial

/-- Operands joined by either word are no name, unless there is a single one. -/
theorem yields_disjunction : Yields (disjunction g) HasTextName :=
  yields_junction _ _ (yields_junction _ _ (yields_inversion hg))

/-- A starred operand is no name. -/
theorem yields_starExpression : Yields (starExpression g) HasTextName := by
  refine .after fun start => .after fun starred => .ite ?_ (hg .expression)
  exact .after fun value => yields_finishNode fun _ => trivial

/-- A name in parentheses is a name. -/
theorem yields_parenthesised (start : Spot) : Yields (parenthesised g start) HasTextName := by
  refine .bind (yields_bracketed (yields_starExpression hg) _) fun ⟨items, isTuple⟩ hitems => ?_
  dsimp only
  split
  · refine .ite (yields_finishNode fun _ => trivial) ?_
    split
    · exact .failure
    · exact .pure (hitems _ List.mem_cons_self)
  · exact yields_finishNode fun _ => trivial

/-- A name is read with its text. -/
theorem yields_atom : Yields (atom g) HasTextName := by
  refine .after fun start => .after fun lexeme => ?_
  split
  -- A name is the only atom of which there is anything to show, but for what parentheses hold.
  · exact .after fun _ => yields_finishNode fun _ => ⟨_, _, rfl⟩
  · exact .after fun _ => yields_constantNode _ _ start
  · exact .after fun _ => yields_constantNode _ _ start
  · exact .after fun _ => yields_constantNode _ _ start
  · exact .after fun _ => yields_constantNode _ _ start
  · exact yields_literals
  · exact yields_literals
  · exact .after fun _ => yields_constantNode _ _ start
  · exact .after fun _ => yields_parenthesised hg start
  · exact .after fun _ => .after fun items => yields_finishNode fun _ => trivial
  · exact .after fun _ => yields_braced g start
  · exact .failure

/-- A factor is a name only if it is an atom. -/
theorem yields_factor : Yields (factor g) HasTextName := by
  have hprimary : Yields (primary g) HasTextName := .after fun start =>
    .bind (yields_atom hg) fun first hfirst =>
      yields_iterate hfirst fun value _ => yields_trailer g start value
  refine .after fun start => .after fun sign? => ?_
  cases sign? with
  | some op => exact .after fun _ => .after fun inner => yields_finishNode fun _ => trivial
  | none =>
      refine .bind hprimary fun base hbase => .after fun power => .ite ?_ (.pure hbase)
      exact .after fun exponent => yields_finishNode fun _ => trivial

/-- An expression is a name only if it is a factor. -/
theorem yields_expression : Yields (expression g) HasTextName := by
  refine .after fun start => .after fun function => .ite ?_ ?_
  · exact .after fun params => .after fun _ => .after fun body => yields_finishNode fun _ => trivial
  · refine .bind (yields_disjunction hg) fun body hbody => .after fun choice => ?_
    refine .ite (.after fun test => .after fun _ => .after fun orelse => ?_) (.pure hbody)
    exact yields_finishNode fun _ => trivial

end Expression

/-! ### Statements -/

/-- A node of another kind than conditions and loops is a statement, whatever its fields are. -/
theorem yields_other {kind : Kind} {fields : List Tree} {start : Spot}
    (hkind : kind ∉ compoundKinds) : Yields (finishNode kind fields start) ParsedStatement :=
  yields_finishNode fun _ => .other hkind

/-- An annotated assignment is no condition and no loop. -/
theorem yields_annotated (g : Grammar) (start : Spot) (simple : Bool) (first : Tree) :
    Yields (annotated g start simple first) ParsedStatement := by
  refine .ite (.after fun first => .after fun annotation => .after fun valued => .ite ?_ ?_)
    .failed
  · exact .after fun value => yields_other (by decide)
  · exact .after fun value => yields_other (by decide)

/-- An assignment is no condition and no loop. -/
theorem yields_assignment (g : Grammar) (start : Spot) (first : Tree) :
    Yields (assignment g start first) ParsedStatement := by
  refine .after fun more => ?_
  split
  · exact .failure
  · exact .after fun targets => yields_other (by decide)

/-- A statement that begins with an expression is no condition and no loop. -/
theorem yields_expressionStatement (g : Grammar) :
    Yields (expressionStatement g) ParsedStatement := by
  refine .after fun start => .after fun parenthesised => .after fun first => ?_
  refine .after fun assigns => .ite (yields_assignment g start first) (.after fun annotates => ?_)
  refine .ite (yields_annotated g start _ first) (.after fun op? => ?_)
  cases op? with
  | some op =>
      refine .after fun _ => .ite ?_ .failed
      exact .after fun target => .after fun value => yields_other (by decide)
  | none => exact yields_other (by decide)

/-- An import is no condition and no loop. -/
theorem yields_importFrom (start : Spot) : Yields (importFrom start) ParsedStatement := by
  refine .after fun level => .after fun unnamed => .ite ?_ ?_
  · exact .after fun _ => .after fun _ => .after fun names => yields_other (by decide)
  · exact .after fun name => .after fun _ => .after fun names => yields_other (by decide)

/-- A simple statement is no condition and no loop. -/
theorem yields_simpleStatement (g : Grammar) : Yields (simpleStatement g) ParsedStatement := by
  refine .after fun start => .after fun lexeme => ?_
  -- One case for each keyword, and whatever is read in it, its node is of a kind of its own.
  split
  · exact .after fun _ => yields_other (by decide)
  · exact .after fun _ => yields_other (by decide)
  · exact .after fun _ => yields_other (by decide)
  · exact .after fun _ => .after fun value => yields_other (by decide)
  · refine .after fun _ => .after fun exc => .after fun caused => .ite ?_ ?_
    · exact .after fun _ => .after fun cause => yields_other (by decide)
    · exact .after fun cause => yields_other (by decide)
  · refine .after fun _ => .after fun test => .after fun worded => .ite ?_ ?_
    · exact .after fun message => yields_other (by decide)
    · exact .after fun message => yields_other (by decide)
  · exact .after fun _ => .after fun first => .after fun rest => yields_other (by decide)
  · exact .after fun _ => .after fun names => yields_other (by decide)
  · exact .after fun _ => .after fun names => yields_other (by decide)
  · exact .after fun _ => .after fun names => yields_other (by decide)
  · exact .after fun _ => yields_importFrom start
  · exact yields_expressionStatement g

/-- No simple statement of a line is a condition or a loop. -/
theorem yields_simpleStatements (g : Grammar) :
    Yields (simpleStatements g) fun line => ∀ t ∈ line, t.ParsedStatement := by
  have hstatement := yields_simpleStatement g
  have hline : Yields (simpleLine g) fun line => ∀ t ∈ line, t.ParsedStatement := by
    refine .bind hstatement fun first hfirst => .bind (yields_many ?_) fun rest hrest =>
      .pure (List.forall_mem_cons.mpr ⟨hfirst, hrest⟩)
    refine .after fun more => .ite (.after fun lexeme => ?_) .noItem
    split
    · exact .noItem
    · exact .item hstatement
  exact .bind hline fun line hline => .after fun _ => .pure hline

/-- A loop over values is none of the loops that are drawn. -/
theorem yields_forLoop (g : Grammar) (start : Spot) : Yields (forLoop g start) ParsedStatement :=
  .after fun items => .after fun target => .after fun _ => .after fun values => .after fun body =>
    .after fun orelse => yields_other (by decide)

/-- A function is no condition and no loop. -/
theorem yields_functionDefinition (g : Grammar) (start : Spot) :
    Yields (functionDefinition g start) ParsedStatement := by
  refine .after fun name => .after fun _ => .after fun params => .after fun _ =>
    .after fun typed => .ite ?_ ?_
  · exact .after fun returns => .after fun body => yields_other (by decide)
  · exact .after fun returns => .after fun body => yields_other (by decide)

/-- A class is no condition and no loop. -/
theorem yields_classDefinition (g : Grammar) (start : Spot) :
    Yields (classDefinition g start) ParsedStatement := by
  refine .after fun name => .after fun opens => .ite ?_ ?_
  · exact .after fun args => .after fun body => yields_other (by decide)
  · exact .after fun args => .after fun body => yields_other (by decide)

section Statement
variable {g : Grammar} (hg : g.Sound)
include hg

/-- The body of a compound statement is a list of statements. -/
theorem yields_body : Yields (body g) Rule.block.Reads :=
  .after fun _ => hg .block

/-- The statements for the other case are a list, which is empty if there are none. -/
theorem yields_elseBody : Yields (elseBody g) Rule.block.Reads :=
  .after fun _ => .ite (yields_body hg) (.pure ⟨[], rfl, List.forall_mem_nil _⟩)

/-- A condition has lists of statements on both sides. -/
theorem yields_conditional (start : Spot) : Yields (conditional g start) ParsedStatement := by
  refine .bind (hg .expression) fun test htest => .bind (yields_body hg) fun body hbody => ?_
  have hfinish : ∀ orelse, Rule.block.Reads orelse →
      Yields (finishNode .ifStmt [test, body, orelse] start) ParsedStatement := by
    rintro orelse ⟨others, rfl, hothers⟩
    obtain ⟨items, rfl, hitems⟩ := hbody
    exact yields_finishNode fun _ => .condition htest hitems hothers
  refine .after fun next => .after fun further => .ite ?_ (.bind (yields_elseBody hg) hfinish)
  refine .bind (hg (.conditional next)) fun inner hinner => ?_
  exact .bind (.pure ⟨_, rfl, List.forall_mem_singleton.mpr hinner⟩) hfinish

/-- A compound statement is a condition, a loop, or of another kind. -/
theorem yields_compoundStatement :
    Yields (compoundStatement g) fun t? => ∀ t ∈ t?, t.ParsedStatement := by
  refine .after fun start => .after fun lexeme => ?_
  split
  · exact .after fun _ => .item (yields_conditional hg start)
  · refine .after fun _ => .bind (hg .expression) fun test htest => ?_
    refine .bind (yields_body hg) ?_
    rintro _ ⟨items, rfl, hitems⟩
    refine .bind (yields_elseBody hg) ?_
    rintro _ ⟨others, rfl, hothers⟩
    exact .item (yields_finishNode fun _ => .loop htest hitems hothers)
  · exact .after fun _ => .item (yields_forLoop g start)
  · exact .after fun _ => .item (yields_functionDefinition g start)
  · exact .after fun _ => .item (yields_classDefinition g start)
  · exact .noItem

/-- A compound statement is read alone, and simple ones as a line. -/
theorem yields_statement :
    Yields (statement g) fun line => ∀ t ∈ line, t.ParsedStatement := by
  refine .bind (yields_compoundStatement hg) fun t? ht => ?_
  cases t? with
  | some t => exact .pure (List.forall_mem_singleton.mpr (ht t rfl))
  | none => exact yields_simpleStatements g

/-- The indented lines of a body, or those behind its colon, are a list of statements. -/
theorem yields_block : Yields (block g) Rule.block.Reads := by
  refine .after fun lexeme => ?_
  split
  · refine .after fun _ => .after fun lexeme => ?_
    split
    -- Each line of an indented body is a statement or several, and the body is all of them.
    · refine .after fun _ => .bind (yields_many (P := fun line => ∀ t ∈ line, ParsedStatement t) ?_)
        fun lines hlines => .after fun lexeme => ?_
      · refine .after fun lexeme => ?_
        split
        · exact .noItem
        · exact .item (yields_statement hg)
      · have hflat : Rule.block.Reads (.list lines.flatten) :=
          ⟨_, rfl, List.forall_mem_flatten.mpr hlines⟩
        split
        · exact .after fun _ => .pure hflat
        · exact .after fun _ => .pure hflat
    · exact .failure
  · exact .bind (yields_simpleStatements g) fun line hline => .pure ⟨_, rfl, hline⟩

end Statement

/-- Every rule of the grammar reads what it has to, however deep it is followed. -/
theorem sound_rule (depth : Nat) : Grammar.Sound (rule depth) := by
  induction depth with
  | zero => exact fun _ => .failure
  | succ depth ih =>
      intro entry
      cases entry with
      | expression => exact yields_expression ih
      | factor => exact yields_factor ih
      | inversion => exact yields_inversion ih
      | conditional start => exact yields_conditional ih start
      | block => exact yields_block ih

/-- The statements of a file are a program. -/
theorem yields_programOf {g : Grammar} (hg : g.Sound) :
    Yields (programOf g .file) ParsedProgram := by
  refine .bind (yields_many (P := fun line => ∀ t ∈ line, ParsedStatement t) ?_)
    fun lines hlines => .after fun _ => .pure (.program (List.forall_mem_flatten.mpr hlines))
  refine .after fun lexeme => ?_
  split
  · exact .noItem
  · exact .item (yields_statement hg)

/-- A program that is read from a text has the form of such programs. -/
theorem parsedProgram_of_parse {text : String} {program : Tree}
    (h : parse .file text = .ok program) : program.ParsedProgram := by
  dsimp only [parse] at h
  -- Without tokens, or where they are no program, there is no tree.
  split at h
  · cases h
  split at h
  · cases h
  split at h
  · next hrun =>
      cases h
      exact yields_programOf (sound_rule _) _ _ _ hrun
  · cases h

end Source

end Flowchart
