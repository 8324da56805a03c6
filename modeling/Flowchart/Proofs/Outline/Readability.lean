import Flowchart.Proofs.Outline.Spelling
import Flowchart.Proofs.Text.Numeral
import Flowchart.Proofs.Text.Quoted

/-!
# `Flowchart.Proofs.Outline.Readability`: a tree is known from its outline

The trees here are complete: no node lacks a field of its kind or, if places are shown, a
coordinate, and the constants are those whose text tells what they are (`Tree.Complete`).  Two of
them with one outline differ at most in what an outline leaves out, which is the place of a node
where places are not shown (`Tree.visible`).  This is `outline_determines_tree`.

The first characters of an outline tell what kind of tree it begins with (`Lead`), and a tree can be
told from its characters wherever a comma, a closing parenthesis or nothing follows (`Readable`).
Nodes of one kind show the same number of values, so that it suffices to take them one by one
(`entries_inj`).  Lists may have any length: behind an item, the first character that is not a blank
tells whether the list is at its end (`items_inj`).
-/

set_option autoImplicit false

namespace Flowchart

/-! ### Names of kinds -/

namespace Kind

/-- Every kind is found by its name. -/
theorem ofName?_name (kind : Kind) : ofName? kind.name = some kind := by
  have hall : ∀ kind ∈ all, ofName? kind.name = some kind := by decide +kernel
  exact hall kind (mem_all kind)

end Kind

/-! ### Complete trees -/

/-- Whether a constant is one whose text tells what it is. -/
def Constant.isDistinct : Constant → Bool
  | .number (.float _) | .number (.complex _ _) => false
  | _ => true

namespace Tree

/-- A node has all fields of its kind, and nothing is absent. -/
def IsWhole : Tree → Prop
  | .node kind fields _ => fields.length = kind.fields.length ∧ fields.all isThere = true
  | .list _ => True
  | .constant c => c.isDistinct = true
  | .absent _ _ => False

/-- All parts of a tree are whole. -/
def Complete (places : Bool) (t : Tree) : Prop :=
  ∀ s, Part places t s → s.IsWhole

/-- A complete tree is whole. -/
theorem Complete.isWhole {places : Bool} {t : Tree} (h : t.Complete places) : t.IsWhole :=
  h t .refl

/-- The children of a complete tree are complete. -/
theorem Complete.child {places : Bool} {t s : Tree} (h : t.Complete places)
    (hs : s ∈ t.children places) : s.Complete places :=
  fun part hpart => h part (.head hs hpart)

/-- A tree that is whole is complete if its children are. -/
theorem complete_of_children {places : Bool} {t : Tree} (ht : t.IsWhole)
    (hchildren : ∀ s ∈ t.children places, s.Complete places) : t.Complete places :=
  forall_within_iff.mpr ⟨ht, hchildren⟩

mutual

/-- What an outline shows of a tree. -/
def visible (places : Bool) : Tree → Tree
  | .node kind fields ⟨line, column, endLine, endColumn, _⟩ =>
    .node kind (visibleAll places fields)
      (if places && kind.placement ≠ .unplaced then
        ⟨visible places line, visible places column, visible places endLine,
          visible places endColumn, []⟩
      else .nowhere kind)
  | .list items => .list (visibleAll places items)
  | t => t

/-- What an outline shows of several trees. -/
def visibleAll (places : Bool) : List Tree → List Tree
  | [] => []
  | t :: rest => visible places t :: visibleAll places rest

end

/-- What is shown of several trees is what is shown of each of them. -/
theorem visibleAll_eq_map (places : Bool) (ts : List Tree) :
    visibleAll places ts = ts.map (visible places) := by
  induction ts with
  | nil => rfl
  | cons t ts ih => rw [visibleAll, ih, List.map_cons]

/-- A node that is whole shows the names of its kind, with its fields and coordinates. -/
theorem entries_of_isWhole {places : Bool} {kind : Kind} {fields : List Tree} {place : Place Tree}
    (h : (Tree.node kind fields place).IsWhole) :
    (Tree.node kind fields place).entries places = (kind.fields.map (·.name)).zip fields ++
      if places && kind.placement ≠ .unplaced then place.coordinates else [] := by
  have hall : ∀ e ∈ (kind.fields.map (·.name)).zip fields, e.2.isThere = true :=
    fun e he => List.all_eq_true.mp h.2 e.2 (List.of_mem_zip he).2
  rw [entries, List.filter_eq_self.mpr hall]

/-- Nodes of one kind show the same names. -/
theorem names_eq_of_isWhole {places : Bool} {kind : Kind} {fields fields' : List Tree}
    {place place' : Place Tree} (h : (Tree.node kind fields place).IsWhole)
    (h' : (Tree.node kind fields' place').IsWhole) :
    ((Tree.node kind fields place).entries places).map (·.1)
      = ((Tree.node kind fields' place').entries places).map (·.1) := by
  have hzip : ∀ {fields : List Tree}, fields.length = kind.fields.length →
      ((kind.fields.map (·.name)).zip fields).map (·.1) = kind.fields.map (·.name) :=
    fun hlength => List.map_fst_zip (by simp [hlength])
  rw [entries_of_isWhole h, entries_of_isWhole h', List.map_append, List.map_append, hzip h.1,
    hzip h'.1]
  split <;> rfl

/-- Nodes of one kind with the same values in their entries show the same. -/
theorem visible_node_eq {places : Bool} {kind : Kind} {fields fields' : List Tree}
    {place place' : Place Tree} (h : (Tree.node kind fields place).IsWhole)
    (h' : (Tree.node kind fields' place').IsWhole)
    (hvalues : ((Tree.node kind fields place).entries places).map (fun e => e.2.visible places)
      = ((Tree.node kind fields' place').entries places).map (fun e => e.2.visible places)) :
    (Tree.node kind fields place).visible places
      = (Tree.node kind fields' place').visible places := by
  rw [entries_of_isWhole h, entries_of_isWhole h', List.map_append, List.map_append] at hvalues
  have hzip : ∀ {fields : List Tree}, fields.length = kind.fields.length →
      ((kind.fields.map (·.name)).zip fields).map (fun e => e.2.visible places)
        = fields.map (visible places) := by
    intro fields hlength
    have hsnd : ((kind.fields.map (·.name)).zip fields).map Prod.snd = fields :=
      List.map_snd_zip (by simp [hlength])
    calc
      _ = (((kind.fields.map (·.name)).zip fields).map Prod.snd).map (visible places) :=
        List.map_map.symm
      _ = _ := by rw [hsnd]
  rw [hzip h.1, hzip h'.1] at hvalues
  -- Both nodes have as many fields as their kind, so that the coordinates come at one place.
  obtain ⟨hfields, hplaces⟩ := List.append_inj hvalues (by simp [h.1, h'.1])
  obtain ⟨line, column, endLine, endColumn, remarks⟩ := place
  obtain ⟨line', column', endLine', endColumn', remarks'⟩ := place'
  rw [visible, visible, visibleAll_eq_map, visibleAll_eq_map, hfields]
  split
  · next hshown =>
      rw [if_pos hshown, if_pos hshown] at hplaces
      simp only [Place.coordinates, List.map_cons, List.map_nil, List.cons.injEq, and_true]
        at hplaces
      obtain ⟨hline, hcolumn, hendLine, hendColumn⟩ := hplaces
      rw [hline, hcolumn, hendLine, hendColumn]
  · rfl

end Tree

namespace Outline

open Flowchart.Tree

/-! ### Beginnings -/

/-- What a tree is, as far as its first characters tell. -/
inductive Lead where
  | node (kind : Kind)
  | list
  | none
  | bool (value : Bool)
  | number
  | str
  | bytes
  | ellipsis
deriving DecidableEq

/-- The characters of words. -/
def letterRanges : Text.Ranges :=
  [(65, 90), (95, 95), (97, 122)]

/-- Whether a character may stand in a word. -/
def isLetter (c : Char) : Bool :=
  letterRanges.contains c.toNat

/-- The words that are no names of kinds. -/
def Lead.words : List (String × Lead) :=
  [("None", none), ("True", bool true), ("False", bool false), ("b", bytes), ("Ellipsis", ellipsis)]

/-- What begins with the given word. -/
def Lead.ofWord (word : String) : Lead :=
  match Kind.ofName? word with
  | some kind => node kind
  | .none => (words.lookup word).getD number

/-- What begins with the given characters. -/
def Lead.ofChars (chars : List Char) : Lead :=
  match chars.takeWhile isLetter with
  | [] =>
    if chars.head? = some '[' then list
    else if chars.head? = some '\'' ∨ chars.head? = some '"' then str
    else number
  | word => ofWord (String.ofList word)

/-- What a tree is, told by its first characters. -/
def lead : Tree → Lead
  | .node kind _ _ => .node kind
  | .list _ => .list
  | .constant .none => .none
  | .constant (.bool b) => .bool b
  | .constant (.number _) | .absent _ _ => .number
  | .constant (.str _) => .str
  | .constant (.bytes _) => .bytes
  | .constant .ellipsis => .ellipsis

/-- What may follow a tree: the end, a comma or a closing parenthesis. -/
def Stops (rest : List Char) : Prop :=
  ∀ c, rest.head? = some c → c = ',' ∨ c = ')'

/-- A digit is no letter. -/
theorem isLetter_of_isDigit {c : Char} (h : c.isDigit = true) : isLetter c = false := by
  have hranges : ∀ range ∈ letterRanges, 65 ≤ range.1 := by decide
  cases hletter : isLetter c with
  | false => rfl
  | true =>
      obtain ⟨range, hmem, hlo, -⟩ := Text.Ranges.exists_of_contains hletter
      have hdigit := toNat_of_isDigit h
      have hrange := hranges range hmem
      omega

/-- A word that is at its end tells what begins with it. -/
theorem ofChars_word {word : String} (hne : word.toList ≠ [])
    (hletters : word.toList.all isLetter = true) {rest : List Char}
    (hrest : EndsRun isLetter rest) : Lead.ofChars (word.toList ++ rest) = Lead.ofWord word := by
  have htake : (word.toList ++ rest).takeWhile isLetter = word.toList := by
    rw [List.takeWhile_append_of_pos (List.all_eq_true.mp hletters)]
    cases rest with
    | nil => simp
    | cons c rest => simp [hrest c rfl]
  rw [Lead.ofChars, htake]
  split
  · next hnil => exact absurd hnil hne
  · rw [String.ofList_toList]

/-- A first character that is no letter tells what begins with it by itself. -/
theorem ofChars_other {c : Char} (hc : isLetter c = false) (rest : List Char) :
    Lead.ofChars (c :: rest) = if c = '[' then .list
      else if c = '\'' ∨ c = '"' then .str else .number := by
  simp [Lead.ofChars, hc]

/-- No word goes on behind a tree. -/
theorem Stops.endsRun_letter {rest : List Char} (h : Stops rest) : EndsRun isLetter rest := by
  intro c hc
  rcases h c hc with rfl | rfl <;> rfl

/-- No number goes on behind a tree. -/
theorem Stops.endsRun_digit {rest : List Char} (h : Stops rest) : EndsRun Char.isDigit rest := by
  intro c hc
  rcases h c hc with rfl | rfl <;> rfl

/-- A tree may end before a comma. -/
theorem stops_comma (rest : List Char) : Stops (',' :: rest) := by
  intro c hc
  cases hc
  exact .inl rfl

/-- A tree may end before a closing parenthesis. -/
theorem stops_parenthesis (rest : List Char) : Stops (')' :: rest) := by
  intro c hc
  cases hc
  exact .inr rfl

/-- The name of a kind is a word. -/
theorem name_letters (kind : Kind) :
    kind.name.toList ≠ [] ∧ kind.name.toList.all isLetter = true := by
  have hall : ∀ kind ∈ Kind.all, kind.name.toList ≠ [] ∧ kind.name.toList.all isLetter = true := by
    decide +kernel
  exact hall kind (Kind.mem_all kind)

section
variable {step : String} {names places : Bool}

/-- The first characters of a tree tell what it is. -/
theorem ofChars_render {t : Tree} (ht : t.IsWhole) (depth : Nat) {rest : List Char}
    (hrest : Stops rest) :
    Lead.ofChars (render step (tokens names places depth t) ++ rest) = lead t := by
  cases t with
  -- Names are words, and the parenthesis behind the name of a kind is where the word ends.
  | node kind fields place =>
      obtain ⟨hne, hletters⟩ := name_letters kind
      rw [render_node, List.append_assoc, ofChars_word hne hletters, Lead.ofWord, Kind.ofName?_name]
      · rfl
      · intro c hc
        cases hc
        rfl
  | list items =>
      cases items with
      | nil => rw [tokens, render_spelled]; rfl
      | cons first rest =>
          rw [render_list _ _ _ _ (List.cons_ne_nil first rest), List.cons_append,
            ofChars_other rfl]
          rfl
  | constant c =>
      rw [tokens, render_spelled]
      have hword := fun word hne hletters =>
        @ofChars_word word hne hletters rest hrest.endsRun_letter
      cases c with
      | none => exact (hword "None" (by decide) rfl).trans (by decide +kernel)
      | bool b =>
          cases b with
          | true => exact (hword "True" (by decide) rfl).trans (by decide +kernel)
          | false => exact (hword "False" (by decide) rfl).trans (by decide +kernel)
      | number n =>
          cases n with
          | int n =>
              -- A number begins with a digit or a minus, which begins nothing else.
              obtain ⟨c, digits, htext, hc⟩ := exists_cons_intText n
              show Lead.ofChars ((intText n).toList ++ rest) = .number
              have hother : isLetter c = false ∧ c ≠ '[' ∧ c ≠ '\'' ∧ c ≠ '"' := by
                rcases hc with hdigit | rfl
                · refine ⟨isLetter_of_isDigit hdigit, ?_, ?_, ?_⟩ <;> rintro rfl <;> cases hdigit
                · decide
              rw [htext, List.cons_append, ofChars_other hother.1]
              simp [hother]
          | float x => cases ht
          | complex re im => cases ht
      | str text =>
          obtain ⟨quote, hquote, htext⟩ := Text.toList_quoted text
          show Lead.ofChars ((Text.quoted text).toList ++ rest) = .str
          rw [htext, List.cons_append]
          rcases hquote with rfl | rfl <;> rw [ofChars_other rfl] <;> rfl
      | bytes bytes =>
          obtain ⟨quote, hquote, htext⟩ := Text.toList_quotedBytes bytes
          -- The quote ends the word in front of it.
          have hends : EndsRun isLetter (quote :: (bytes.flatMap (Text.escapeByte quote) ++ [quote])
              ++ rest) := by
            intro c hc
            cases hc
            rcases hquote with rfl | rfl <;> rfl
          show Lead.ofChars ((Text.quotedBytes bytes).toList ++ rest) = .bytes
          rw [htext]
          exact (@ofChars_word "b" (by decide) rfl _ hends).trans (by decide +kernel)
      | ellipsis => exact (hword "Ellipsis" (by decide) rfl).trans (by decide +kernel)
  | absent owner field => exact ht.elim

/-- What begins as a node is a node of that kind. -/
theorem eq_node_of_lead {u : Tree} {kind : Kind} (h : lead u = .node kind) :
    ∃ fields place, u = .node kind fields place := by
  cases u with
  | node kind' fields place => cases h; exact ⟨fields, place, rfl⟩
  | constant c => cases c <;> cases h
  | _ => cases h

/-- What begins as a list is a list. -/
theorem eq_list_of_lead {u : Tree} (h : lead u = .list) : ∃ items, u = .list items := by
  cases u with
  | list items => exact ⟨items, rfl⟩
  | constant c => cases c <;> cases h
  | _ => cases h

/-- What begins as a constant is a constant. -/
theorem eq_constant_of_lead {u : Tree} {c : Constant} (h : lead u = lead (.constant c))
    (hu : u.IsWhole) : ∃ c', u = .constant c' := by
  cases u with
  | constant c' => exact ⟨c', rfl⟩
  | absent owner field => exact hu.elim
  | _ => cases c <;> cases h

/-- Constants that begin alike can be told from their texts. -/
theorem constant_append_inj {c c' : Constant} (hc : c.isDistinct = true)
    (hc' : c'.isDistinct = true) (hlead : lead (.constant c) = lead (.constant c'))
    {r s : List Char} (hr : Stops r) (hs : Stops s) (h : c.text.toList ++ r = c'.text.toList ++ s) :
    c = c' ∧ r = s := by
  cases c <;> cases c' <;> cases hlead
  case none.none => exact ⟨rfl, List.append_cancel_left h⟩
  case bool.bool => exact ⟨rfl, List.append_cancel_left h⟩
  case ellipsis.ellipsis => exact ⟨rfl, List.append_cancel_left h⟩
  -- The digits end where the run of them does, and quotations at their quotes.
  case number.number n n' =>
    cases n with
    | int n =>
        cases n' with
        | int n' =>
            obtain ⟨rfl, hrs⟩ := intText_append_inj hr.endsRun_digit hs.endsRun_digit h
            exact ⟨rfl, hrs⟩
        | _ => cases hc'
    | _ => cases hc
  case str.str text text' =>
    obtain ⟨rfl, hrs⟩ := Text.quoted_append_inj h
    exact ⟨rfl, hrs⟩
  case bytes.bytes bytes bytes' =>
    obtain ⟨rfl, hrs⟩ := Text.quotedBytes_append_inj h
    exact ⟨rfl, hrs⟩

/-! ### Unique reading -/

/-- A tree can be told from its characters wherever it may end. -/
def Readable (step : String) (names places : Bool) (t : Tree) : Prop :=
  ∀ (depth : Nat) (u : Tree) (r s : List Char), u.Complete places → Stops r → Stops s →
    render step (tokens names places depth t) ++ r
        = render step (tokens names places depth u) ++ s →
      t.visible places = u.visible places ∧ r = s

/-- The values of two nodes, if their names are the same. -/
theorem entries_inj (depth : Nat) {es es' : List (String × Tree)}
    (hnames : es.map (·.1) = es'.map (·.1)) (hes : ∀ e ∈ es, Readable step names places e.2)
    (hes' : ∀ e ∈ es', e.2.Complete places) {r s : List Char}
    (h : [',', ' '].intercalate (es.map fun e =>
        (label names e.1).toList ++ render step (tokens names places depth e.2)) ++ ')' :: r
      = [',', ' '].intercalate (es'.map fun e =>
        (label names e.1).toList ++ render step (tokens names places depth e.2)) ++ ')' :: s) :
    es.map (fun e => e.2.visible places) = es'.map (fun e => e.2.visible places) ∧ r = s := by
  induction es generalizing es' with
  | nil =>
      obtain rfl : es' = [] := by simpa using hnames.symm
      exact ⟨rfl, (List.cons.inj h).2⟩
  | cons e es ih =>
      obtain ⟨e', es', rfl⟩ : ∃ e' rest, es' = e' :: rest := by
        cases es' with
        | nil => simp at hnames
        | cons e' es' => exact ⟨e', es', rfl⟩
      obtain ⟨hname, hnames⟩ := List.cons.inj hnames
      have hread := hes e List.mem_cons_self depth e'.2
      have hcomplete := hes' e' List.mem_cons_self
      have hes := fun f hf => hes f (List.mem_cons_of_mem e hf)
      have hes' := fun f hf => hes' f (List.mem_cons_of_mem e' hf)
      -- Behind the value comes a comma or the end, for both nodes alike.
      cases es with
      | nil =>
          obtain rfl : es' = [] := by simpa using hnames.symm
          simp only [List.map_cons, List.map_nil, List.intercalate_singleton, hname,
            List.append_assoc, List.append_cancel_left_eq] at h
          obtain ⟨hvalue, hrs⟩ :=
            hread _ _ hcomplete (stops_parenthesis _) (stops_parenthesis _) h
          exact ⟨by simp [hvalue], (List.cons.inj hrs).2⟩
      | cons f es =>
          cases es' with
          | nil => simp at hnames
          | cons f' es' =>
              simp only [List.map_cons, List.intercalate_cons_cons, hname, List.append_assoc,
                List.append_cancel_left_eq] at h
              obtain ⟨hvalue, hrest⟩ := hread _ _ hcomplete (stops_comma _) (stops_comma _) h
              obtain ⟨hvalues, hrs⟩ :=
                ih hnames hes hes' (@List.append_cancel_left _ [',', ' '] _ _ hrest)
              exact ⟨congrArg₂ List.cons hvalue hvalues, hrs⟩

/-- The first character of a tree, which is neither a blank nor a closing bracket. -/
def isOpening (c : Char) : Bool :=
  33 ≤ c.toNat && c.toNat ≤ 126 && c != ']'

/-- The first character of a tree is not a blank. -/
theorem isBlank_of_isOpening {c : Char} (h : isOpening c = true) : Text.isBlank c = false := by
  have hranges : ∀ range ∈ Text.blankRanges, range.2 < 33 ∨ 126 < range.1 := by decide
  cases hblank : Text.isBlank c with
  | false => rfl
  | true =>
      obtain ⟨range, hmem, hlo, hhi⟩ := Text.Ranges.exists_of_contains hblank
      simp only [isOpening, Bool.and_eq_true, decide_eq_true_eq] at h
      have hapart := hranges range hmem
      omega

/-- A tree may begin with a letter. -/
theorem isOpening_of_isLetter {c : Char} (h : isLetter c = true) : isOpening c = true := by
  have hranges : ∀ range ∈ letterRanges, 65 ≤ range.1 ∧ range.2 ≤ 122 := by decide
  have hne : c ≠ ']' := by
    rintro rfl
    cases h
  obtain ⟨range, hmem, hlo, hhi⟩ := Text.Ranges.exists_of_contains h
  have hrange := hranges range hmem
  simp only [isOpening, Bool.and_eq_true, decide_eq_true_eq, bne_iff_ne]
  exact ⟨⟨by omega, by omega⟩, hne⟩

/-- The text of a constant begins as a tree does. -/
theorem constant_opening {c : Constant} (hc : c.isDistinct = true) :
    ∃ first rest, c.text.toList = first :: rest ∧ isOpening first = true := by
  cases c with
  | none => exact ⟨'N', _, rfl, rfl⟩
  | bool b =>
      cases b with
      | true => exact ⟨'T', _, rfl, rfl⟩
      | false => exact ⟨'F', _, rfl, rfl⟩
  | number n =>
      cases n with
      | int n =>
          obtain ⟨first, rest, htext, hfirst⟩ := exists_cons_intText n
          refine ⟨first, rest, htext, ?_⟩
          rcases hfirst with hdigit | rfl
          · have hrange := toNat_of_isDigit hdigit
            have hne : first ≠ ']' := by
              rintro rfl
              cases hdigit
            simp only [isOpening, Bool.and_eq_true, decide_eq_true_eq, bne_iff_ne]
            exact ⟨⟨by omega, by omega⟩, hne⟩
          · rfl
      | _ => cases hc
  | str text =>
      obtain ⟨quote, hquote, htext⟩ := Text.toList_quoted text
      exact ⟨quote, _, htext, by rcases hquote with rfl | rfl <;> rfl⟩
  | bytes bytes =>
      obtain ⟨quote, -, htext⟩ := Text.toList_quotedBytes bytes
      exact ⟨'b', _, htext, rfl⟩
  | ellipsis => exact ⟨'E', _, rfl, rfl⟩

/-- A tree that is there begins with a character. -/
theorem tokens_opening {t : Tree} (hthere : t.isThere = true)
    (hconstant : ∀ c, t = .constant c → c.isDistinct = true) (depth : Nat) :
    ∃ c rest, tokens names places depth t = .char c :: rest ∧ isOpening c = true := by
  cases t with
  | node kind fields place =>
      -- The name of a kind is a word, and words begin with a letter.
      obtain ⟨hne, hletters⟩ := name_letters kind
      obtain ⟨c, rest, hname⟩ := List.exists_cons_of_ne_nil hne
      have hc : isLetter c = true := List.all_eq_true.mp hletters c (by simp [hname])
      exact ⟨c, _, by rw [tokens_node, spelled, String.toList_append, hname]; rfl,
        isOpening_of_isLetter hc⟩
  | list items =>
      cases items with
      | nil => exact ⟨'[', _, by rw [tokens]; rfl, rfl⟩
      | cons first rest =>
          exact ⟨'[', _, by rw [tokens_list _ _ _ (List.cons_ne_nil _ _)]; rfl, rfl⟩
  | constant c =>
      obtain ⟨first, rest, htext, hfirst⟩ := constant_opening (hconstant c rfl)
      exact ⟨first, _, by rw [tokens, spelled, htext, List.map_cons], hfirst⟩
  | absent owner field => cases hthere

/-- The lines of the items of a list. -/
def itemChars (step : String) (names places : Bool) (depth : Nat) (items : List Tree) : List Char :=
  items.flatMap fun item => '\n' :: (margin step (2 * (depth + 1)) ++
    (render step (tokens names places (depth + 1) item) ++ [',']))

/-- The characters of an empty list. -/
theorem render_list_nil (depth : Nat) (rest : List Char) :
    render step (tokens names places depth (.list [])) ++ rest = '[' :: ']' :: rest := by
  rw [tokens, render_spelled]
  rfl

/-- The characters of a list with items, which begin with a line end behind the bracket. -/
theorem render_list_cons (depth : Nat) (item : Tree) (items : List Tree) (rest : List Char) :
    render step (tokens names places depth (.list (item :: items))) ++ rest =
      '[' :: (itemChars step names places depth (item :: items) ++
        '\n' :: (margin step (2 * depth + 1) ++ ']' :: rest)) := by
  rw [render_list _ _ _ _ (List.cons_ne_nil item items)]
  simp [itemChars]

/-- The lines of the items of a list begin with that of its first item. -/
theorem itemChars_cons (depth : Nat) (item : Tree) (items : List Tree) (rest : List Char) :
    itemChars step names places depth (item :: items) ++ rest =
      '\n' :: (margin step (2 * (depth + 1)) ++
        (render step (tokens names places (depth + 1) item) ++
          ',' :: (itemChars step names places depth items ++ rest))) := by
  simp [itemChars]

/-- A tree that is whole begins with a character that is neither a blank nor a closing bracket. -/
theorem opening_of_isWhole {t : Tree} (h : t.IsWhole) (depth : Nat) :
    ∃ c rest, render step (tokens names places depth t) = c :: rest ∧ isOpening c = true := by
  have hthere : t.isThere = true := by
    cases t with
    | absent owner field => exact h.elim
    | _ => rfl
  obtain ⟨c, rest, htokens, hc⟩ :=
    @tokens_opening names places t hthere (by rintro c rfl; exact h) depth
  exact ⟨c, _, by rw [htokens, render_cons]; rfl, hc⟩

section
variable (hstep : step.toList.all Text.isBlank = true)
include hstep

/-- A margin is made of blanks if the step is. -/
theorem isBlank_of_mem_margin {count : Nat} {c : Char} (hc : c ∈ margin step count) :
    Text.isBlank c = true :=
  List.all_eq_true.mp hstep c (mem_of_mem_margin hc)

/-- The end of a list is not an item. -/
theorem closing_ne_item {count count' depth : Nat} {t : Tree} (ht : t.IsWhole) {r s : List Char} :
    margin step count ++ ']' :: r ≠
      margin step count' ++ (render step (tokens names places depth t) ++ s) := by
  intro h
  obtain ⟨c, rest, hrender, hc⟩ := @opening_of_isWhole step names places t ht depth
  rw [hrender, List.cons_append] at h
  have hends : ∀ {d : Char} {rest : List Char}, Text.isBlank d = false →
      EndsRun Text.isBlank (d :: rest) := by
    intro d rest hd e he
    cases he
    exact hd
  -- The blanks end at one place, and there is a closing bracket on one side only.
  obtain ⟨-, htail⟩ := append_inj_of_run (fun _ => isBlank_of_mem_margin hstep)
    (fun _ => isBlank_of_mem_margin hstep) (hends rfl) (hends (isBlank_of_isOpening hc)) h
  rw [← (List.cons.inj htail).1] at hc
  cases hc

/-- The items of two lists, up to their closing brackets. -/
theorem items_inj (depth : Nat) {items items' : List Tree}
    (hitems : ∀ item ∈ items, item.Complete places ∧ Readable step names places item)
    (hitems' : ∀ item ∈ items', item.Complete places) {r s : List Char}
    (h : itemChars step names places depth items ++
          '\n' :: (margin step (2 * depth + 1) ++ ']' :: r)
        = itemChars step names places depth items' ++
          '\n' :: (margin step (2 * depth + 1) ++ ']' :: s)) :
    items.map (visible places) = items'.map (visible places) ∧ r = s := by
  induction items generalizing items' with
  | nil =>
      cases items' with
      | nil => exact ⟨rfl, (List.cons.inj (List.append_cancel_left (List.cons.inj h).2)).2⟩
      -- One list would be at its end where the other one goes on.
      | cons item' items' =>
          rw [itemChars_cons] at h
          exact absurd (List.cons.inj h).2
            (closing_ne_item hstep (hitems' item' List.mem_cons_self).isWhole)
  | cons item items ih =>
      cases items' with
      | nil =>
          rw [itemChars_cons] at h
          exact absurd (List.cons.inj h).2.symm
            (closing_ne_item hstep (hitems item List.mem_cons_self).1.isWhole)
      | cons item' items' =>
          rw [itemChars_cons, itemChars_cons] at h
          obtain ⟨hitem, hrest⟩ := (hitems item List.mem_cons_self).2 (depth + 1) item' _ _
            (hitems' item' List.mem_cons_self) (stops_comma _) (stops_comma _)
            (List.append_cancel_left (List.cons.inj h).2)
          obtain ⟨hmap, hrs⟩ := ih (fun t ht => hitems t (List.mem_cons_of_mem _ ht))
            (fun t ht => hitems' t (List.mem_cons_of_mem _ ht)) (List.cons.inj hrest).2
          exact ⟨congrArg₂ List.cons hitem hmap, hrs⟩

/-- Every complete tree can be told from its characters. -/
theorem readable_of_complete (t : Tree) : t.Complete places → Readable step names places t := by
  induction t using Tree.childInduction places with
  | step t ih =>
      intro ht depth u r s hu hr hs h
      -- Both trees begin alike, so they are nodes of one kind, lists or constants.
      have hlead : lead u = lead t := by
        rw [← ofChars_render ht.isWhole depth hr, h, ofChars_render hu.isWhole depth hs]
      cases t with
      | node kind fields place =>
          obtain ⟨fields', place', rfl⟩ := eq_node_of_lead hlead
          simp only [render_node, List.append_assoc, List.append_cancel_left_eq, List.cons_append,
            List.cons.injEq, true_and, List.nil_append] at h
          obtain ⟨hvalues, hrs⟩ := entries_inj depth (names_eq_of_isWhole ht.isWhole hu.isWhole)
            (fun e he => ih e.2 (List.mem_map_of_mem he) (ht.child (List.mem_map_of_mem he)))
            (fun e he => hu.child (List.mem_map_of_mem he)) h
          exact ⟨visible_node_eq ht.isWhole hu.isWhole hvalues, hrs⟩
      | list items =>
          obtain ⟨items', rfl⟩ := eq_list_of_lead hlead
          cases items with
          | nil =>
              cases items' with
              | nil => exact ⟨rfl, List.append_cancel_left h⟩
              | cons item' items' =>
                  rw [render_list_nil, render_list_cons] at h
                  cases (List.cons.inj (List.cons.inj h).2).1
          | cons item items =>
              cases items' with
              | nil =>
                  rw [render_list_nil, render_list_cons] at h
                  cases (List.cons.inj (List.cons.inj h).2).1
              | cons item' items' =>
                  rw [render_list_cons, render_list_cons] at h
                  obtain ⟨hmap, hrs⟩ := items_inj hstep depth
                    (fun c hc => ⟨ht.child hc, ih c hc (ht.child hc)⟩) (fun c hc => hu.child hc)
                    (List.cons.inj h).2
                  rw [visible, visible, visibleAll_eq_map, visibleAll_eq_map]
                  exact ⟨congrArg Tree.list hmap, hrs⟩
      | constant c =>
          obtain ⟨c', rfl⟩ := eq_constant_of_lead hlead hu.isWhole
          rw [tokens, tokens, render_spelled, render_spelled] at h
          obtain ⟨rfl, hrs⟩ := constant_append_inj ht.isWhole hu.isWhole hlead.symm hr hs h
          exact ⟨rfl, hrs⟩
      | absent owner field => exact ht.isWhole.elim

end

end

/-- Too many digits are all that keeps a complete tree from being written. -/
theorem hasText_of_isWhole {t : Tree} (ht : t.IsWhole)
    (hdigits : ∀ n, t = .constant (.int n) → n.natAbs < Nat.pow 10 digitLimit) : t.HasText := by
  cases t with
  | constant c =>
      cases c with
      | number n =>
          cases n with
          | int n =>
              show (intText? n).isSome = true
              rw [intText?, if_pos (hdigits n rfl)]
              rfl
          | _ => rfl
      | _ => rfl
  | absent owner field => exact ht.elim
  | _ => trivial

/-- A tree is known from its outline.  A complete node has an outline if every whole number in it is
within the limit of digits.  Two complete trees with one outline show the same: they agree in the
kinds and the fields of their nodes and, where places are shown, in the coordinates. -/
theorem outline_determines_tree {options : Options} {step : String}
    (hindent : options.indent = .text step) (hstep : step.toList.all Text.isBlank = true)
    {t : Tree} (ht : t.Complete options.places) :
    ((∃ kind fields place, t = .node kind fields place) →
      (∀ n, t.Part options.places (.constant (.int n)) → n.natAbs < Nat.pow 10 digitLimit) →
        ∃ text, outline options t = .ok text) ∧
    ∀ u text, u.Complete options.places → outline options t = .ok text →
      outline options u = .ok text → t.visible options.places = u.visible options.places := by
  constructor
  · rintro ⟨kind, fields, place, hnode⟩ hdigits
    have hfaults : faults options.places t = [] := (faults_eq_nil_iff t).mpr fun s hs =>
      hasText_of_isWhole (ht s hs) fun n hn => hdigits n (hn ▸ hs)
    rw [outline_node hindent hnode, hfaults]
    exact ⟨_, rfl⟩
  · intro u text hu htext htext'
    obtain ⟨_, _, _, hnode⟩ := exists_node_of_outline htext
    obtain ⟨_, _, _, hnode'⟩ := exists_node_of_outline htext'
    rw [outline_node hindent hnode] at htext
    rw [outline_node hindent hnode'] at htext'
    -- One text is one row of characters, and nothing follows it on either side.
    have hchars := (barring_eq_ok.mp htext).2.trans (barring_eq_ok.mp htext').2.symm
    have hend : Stops [] := by
      intro c hc
      cases hc
    exact (readable_of_complete hstep t ht 0 u [] [] hu hend hend
      (congrArg (· ++ []) (String.ofList_inj.mp hchars))).1

/-- A text that looks like the end of the list in which it stands, in two nodes that differ in their
places. -/
theorem outline_determines_tree_brackets :
    let options : Options := ⟨false, false, .text "\t "⟩
    let tree (line : Int) : Tree := .node .returnStmt
      [.list [.list [.constant (.ofString "',\n\t ]")], .list [], .constant (.bytes [10, 39])]]
      ⟨.constant (.int line), .constant (.int 0), .constant .none, .constant .none, []⟩
    let text := "Return([\n\t \t [\n\t \t \t \t \"',\\n\\t ]\",\n\t \t \t ],\n" ++
      "\t \t [],\n\t \t b\"\\n'\",\n\t ])"
    outline options (tree 1) = .ok text ∧ outline options (tree 2) = .ok text ∧
      (tree 1).visible options.places = (tree 2).visible options.places := by
  intro options tree text
  have hleaf : ∀ {c : Constant}, c.isDistinct = true → (Tree.constant c).Complete options.places :=
    fun hc => complete_of_children hc nofun
  have hlist : ∀ {items : List Tree}, (∀ s ∈ items, s.Complete options.places) →
      (Tree.list items).Complete options.places :=
    fun hitems => complete_of_children trivial hitems
  have hcomplete : ∀ line, (tree line).Complete options.places := by
    intro line
    refine complete_of_children ⟨rfl, rfl⟩ (List.forall_mem_singleton.mpr (hlist ?_))
    simp only [List.forall_mem_cons]
    exact ⟨hlist (List.forall_mem_singleton.mpr (hleaf rfl)), hlist nofun, hleaf rfl, nofun⟩
  have htext : ∀ line, outline options (tree line) = .ok text := fun line => rfl
  exact ⟨htext 1, htext 2, (outline_determines_tree rfl rfl (hcomplete 1)).2 _ _ (hcomplete 2)
    (htext 1) (htext 2)⟩

end Outline

end Flowchart
