import Flowchart.Proofs.Program.Spelling
import Flowchart.Proofs.Text.Numeral
import Flowchart.Proofs.Text.Quoted
import Flowchart.Text.Identifier

/-!
# `Flowchart.Proofs.Program.Readability`: an expression is known from its text

The expressions here are those made of names, whole numbers, texts, calls by position and operations
(`Tree.Phrase`).  No two of them have one text (`text_determines_expression`).

The first character tells what an expression begins with (`Tree.Lead`), and an expression can be
told from the characters that begin with it wherever a blank, a comma, a closing parenthesis or
nothing follows (`Tree.Readable`).  Operations and the arguments of a call are both operands with
something between them, in parentheses, and are read in one way (`Separates.operands_inj`).  Texts
are the reason that this needs more than counting parentheses: they may hold all of these
characters, and only their quotes tell where they end.
-/

set_option autoImplicit false

namespace Flowchart

/-! ### Names and signs -/

namespace Text

/-- Whether a word has the form of a name; keywords have it too. -/
def isIdentifier : List Char → Bool
  | [] => false
  | c :: rest => isNameStart c && rest.all isNameContinue

/-- Names begin with no character before the capital letters. -/
theorem le_toNat_of_isNameStart {c : Char} (h : isNameStart c = true) : 65 ≤ c.toNat := by
  have hranges : ∀ range ∈ nameStartRanges, 65 ≤ range.1 := by decide +kernel
  obtain ⟨range, hmem, hlo, -⟩ := Ranges.exists_of_contains h
  exact Nat.le_trans (hranges range hmem) hlo

/-- Names have no character before the digits in them. -/
theorem le_toNat_of_isNameContinue {c : Char} (h : isNameContinue c = true) : 48 ≤ c.toNat := by
  have hranges : ∀ range ∈ nameContinueRanges, 48 ≤ range.1 := by decide +kernel
  obtain ⟨range, hmem, hlo, -⟩ := Ranges.exists_of_contains h
  exact Nat.le_trans (hranges range hmem) hlo

/-- All characters of a name come from the digits on. -/
theorem le_toNat_of_isIdentifier {word : List Char} (h : isIdentifier word = true) :
    ∀ c ∈ word, 48 ≤ c.toNat := by
  cases word with
  | nil => simp
  | cons c rest =>
      rw [isIdentifier, Bool.and_eq_true, List.all_eq_true] at h
      intro d hd
      rcases List.mem_cons.mp hd with rfl | hd
      · exact Nat.le_trans (by decide) (le_toNat_of_isNameStart h.1)
      · exact le_toNat_of_isNameContinue (h.2 d hd)

end Text

namespace Sign

/-- The kinds of operations. -/
inductive Family where
  | arithmetic | logical | comparing
deriving Repr, DecidableEq

/-- The kind of operation a sign belongs to. -/
def family : Sign → Family
  | mult | add | sub | div => .arithmetic
  | or | and => .logical
  | gt | lt | eq | notEq => .comparing

/-- The kind of node a sign is read from. -/
def kind : Sign → Kind
  | mult => .mult
  | add => .add
  | sub => .sub
  | div => .div
  | or => .or
  | and => .and
  | gt => .gt
  | lt => .lt
  | eq => .eq
  | notEq => .notEq

/-- A sign is read from the kind of node it belongs to. -/
theorem signOf_kind (sign : Sign) (place : Place Tree) :
    signOf (.node sign.kind [] place) = .ok sign := by
  cases sign <;> rfl

end Sign

namespace Tree

/-! ### The expressions -/

/-- An operation, its first operand, and the other operands with the signs in front of them. -/
inductive Chain : Tree → Tree → List (Sign × Tree) → Prop
  | binary {left right : Tree} {sign : Sign} {signPlace place : Place Tree}
      (hsign : sign.family = .arithmetic) :
      Chain (.node .binOp [left, .node sign.kind [] signPlace, right] place) left [(sign, right)]
  | junction {first second : Tree} {rest : List Tree} {sign : Sign} {signPlace place : Place Tree}
      (hsign : sign.family = .logical) :
      Chain (.node .boolOp [.node sign.kind [] signPlace, .list (first :: second :: rest)] place)
        first ((second :: rest).map (sign, ·))
  | comparison {left : Tree} {links : List (Sign × Place Tree × Tree)} {place : Place Tree}
      (hlinks : links ≠ []) (hsigns : ∀ link ∈ links, link.1.family = .comparing) :
      Chain (.node .compare [left, .list (links.map fun link => .node link.1.kind [] link.2.1),
        .list (links.map fun link => link.2.2)] place) left
        (links.map fun link => (link.1, link.2.2))

/-- The expressions made of names, whole numbers, texts, calls by position and operations. -/
inductive Phrase : Tree → Prop
  | name {id : String} {ctx : Tree} {place : Place Tree}
      (hid : Text.isIdentifier id.toList = true) :
      Phrase (.node .ident [.constant (.ofString id), ctx] place)
  | int {n : Int} {kind : Tree} {place : Place Tree} :
      Phrase (.node .constant [.constant (.int n), kind] place)
  | string {text : List Text.CodePoint} {kind : Tree} {place : Place Tree} :
      Phrase (.node .constant [.constant (.str text), kind] place)
  | call {id : String} {ctx : Tree} {idPlace : Place Tree} {args : List Tree} {place : Place Tree}
      (hid : Text.isIdentifier id.toList = true) (hargs : ∀ arg ∈ args, Phrase arg) :
      Phrase (.node .call [.node .ident [.constant (.ofString id), ctx] idPlace, .list args,
        .list []] place)
  | operation {t first : Tree} {links : List (Sign × Tree)} (hchain : Chain t first links)
      (hfirst : Phrase first) (hlinks : ∀ link ∈ links, Phrase link.2) : Phrase t

mutual

/-- A tree without the places of its nodes, the uses of its names and the kinds of its constants. -/
def stripped : Tree → Tree
  | .node .ident (id :: _) _ => .node .ident [id] (.nowhere .ident)
  | .node .constant (value :: _) _ => .node .constant [value] (.nowhere .constant)
  | .node kind fields _ => .node kind (strippedAll fields) (.nowhere kind)
  | .list items => .list (strippedAll items)
  | t => t

/-- Several trees without these. -/
def strippedAll : List Tree → List Tree
  | [] => []
  | t :: rest => stripped t :: strippedAll rest

end

/-- Several trees are stripped one by one. -/
theorem strippedAll_eq_map (ts : List Tree) : strippedAll ts = ts.map stripped := by
  induction ts with
  | nil => rfl
  | cons t ts ih => rw [strippedAll, ih, List.map_cons]

/-- A node other than a name or a constant is stripped in its fields. -/
theorem stripped_node {kind : Kind} (hname : kind ≠ .ident) (hconstant : kind ≠ .constant)
    (fields : List Tree) (place : Place Tree) :
    stripped (.node kind fields place) = .node kind (fields.map stripped) (.nowhere kind) := by
  rw [← strippedAll_eq_map]
  cases kind <;> first | rfl | exact absurd rfl hname | exact absurd rfl hconstant

/-- Of the node of a sign only the kind is left. -/
theorem stripped_sign (sign : Sign) (place : Place Tree) :
    stripped (.node sign.kind [] place) = .node sign.kind [] (.nowhere sign.kind) := by
  cases sign <;> rfl

/-- A list is stripped in its items. -/
theorem stripped_list (items : List Tree) :
    stripped (.list items) = .list (items.map stripped) := by
  rw [stripped, strippedAll_eq_map]

/-- The operation with the given operands and signs.  The signs tell which of the three forms it
has. -/
def operationOf (first : Tree) (links : List (Sign × Tree)) : Tree :=
  let operands := links.map (·.2)
  let signs := links.map fun link => Tree.node link.1.kind [] (.nowhere link.1.kind)
  match links.head?.map fun link => link.1.family with
  | some Sign.Family.arithmetic => .node .binOp ([first] ++ signs ++ operands) (.nowhere .binOp)
  | some Sign.Family.logical =>
    .node .boolOp (signs.take 1 ++ [.list (first :: operands)]) (.nowhere .boolOp)
  | _ => .node .compare [first, .list signs, .list operands] (.nowhere .compare)

/-- An operation is known from its operands and signs. -/
theorem Chain.stripped_eq {t first : Tree} {links : List (Sign × Tree)} (h : Chain t first links) :
    t.stripped = operationOf first.stripped (links.map (Prod.map id stripped)) := by
  cases h with
  | binary hsign =>
      rw [stripped_node (by decide) (by decide)]
      simp [operationOf, hsign, stripped_sign]
  | junction hsign =>
      rw [stripped_node (by decide) (by decide)]
      simp [operationOf, hsign, stripped_sign, stripped_list]
  | @comparison left links place hlinks hsigns =>
      rw [stripped_node (by decide) (by decide)]
      obtain ⟨link, links, rfl⟩ := List.exists_cons_of_ne_nil hlinks
      simp [operationOf, hsigns link List.mem_cons_self, stripped_sign, stripped_list]

end Tree

namespace Expr

/-! ### Reading the expressions from their trees -/

/-- Several trees are read one by one. -/
theorem ofTrees_eq_map (ts : List Tree) : ofTrees ts = ts.map ofTree := by
  induction ts with
  | nil => rfl
  | cons t ts ih => rw [ofTrees, ih, List.map_cons]

/-- The name of a name. -/
theorem nameOf_ident (id : String) (ctx : Tree) (place : Place Tree) :
    nameOf (.node .ident [.constant (.ofString id), ctx] place) = .ok (.text id) := by
  have hpiece : nameOf (.node .ident [.constant (.ofString id), ctx] place)
      = .ok (.ofTree (.constant (.ofString id))) := rfl
  rw [hpiece, Constant.ofString, Piece.ofTree, Text.ofCodePoints_codePoints]

/-- A name is read as itself. -/
theorem ofTree_name (id : String) (ctx : Tree) (place : Place Tree) :
    ofTree (.node .ident [.constant (.ofString id), ctx] place) = .name (.text id) := by
  rw [ofTree, nameOf_ident]

/-- A call by position is read with its name and its arguments. -/
theorem ofTree_call (id : String) (ctx : Tree) (idPlace place : Place Tree) (args : List Tree) :
    ofTree (.node .call [.node .ident [.constant (.ofString id), ctx] idPlace, .list args, .list []]
      place) = .call (.ok (.text id)) (args.map ofTree) [] := by
  rw [ofTree, nameOf_ident, ofItems, ofTrees_eq_map, ofKeywords, keywordValues]

/-- An operation with two operands is read with them and its sign. -/
theorem ofTree_binary (left right : Tree) (sign : Sign) (signPlace place : Place Tree) :
    ofTree (.node .binOp [left, .node sign.kind [] signPlace, right] place)
      = .binary (ofTree left) (.ok sign) (ofTree right) := by
  rw [ofTree, Sign.signOf_kind]

/-- A row of operands is read with them and its sign. -/
theorem ofTree_junction (operands : List Tree) (sign : Sign) (signPlace place : Place Tree) :
    ofTree (.node .boolOp [.node sign.kind [] signPlace, .list operands] place)
      = .junction (.ok sign) (operands.map ofTree) := by
  rw [ofTree, Sign.signOf_kind, ofItems, ofTrees_eq_map]

/-- A comparison is read with its operands and the sign of each link. -/
theorem ofTree_comparison (left : Tree) (links : List (Sign × Place Tree × Tree))
    (place : Place Tree) :
    ofTree (.node .compare [left, .list (links.map fun link => .node link.1.kind [] link.2.1),
        .list (links.map fun link => link.2.2)] place)
      = .comparison (ofTree left) ((links.map (·.1)).map .ok)
          (links.map fun link => ofTree link.2.2) := by
  rw [ofTree, signsOf, ofOthers, ofTrees_eq_map]
  simp [Sign.signOf_kind, Function.comp_def]

/-- Operands with a separator in front of each. -/
def tailChars {σ : Type} (separator : σ → List Char) (links : List (σ × Tree)) : List Char :=
  links.flatMap fun link => separator link.1 ++ (ofTree link.2).chars

/-- Texts with a separator between them are the first one, and the others behind a separator
each. -/
theorem intercalate_cons (separator first : List Char) (rest : List (List Char)) :
    separator.intercalate (first :: rest) = first ++ rest.flatMap (separator ++ ·) := by
  induction rest generalizing first with
  | nil => simp
  | cons text rest ih => rw [List.intercalate_cons_cons, ih]; simp

/-- The operands of a comparison with their signs in front of them. -/
theorem linked_eq_tailChars (links : List (Sign × Place Tree × Tree)) :
    linked ((links.map (·.1)).map .ok) (charsAll (links.map fun link => ofTree link.2.2))
      = tailChars Sign.spaced (links.map fun link => (link.1, link.2.2)) := by
  induction links with
  | nil => rfl
  | cons link links ih =>
      simp only [List.map_cons, charsAll, linked, ih]
      simp [tailChars]

end Expr

namespace Tree

open Flowchart.Expr

/-- The characters of an operation: its operands in a row, in parentheses. -/
theorem Chain.chars_ofTree {t first : Tree} {links : List (Sign × Tree)} (h : Chain t first links) :
    (ofTree t).chars
      = '(' :: ((ofTree first).chars ++ (tailChars Sign.spaced links ++ [')'])) := by
  cases h with
  | binary hsign => rw [ofTree_binary]; simp [chars, tailChars]
  | junction hsign =>
      rw [ofTree_junction]
      simp [chars, charsAll_eq_map, intercalate_cons, tailChars, List.flatMap_map]
  | comparison hlinks hsigns =>
      rw [ofTree_comparison, chars, linked_eq_tailChars]
      simp

/-- What stands for an operation, from what stands for its operands. -/
theorem Chain.spelled {t first : Tree} {links : List (Sign × Tree)} (h : Chain t first links)
    (hfirst : (ofTree first).Spelled) (hlinks : ∀ link ∈ links, (ofTree link.2).Spelled) :
    (ofTree t).Spelled := by
  cases h with
  | binary hsign =>
      rw [ofTree_binary]
      exact spelled_binary hfirst (hlinks _ List.mem_cons_self)
  | @junction first second rest sign signPlace place hsign =>
      rw [ofTree_junction]
      -- The first operand is kept apart from the others.
      refine spelled_junction fun e he => ?_
      obtain ⟨t, ht, rfl⟩ := List.mem_map.mp he
      rcases List.mem_cons.mp ht with rfl | ht
      · exact hfirst
      · exact hlinks (sign, t) (List.mem_map_of_mem ht)
  | @comparison left links place hne hsigns =>
      rw [ofTree_comparison]
      refine spelled_comparison (by simp) hfirst fun e he => ?_
      obtain ⟨link, hlink, rfl⟩ := List.mem_map.mp he
      exact hlinks (link.1, link.2.2) (List.mem_map_of_mem hlink)

/-- What stands for an expression is its characters, unless a number in it is beyond the limit. -/
theorem Phrase.spelled {t : Tree} (h : t.Phrase) : (ofTree t).Spelled := by
  induction h with
  | @name id ctx place hid => rw [ofTree_name]; exact spelled_name id
  | @int n kind place => rw [Constant.int, ofTree]; exact spelled_int n
  | @string text kind place => rw [ofTree]; exact spelled_string text
  | call hid hargs ih =>
      rw [ofTree_call]
      refine spelled_call fun e he => ?_
      obtain ⟨arg, harg, rfl⟩ := List.mem_map.mp he
      exact ih arg harg
  | operation hchain hfirst hlinks ihFirst ihLinks => exact hchain.spelled ihFirst ihLinks

/-! ### Unique reading -/

/-- What the first character of an expression tells about it. -/
inductive Lead where
  | word | number | quotation | parenthesis
deriving Repr, DecidableEq

/-- What begins with a character, if an expression does. -/
def Lead.ofChar? (c : Char) : Option Lead :=
  if c = '(' then some .parenthesis
  else if c = '\'' ∨ c = '"' then some .quotation
  else if c.isDigit ∨ c = '-' then some .number
  else if 65 ≤ c.toNat then some .word
  else none

/-- What an expression begins with. -/
def lead : Tree → Lead
  | .node .ident _ _ | .node .call _ _ => .word
  | .node .constant (.constant (.str _) :: _) _ => .quotation
  | .node .constant _ _ => .number
  | _ => .parenthesis

/-- What begins like a name is a word. -/
theorem lead_ofChar?_of_isNameStart {c : Char} (h : Text.isNameStart c = true) :
    Lead.ofChar? c = some .word := by
  have hc := Text.le_toNat_of_isNameStart h
  have hdigit : c.isDigit = false := by
    simp only [Char.isDigit, Bool.and_eq_false_iff, decide_eq_false_iff_not]
    right
    show ¬ c.toNat ≤ 57
    omega
  have hne : ∀ d : Char, d.toNat < 65 → c ≠ d := by
    rintro d hd rfl
    omega
  rw [Lead.ofChar?, if_neg (hne '(' (by decide)),
    if_neg (by simp [hne '\'' (by decide), hne '"' (by decide)]),
    if_neg (by simp [hdigit, hne '-' (by decide)]), if_pos hc]

/-- A name is not empty, and its first character tells that it is a word. -/
theorem exists_cons_of_isIdentifier {word : List Char} (h : Text.isIdentifier word = true) :
    ∃ c rest, word = c :: rest ∧ Lead.ofChar? c = some .word := by
  cases word with
  | nil => cases h
  | cons c rest =>
      rw [Text.isIdentifier, Bool.and_eq_true] at h
      exact ⟨c, rest, rfl, lead_ofChar?_of_isNameStart h.1⟩

/-- An operation begins with a parenthesis. -/
theorem Chain.lead_eq {t first : Tree} {links : List (Sign × Tree)} (h : Chain t first links) :
    t.lead = .parenthesis := by
  cases h <;> rfl

/-- An expression is not empty, and its first character tells what it begins with. -/
theorem Phrase.exists_cons {t : Tree} (h : t.Phrase) :
    ∃ c rest, (ofTree t).chars = c :: rest ∧ Lead.ofChar? c = some t.lead := by
  cases h with
  | name hid => rw [ofTree_name]; exact exists_cons_of_isIdentifier hid
  | @int n kind place =>
      obtain ⟨c, rest, htext, hc⟩ := exists_cons_intText n
      refine ⟨c, rest, by rw [Constant.int, ofTree, chars, htext], ?_⟩
      show Lead.ofChar? c = some .number
      -- A digit or a minus is none of the marks that are looked for first.
      have hother : c ≠ '(' ∧ c ≠ '\'' ∧ c ≠ '"' := by
        refine ⟨?_, ?_, ?_⟩ <;> rintro rfl <;> revert hc <;> decide
      simp [Lead.ofChar?, hother, hc]
  | @string text kind place =>
      obtain ⟨quote, hquote, htext⟩ := Text.toList_quoted text
      refine ⟨quote, _, by rw [ofTree, chars, htext], ?_⟩
      rcases hquote with rfl | rfl <;> rfl
  | @call id ctx idPlace args place hid hargs =>
      obtain ⟨c, rest, hword, hc⟩ := exists_cons_of_isIdentifier hid
      exact ⟨c, _, by rw [ofTree_call, chars, hword, List.cons_append], hc⟩
  | operation hchain hfirst hlinks =>
      exact ⟨'(', _, hchain.chars_ofTree, by rw [hchain.lead_eq]; rfl⟩

/-- The expressions with a given beginning. -/
def HasForm (t : Tree) : Lead → Prop
  | .word => ∃ id ctx place, Text.isIdentifier id.toList = true ∧
      (t = .node .ident [.constant (.ofString id), ctx] place ∨
        ∃ args callPlace, (∀ arg ∈ args, arg.Phrase) ∧ t = .node .call
          [.node .ident [.constant (.ofString id), ctx] place, .list args, .list []] callPlace)
  | .number => ∃ n kind place, t = .node .constant [.constant (.int n), kind] place
  | .quotation => ∃ text kind place, t = .node .constant [.constant (.str text), kind] place
  | .parenthesis => ∃ first links, Chain t first links ∧ first.Phrase ∧
      ∀ link ∈ links, link.2.Phrase

/-- An expression has the form that its beginning tells. -/
theorem Phrase.hasForm_lead {t : Tree} (h : t.Phrase) : t.HasForm t.lead := by
  cases h with
  | name hid => exact ⟨_, _, _, hid, .inl rfl⟩
  | int => exact ⟨_, _, _, rfl⟩
  | string => exact ⟨_, _, _, rfl⟩
  | call hid hargs => exact ⟨_, _, _, hid, .inr ⟨_, _, hargs, rfl⟩⟩
  | operation hchain hfirst hlinks =>
      rw [hchain.lead_eq]
      exact ⟨_, _, hchain, hfirst, hlinks⟩

/-- Where one expression is written, another one has the form of the first. -/
theorem Phrase.hasForm {t t' : Tree} (h : t.Phrase) (h' : t'.Phrase) {r s : List Char}
    (heq : (ofTree t).chars ++ r = (ofTree t').chars ++ s) : t'.HasForm t.lead := by
  obtain ⟨c, rest, hchars, hc⟩ := h.exists_cons
  obtain ⟨c', rest', hchars', hc'⟩ := h'.exists_cons
  rw [hchars, hchars'] at heq
  cases (List.cons.inj heq).1
  rw [Option.some.inj (hc.symm.trans hc')]
  exact h'.hasForm_lead

/-- What may follow an expression: the end, or what stands behind an operand. -/
def Stops (rest : List Char) : Prop :=
  ∀ c, rest.head? = some c → c = ' ' ∨ c = ')' ∨ c = ','

/-- An expression can be told from its characters wherever it may end. -/
def Readable (t : Tree) : Prop :=
  ∀ (t' : Tree) (r s : List Char), t'.Phrase → Stops r → Stops s →
    (ofTree t).chars ++ r = (ofTree t').chars ++ s → t.stripped = t'.stripped ∧ r = s

/-- An expression may end before a blank, a closing parenthesis or a comma. -/
theorem stops_cons {c : Char} (hc : c = ' ' ∨ c = ')' ∨ c = ',') (rest : List Char) :
    Stops (c :: rest) := by
  intro d hd
  cases hd
  exact hc

/-- No number goes on behind an expression. -/
theorem Stops.endsRun_digit {rest : List Char} (h : Stops rest) : EndsRun Char.isDigit rest := by
  intro c hc
  rcases h c hc with rfl | rfl | rfl <;> rfl

/-- A name can be told from what follows, which is what may follow an expression or the arguments of
a call. -/
theorem identifier_append_inj {id id' : String} (hid : Text.isIdentifier id.toList = true)
    (hid' : Text.isIdentifier id'.toList = true) {r s : List Char}
    (hr : Stops r ∨ r.head? = some '(') (hs : Stops s ∨ s.head? = some '(')
    (h : id.toList ++ r = id'.toList ++ s) : id = id' ∧ r = s := by
  have hruns : ∀ {word : List Char}, Text.isIdentifier word = true →
      ∀ c ∈ word, decide (48 ≤ c.toNat) = true :=
    fun hword c hc => decide_eq_true (Text.le_toNat_of_isIdentifier hword c hc)
  -- All that may follow comes before the digits.
  have hends : ∀ {rest : List Char}, Stops rest ∨ rest.head? = some '(' →
      EndsRun (fun c => decide (48 ≤ c.toNat)) rest := by
    rintro rest (hrest | hrest) c hc
    · rcases hrest c hc with rfl | rfl | rfl <;> rfl
    · cases hrest.symm.trans hc
      rfl
  obtain ⟨hword, hrest⟩ := append_inj_of_run (hruns hid) (hruns hid') (hends hr) (hends hs) h
  exact ⟨String.toList_inj.mp hword, hrest⟩

/-- No expression begins with a closing parenthesis. -/
theorem Phrase.ne_parenthesis {t : Tree} (h : t.Phrase) {r s : List Char} :
    (ofTree t).chars ++ r ≠ ')' :: s := by
  obtain ⟨c, rest, hchars, hc⟩ := h.exists_cons
  rw [hchars]
  intro heq
  cases (List.cons.inj heq).1
  cases hc

/-- What stands between operands can be told from what follows, and does not begin like an operand
or like a closing parenthesis. -/
structure Separates {σ : Type} (separator : σ → List Char) : Prop where
  inj : ∀ {a b : σ} {r s : List Char}, separator a ++ r = separator b ++ s → a = b ∧ r = s
  start : ∀ a, ∃ c rest, separator a = c :: rest ∧ (c = ' ' ∨ c = ',')

/-- A sign with blanks around it stands between operands. -/
theorem separates_spaced : Separates Sign.spaced where
  inj := Sign.spaced_append_inj
  start _ := ⟨' ', _, rfl, .inl rfl⟩

/-- What stands between the arguments of a call. -/
def comma (_ : Unit) : List Char :=
  [',', ' ']

/-- A comma and a blank stand between arguments. -/
theorem separates_comma : Separates comma where
  inj h := ⟨rfl, List.append_cancel_left h⟩
  start _ := ⟨',', _, rfl, .inr rfl⟩

section

variable {σ : Type} {separator : σ → List Char} (hsep : Separates separator)

/-- The first of several operands, and the others behind it. -/
theorem tailChars_cons (link : σ × Tree) (links : List (σ × Tree)) (r : List Char) :
    tailChars separator (link :: links) ++ ')' :: r
      = separator link.1 ++ ((ofTree link.2).chars ++ (tailChars separator links ++ ')' :: r)) := by
  simp [tailChars]

include hsep

/-- What stands between operands does not begin with a closing parenthesis. -/
theorem Separates.ne_parenthesis (a : σ) (r s : List Char) : separator a ++ r ≠ ')' :: s := by
  obtain ⟨c, rest, hstart, hc⟩ := hsep.start a
  rw [hstart]
  intro heq
  cases (List.cons.inj heq).1
  revert hc
  decide

/-- An operand may end before the others, and before the closing parenthesis if there are none. -/
theorem Separates.stops (links : List (σ × Tree)) (r : List Char) :
    Stops (tailChars separator links ++ ')' :: r) := by
  cases links with
  | nil => exact stops_cons (.inr (.inl rfl)) r
  | cons link links =>
      obtain ⟨c, rest, hstart, hc⟩ := hsep.start link.1
      rw [tailChars_cons, hstart]
      refine stops_cons ?_ _
      rcases hc with rfl | rfl
      · exact .inl rfl
      · exact .inr (.inr rfl)

/-- Operands behind their separators, up to the closing parenthesis. -/
theorem Separates.links_inj {links links' : List (σ × Tree)}
    (hlinks : ∀ link ∈ links, Readable link.2) (hlinks' : ∀ link ∈ links', link.2.Phrase)
    {r s : List Char}
    (h : tailChars separator links ++ ')' :: r = tailChars separator links' ++ ')' :: s) :
    links.map (Prod.map id stripped) = links'.map (Prod.map id stripped) ∧ r = s := by
  induction links generalizing links' with
  | nil =>
      cases links' with
      | nil => exact ⟨rfl, (List.cons.inj h).2⟩
      | cons link' links' =>
          rw [tailChars_cons] at h
          exact absurd h.symm (hsep.ne_parenthesis _ _ _)
  | cons link links ih =>
      cases links' with
      | nil =>
          rw [tailChars_cons] at h
          exact absurd h (hsep.ne_parenthesis _ _ _)
      | cons link' links' =>
          -- First the sign, then the operand, then the rest.
          rw [tailChars_cons, tailChars_cons] at h
          obtain ⟨hsign, hrest⟩ := hsep.inj h
          obtain ⟨hoperand, htail⟩ := hlinks link List.mem_cons_self _ _ _
            (hlinks' link' List.mem_cons_self) (hsep.stops _ _) (hsep.stops _ _) hrest
          obtain ⟨hmap, hrs⟩ := ih (fun l hl => hlinks l (List.mem_cons_of_mem _ hl))
            (fun l hl => hlinks' l (List.mem_cons_of_mem _ hl)) htail
          refine ⟨?_, hrs⟩
          rw [List.map_cons, List.map_cons, hmap, Prod.map, Prod.map, hsign, hoperand]

/-- A first operand and the others behind it, up to the closing parenthesis. -/
theorem Separates.operands_inj {first first' : Tree} {links links' : List (σ × Tree)}
    (hfirst : Readable first) (hlinks : ∀ link ∈ links, Readable link.2) (hfirst' : first'.Phrase)
    (hlinks' : ∀ link ∈ links', link.2.Phrase) {r s : List Char}
    (h : (ofTree first).chars ++ (tailChars separator links ++ ')' :: r)
      = (ofTree first').chars ++ (tailChars separator links' ++ ')' :: s)) :
    first.stripped = first'.stripped ∧
      links.map (Prod.map id stripped) = links'.map (Prod.map id stripped) ∧ r = s := by
  obtain ⟨heq, htail⟩ := hfirst _ _ _ hfirst' (hsep.stops _ _) (hsep.stops _ _) h
  exact ⟨heq, hsep.links_inj hlinks hlinks' htail⟩

end

/-- The arguments of a call, up to the closing parenthesis. -/
def argChars (args : List Tree) (rest : List Char) : List Char :=
  [',', ' '].intercalate (args.map fun arg => (ofTree arg).chars) ++ ')' :: rest

/-- The first argument of a call, and the others behind it. -/
theorem argChars_cons (arg : Tree) (args : List Tree) (rest : List Char) :
    argChars (arg :: args) rest
      = (ofTree arg).chars ++ (tailChars comma (args.map ((), ·)) ++ ')' :: rest) := by
  simp [argChars, intercalate_cons, tailChars, comma, List.flatMap_map]

/-- The arguments of two calls, up to the closing parenthesis. -/
theorem argChars_inj {args args' : List Tree} (hargs : ∀ arg ∈ args, Readable arg)
    (hargs' : ∀ arg ∈ args', arg.Phrase) (hphrases : ∀ arg ∈ args, arg.Phrase) {r s : List Char}
    (h : argChars args r = argChars args' s) :
    args.map stripped = args'.map stripped ∧ r = s := by
  cases args with
  | nil =>
      cases args' with
      | nil => exact ⟨rfl, (List.cons.inj h).2⟩
      | cons arg' args' =>
          rw [argChars_cons] at h
          exact absurd h.symm (hargs' arg' List.mem_cons_self).ne_parenthesis
  | cons arg args =>
      cases args' with
      | nil =>
          rw [argChars_cons] at h
          exact absurd h (hphrases arg List.mem_cons_self).ne_parenthesis
      | cons arg' args' =>
          rw [argChars_cons, argChars_cons] at h
          obtain ⟨hfirst, hrest, hrs⟩ := separates_comma.operands_inj (hargs arg List.mem_cons_self)
            (by simpa using fun a ha => hargs a (List.mem_cons_of_mem _ ha))
            (hargs' arg' List.mem_cons_self)
            (by simpa using fun a ha => hargs' a (List.mem_cons_of_mem _ ha)) h
          have hmap := congrArg (List.map Prod.snd) hrest
          simp only [List.map_map, Function.comp_def, Prod.map] at hmap
          exact ⟨by rw [List.map_cons, List.map_cons, hfirst, hmap], hrs⟩

/-- The characters of a call: its name, and its arguments in parentheses. -/
theorem chars_ofTree_call (id : String) (ctx : Tree) (idPlace place : Place Tree)
    (args : List Tree) (rest : List Char) :
    (ofTree (.node .call [.node .ident [.constant (.ofString id), ctx] idPlace, .list args,
        .list []] place)).chars ++ rest
      = id.toList ++ '(' :: argChars args rest := by
  rw [ofTree_call]
  simp [chars, charsAll_eq_map, argChars, Function.comp_def]

/-- Every expression can be told from its characters. -/
theorem Phrase.readable {t : Tree} (h : t.Phrase) : Readable t := by
  induction h with
  | name hid =>
      intro t' r s h' hr hs heq
      obtain ⟨id', ctx', place', hid', rfl | ⟨args', callPlace', hargs', rfl⟩⟩ :=
        (Phrase.name hid).hasForm h' heq
      · rw [ofTree_name, ofTree_name] at heq
        obtain ⟨rfl, hrs⟩ := identifier_append_inj hid hid' (.inl hr) (.inl hs) heq
        exact ⟨rfl, hrs⟩
      · -- Arguments do not stand where an expression may end.
        rw [ofTree_name, chars_ofTree_call] at heq
        obtain ⟨-, rfl⟩ := identifier_append_inj hid hid' (.inl hr) (.inr rfl) heq
        exact absurd (hr '(' rfl) (by decide)
  | int =>
      intro t' r s h' hr hs heq
      -- The beginning tells that the other expression is a number, too.
      obtain ⟨n', kind', place', rfl⟩ := Phrase.int.hasForm h' heq
      obtain ⟨rfl, hrs⟩ := intText_append_inj hr.endsRun_digit hs.endsRun_digit heq
      exact ⟨rfl, hrs⟩
  | string =>
      intro t' r s h' hr hs heq
      obtain ⟨text', kind', place', rfl⟩ := Phrase.string.hasForm h' heq
      obtain ⟨rfl, hrs⟩ := Text.quoted_append_inj heq
      exact ⟨rfl, hrs⟩
  | call hid hargs ih =>
      intro t' r s h' hr hs heq
      obtain ⟨id', ctx', place', hid', rfl | ⟨args', callPlace', hargs', rfl⟩⟩ :=
        (Phrase.call hid hargs).hasForm h' heq
      · rw [ofTree_name, chars_ofTree_call] at heq
        obtain ⟨-, rfl⟩ := identifier_append_inj hid hid' (.inr rfl) (.inl hs) heq
        exact absurd (hs '(' rfl) (by decide)
      · rw [chars_ofTree_call, chars_ofTree_call] at heq
        obtain ⟨rfl, htail⟩ := identifier_append_inj hid hid' (.inr rfl) (.inr rfl) heq
        -- The names agree, and behind them both have arguments.
        obtain ⟨hmap, hrs⟩ := argChars_inj ih hargs' hargs (List.cons.inj htail).2
        refine ⟨?_, hrs⟩
        rw [stripped_node (by decide) (by decide), stripped_node (by decide) (by decide)]
        simp [strippedAll_eq_map, hmap, stripped]
  | operation hchain hfirst hlinks ihFirst ihLinks =>
      intro t' r s h' hr hs heq
      -- The other expression is an operation, whose operands are read one by one.
      have hform := (Phrase.operation hchain hfirst hlinks).hasForm h' heq
      rw [hchain.lead_eq] at hform
      obtain ⟨first', links', hchain', hfirst', hlinks'⟩ := hform
      rw [hchain.chars_ofTree, hchain'.chars_ofTree] at heq
      simp only [List.cons_append, List.append_assoc, List.nil_append] at heq
      obtain ⟨heqFirst, heqLinks, hrs⟩ := separates_spaced.operands_inj ihFirst ihLinks hfirst'
        hlinks' (List.cons.inj heq).2
      rw [hchain.stripped_eq, hchain'.stripped_eq, heqFirst, heqLinks]
      exact ⟨rfl, hrs⟩

/-- An expression is known from its text.  There is a text for it exactly if every whole number in
it is within the limit of digits, and otherwise the reason is that there are too many of them.  Two
expressions with one text differ at most in the places of their nodes, the uses of their names and
the kinds of their constants. -/
theorem text_determines_expression {t : Tree} (h : t.Phrase) :
    ((ofTree t).isWithinLimit = true → ∃ text, (ofTree t).piece = .ok (.text text)) ∧
      ((ofTree t).isWithinLimit = false → (ofTree t).piece = .error .tooManyDigits) ∧
        ∀ t' text, t'.Phrase → (ofTree t).piece = .ok (.text text) →
          (ofTree t').piece = .ok (.text text) → t.stripped = t'.stripped := by
  refine ⟨fun hwithin => ⟨_, h.spelled.trans (if_pos hwithin)⟩, fun hbeyond => ?_, ?_⟩
  · exact h.spelled.trans (if_neg (by rw [hbeyond]; decide))
  · intro t' text h' htext htext'
    -- Both have the characters of the one text, and nothing follows.
    have hchars : (ofTree t).chars = (ofTree t').chars :=
      (h.spelled.chars_eq htext).trans (h'.spelled.chars_eq htext').symm
    have hend : Stops [] := by
      intro c hc
      cases hc
    exact (h.readable t' [] [] h' hend hend (by rw [hchars])).1

/-- A call whose argument looks like the rest of the call. -/
theorem text_determines_expression_quoted_call :
    let word (id : String) (ctx : Tree) : Tree :=
      .node .ident [.constant (.ofString id), ctx] (.nowhere .ident)
    let sum (ctx : Tree) : Tree := .node .binOp
      [word "a" ctx, .node .add [] (.nowhere .add),
        .node .call [word "f" ctx,
          .list [.node .constant [.constant (.ofString "b', c) + "), ctx] (.nowhere .constant),
            .node .constant [.constant (.int (-1)), ctx] (.nowhere .constant)], .list []]
          (.nowhere .call)] (.nowhere .binOp)
    (ofTree (sum (.list []))).piece = .ok (.text "(a + f(\"b', c) + \", -1))") ∧
      ∃ text, (ofTree (sum (.list []))).piece = .ok (.text text) ∧
        (ofTree (sum (.constant .none))).piece = .ok (.text text) ∧
          (sum (.list [])).stripped = (sum (.constant .none)).stripped := by
  intro word sum
  have hsum : ∀ ctx, (sum ctx).Phrase := by
    intro ctx
    have hcall : ∀ link ∈ [(Sign.add, Tree.node .call [word "f" ctx, .list
        [.node .constant [.constant (.ofString "b', c) + "), ctx] (.nowhere .constant),
          .node .constant [.constant (.int (-1)), ctx] (.nowhere .constant)], .list []]
        (.nowhere .call))], link.2.Phrase := by
      intro link hlink
      rw [List.mem_singleton.mp hlink]
      refine .call (by decide +kernel) fun arg harg => ?_
      rcases List.mem_cons.mp harg with rfl | harg
      · exact .string
      · rw [List.mem_singleton.mp harg]
        exact .int
    exact .operation (@Chain.binary _ _ .add _ _ rfl) (.name (by decide +kernel)) hcall
  have htext : ∀ ctx, (ofTree (sum ctx)).piece = .ok (.text "(a + f(\"b', c) + \", -1))") := by
    intro ctx
    have hnumbers : (ofTree (sum ctx)).wholeNumbers = [-1] := rfl
    have hwithin : (ofTree (sum ctx)).isWithinLimit = true := by
      rw [isWithinLimit, hnumbers]
      decide +kernel
    exact (hsum ctx).spelled.trans (if_pos hwithin)
  exact ⟨htext _, _, htext _, htext _, (text_determines_expression (hsum _)).2.2 _ _ (hsum _)
    (htext _) (htext _)⟩

/-- A whole number of more digits than the limit is an expression without a text. -/
theorem no_text_beyond_digit_limit :
    let t : Tree :=
      .node .constant [.constant (.int (Int.ofNat (Nat.pow 16 3600))), .constant .none]
        (.nowhere .constant)
    t.Phrase ∧ (ofTree t).piece = .error .tooManyDigits := by
  intro t
  have ht : t.Phrase := .int
  have hnumbers : (ofTree t).wholeNumbers = [Int.ofNat (Nat.pow 16 3600)] := rfl
  have hbeyond : ¬ (ofTree t).isWithinLimit = true := by
    rw [isWithinLimit, hnumbers]
    decide +kernel
  exact ⟨ht, ht.spelled.trans (if_neg hbeyond)⟩

end Tree

end Flowchart
