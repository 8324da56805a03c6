import Flowchart.Program.Reading

/-!
# `Flowchart.Proofs.Program.Spelling`: the characters of an expression

What stands for an expression made of names, whole numbers, texts, calls by position and operations
is a text of its own characters (`Expr.chars`), as long as no number in it has more digits than the
limit; otherwise it is refused for that reason, whatever else is in it (`Expr.Spelled`).  There is a
lemma for each form of expression, from what stands for its parts.
-/

set_option autoImplicit false

namespace Flowchart

namespace Sign

/-- A sign between two operands. -/
def spaced (sign : Sign) : List Char :=
  ' ' :: (sign.text.toList ++ [' '])

/-- A sign between two operands is known from its characters: no sign begins another one and a
blank. -/
theorem spaced_append_inj {sign sign' : Sign} {r s : List Char}
    (h : sign.spaced ++ r = sign'.spaced ++ s) : sign = sign' ∧ r = s := by
  cases sign <;> cases sign' <;> simp_all [spaced, text]

end Sign

namespace Expr

/-- Operands with their signs in front of them. -/
def linked : List (Except Refusal Sign) → List (List Char) → List Char
  | .ok sign :: signs, text :: texts => sign.spaced ++ text ++ linked signs texts
  | _, _ => []

mutual

/-- The characters of an expression, whatever the size of the numbers in it. -/
@[simp] def chars : Expr → List Char
  | .name (.text id) => id.toList
  | .number (.int n) => (intText n).toList
  | .string text => (Text.quoted text).toList
  | .call (.ok (.text id)) args _ =>
    id.toList ++ '(' :: ([',', ' '].intercalate (charsAll args) ++ [')'])
  | .binary left (.ok sign) right => '(' :: (chars left ++ (sign.spaced ++ chars right) ++ [')'])
  | .junction (.ok sign) operands => '(' :: (sign.spaced.intercalate (charsAll operands) ++ [')'])
  | .comparison left signs others => '(' :: (chars left ++ linked signs (charsAll others) ++ [')'])
  | _ => []

/-- The characters of several expressions. -/
@[simp] def charsAll : List Expr → List (List Char)
  | [] => []
  | e :: rest => chars e :: charsAll rest

end

mutual

/-- The whole numbers in an expression. -/
@[simp] def wholeNumbers : Expr → List Int
  | .number (.int n) => [n]
  | .call _ args _ => wholeNumbersAll args
  | .binary left _ right => wholeNumbers left ++ wholeNumbers right
  | .junction _ operands => wholeNumbersAll operands
  | .comparison left _ others => wholeNumbers left ++ wholeNumbersAll others
  | _ => []

/-- The whole numbers in several expressions. -/
@[simp] def wholeNumbersAll : List Expr → List Int
  | [] => []
  | e :: rest => wholeNumbers e ++ wholeNumbersAll rest

end

/-- The characters of several expressions are those of each of them. -/
theorem charsAll_eq_map (es : List Expr) : charsAll es = es.map chars := by
  induction es with
  | nil => rfl
  | cons e es ih => rw [charsAll, ih, List.map_cons]

/-- The whole numbers of several expressions are those of each of them. -/
theorem wholeNumbersAll_eq_flatMap (es : List Expr) :
    wholeNumbersAll es = es.flatMap wholeNumbers := by
  induction es with
  | nil => rfl
  | cons e es ih => rw [wholeNumbersAll, ih, List.flatMap_cons]

/-- Whether all whole numbers in an expression have at most as many digits as the limit. -/
def isWithinLimit (e : Expr) : Bool :=
  e.wholeNumbers.all fun n => n.natAbs < Nat.pow 10 digitLimit

/-- What stands for an expression is its characters, unless a number in it is beyond the limit. -/
def Spelled (e : Expr) : Prop :=
  e.piece = if e.isWithinLimit then .ok (.text (String.ofList e.chars)) else .error .tooManyDigits

/-- A text that stands for an expression has the characters of the expression. -/
theorem Spelled.chars_eq {e : Expr} (h : e.Spelled) {text : String}
    (htext : e.piece = .ok (.text text)) : e.chars = text.toList := by
  rw [h] at htext
  cases hwithin : e.isWithinLimit with
  | false => simp [hwithin] at htext
  | true =>
      simp only [hwithin, if_true, Except.ok.injEq, Piece.text.injEq] at htext
      rw [← htext, String.toList_ofList]

/-- What stands for several expressions is the characters of each, unless a number is beyond the
limit. -/
theorem pieces_eq {es : List Expr} (h : ∀ e ∈ es, e.Spelled) :
    pieces es = if es.all isWithinLimit then .ok (es.map fun e => .text (String.ofList e.chars))
      else .error .tooManyDigits := by
  induction es with
  | nil => rfl
  | cons e es ih =>
      have hfirst := h e List.mem_cons_self
      have hrest := ih fun e' he' => h e' (List.mem_cons_of_mem _ he')
      -- The parentheses around each operand come with what stands for it.
      have hpieces : pieces (e :: es) = do
          let first ← e.piece
          let rest ← pieces es
          return first :: rest := by
        simp only [pieces, piece, bind_assoc]
      rw [hpieces, hfirst, hrest]
      cases hwithin : e.isWithinLimit with
      | false => simp [hwithin, bind, Except.bind]
      | true =>
          cases hall : es.all isWithinLimit with
          | false => simp [hwithin, hall, bind, Except.bind]
          | true => simp [hwithin, hall, bind, Except.bind, pure, Except.pure]

/-- An operation looks at its left operand, and then at its right one. -/
theorem bare_binary (left right : Expr) (sign : Sign) :
    bare (.binary left (.ok sign) right) = do
      let leftPiece ← left.piece
      let rightPiece ← right.piece
      return .text ((← leftPiece.shown) ++ " " ++ sign.text ++ " " ++ (← rightPiece.shown)) := by
  simp only [bare, piece, bind_assoc]
  rfl

/-- A comparison begins with its left operand. -/
theorem bare_comparison (left : Expr) (signs : List (Except Refusal Sign)) (others : List Expr) :
    bare (.comparison left signs others)
      = left.piece >>= fun leftPiece => compared leftPiece signs others := by
  simp only [bare, piece, bind_assoc]

/-- A comparison that has begun goes on with the next sign and the operand it leads to. -/
theorem compared_cons (start : String) (sign : Except Refusal Sign)
    (signs : List (Except Refusal Sign)) (e : Expr) (others : List Expr) :
    compared (.text start) (sign :: signs) (e :: others)
      = sign >>= fun value => e.piece >>= fun operand => operand.appended >>= fun text =>
          compared (.text (start ++ (" " ++ value.text ++ " " ++ text))) signs others := by
  rw [compared, piece]
  simp only [bind_assoc]
  rfl

/-- An operation is spelled if its operands are. -/
theorem spelled_binary {left right : Expr} {sign : Sign} (hleft : left.Spelled)
    (hright : right.Spelled) : Spelled (.binary left (.ok sign) right) := by
  have hlimit : isWithinLimit (.binary left (.ok sign) right)
      = (left.isWithinLimit && right.isWithinLimit) := by
    simp [isWithinLimit, wholeNumbers]
  rw [Spelled, piece, bare_binary, hleft, hright, hlimit]
  cases left.isWithinLimit with
  | false => simp [bind, Except.bind]
  | true =>
      cases right.isWithinLimit with
      | false => simp [bind, Except.bind]
      | true =>
          -- What remains is that the text has the characters of the operation.
          have htext : "(" ++ (String.ofList left.chars ++ " " ++ sign.text ++ " "
              ++ String.ofList right.chars) ++ ")"
                = String.ofList (chars (.binary left (.ok sign) right)) := by
            rw [← String.toList_inj]
            simp [chars, Sign.spaced]
          rw [← htext]
          rfl

/-- A row of operands with a sign between them is spelled if the operands are. -/
theorem spelled_junction {operands : List Expr} {sign : Sign} (h : ∀ e ∈ operands, e.Spelled) :
    Spelled (.junction (.ok sign) operands) := by
  have hlimit : isWithinLimit (.junction (.ok sign) operands) = operands.all isWithinLimit := by
    simp only [isWithinLimit, wholeNumbers, wholeNumbersAll_eq_flatMap, List.all_flatMap]
    rfl
  have hbare : bare (.junction (.ok sign) operands) = do
      let operands ← pieces operands
      return .text (← Piece.join (" " ++ sign.text ++ " ") operands) := by
    rw [bare]
    rfl
  rw [Spelled, piece, hbare, pieces_eq h, hlimit]
  cases operands.all isWithinLimit with
  | false => simp [bind, Except.bind]
  | true =>
      have htext : "(" ++ (" " ++ sign.text ++ " ").intercalate
          (operands.map fun e => String.ofList e.chars) ++ ")"
            = String.ofList (chars (.junction (.ok sign) operands)) := by
        rw [← String.toList_inj]
        simp [chars, Sign.spaced, charsAll_eq_map, Function.comp_def, String.toList_intercalate]
      -- All operands stand for texts, so that they are joined as texts.
      have hjoin := Piece.join_texts (" " ++ sign.text ++ " ")
        (operands.map fun e => String.ofList e.chars)
      rw [List.map_map] at hjoin
      simp only [bind, Except.bind, if_true, Function.comp_def] at hjoin ⊢
      rw [hjoin, ← htext]
      rfl

/-- A comparison goes on operand by operand. -/
theorem compared_eq {signs : List Sign} {others : List Expr}
    (hlength : signs.length = others.length) (h : ∀ e ∈ others, e.Spelled) (start : String) :
    compared (.text start) (signs.map .ok) others
      = if others.all isWithinLimit then
          .ok (.text (start ++ String.ofList (linked (signs.map .ok) (charsAll others))))
        else .error .tooManyDigits := by
  induction signs generalizing others start with
  | nil =>
      rw [List.eq_nil_of_length_eq_zero hlength.symm]
      simp [compared, linked, pure, Except.pure]
  | cons sign signs ih =>
      cases others with
      | nil => simp at hlength
      | cons e others =>
          have hstep : compared (.text start) ((sign :: signs).map .ok) (e :: others) = _ :=
            compared_cons start (.ok sign) (signs.map .ok) e others
          rw [hstep, h e List.mem_cons_self]
          cases hwithin : e.isWithinLimit with
          | false => simp [hwithin, bind, Except.bind]
          | true =>
              -- The comparison goes on from the text that has been reached.
              have hrest := ih (Nat.succ.inj hlength)
                (fun e' he' => h e' (List.mem_cons_of_mem _ he'))
                (start ++ (" " ++ sign.text ++ " " ++ String.ofList e.chars))
              simp only [bind, Except.bind, if_true, Piece.appended, List.all_cons, hwithin,
                Bool.true_and, hrest]
              cases others.all isWithinLimit with
              | false => rfl
              | true =>
                  have htext : start ++ (" " ++ sign.text ++ " " ++ String.ofList e.chars)
                      ++ String.ofList (linked (signs.map .ok) (charsAll others))
                        = start ++ String.ofList
                          (linked ((sign :: signs).map .ok) (charsAll (e :: others))) := by
                    rw [← String.toList_inj]
                    simp [linked, charsAll, Sign.spaced]
                  rw [if_pos rfl, if_pos rfl, htext]

/-- A comparison with an operand for each sign is spelled if the operands are. -/
theorem spelled_comparison {left : Expr} {signs : List Sign} {others : List Expr}
    (hlength : signs.length = others.length) (hleft : left.Spelled) (h : ∀ e ∈ others, e.Spelled) :
    Spelled (.comparison left (signs.map .ok) others) := by
  have hlimit : isWithinLimit (.comparison left (signs.map .ok) others)
      = (left.isWithinLimit && others.all isWithinLimit) := by
    simp only [isWithinLimit, wholeNumbers, wholeNumbersAll_eq_flatMap, List.all_append,
      List.all_flatMap]
    rfl
  rw [Spelled, piece, bare_comparison, hleft, hlimit]
  cases left.isWithinLimit with
  | false => simp [bind, Except.bind]
  | true =>
      simp only [bind, Except.bind, if_true, Bool.true_and, compared_eq hlength h]
      cases others.all isWithinLimit with
      | false => rfl
      | true =>
          have htext : "(" ++ (String.ofList left.chars
              ++ String.ofList (linked (signs.map .ok) (charsAll others))) ++ ")"
                = String.ofList (chars (.comparison left (signs.map .ok) others)) := by
            rw [← String.toList_inj]
            simp [chars]
          rw [if_pos rfl, if_pos rfl, ← htext]
          rfl

/-- Texts are shown as they are. -/
theorem shownAll_texts (texts : List String) : Piece.shownAll (texts.map .text) = .ok texts := by
  rw [Piece.shownAll, List.mapM_map]
  exact (List.mapM_pure (f := id)).trans (congrArg _ (List.map_id texts))

/-- A call by position of a function with a name is spelled if the arguments are. -/
theorem spelled_call {id : String} {args : List Expr} (h : ∀ e ∈ args, e.Spelled) :
    Spelled (.call (.ok (.text id)) args []) := by
  have hlimit : isWithinLimit (.call (.ok (.text id)) args []) = args.all isWithinLimit := by
    simp only [isWithinLimit, wholeNumbers, wholeNumbersAll_eq_flatMap, List.all_flatMap]
    rfl
  have hbare : bare (.call (.ok (.text id)) args []) = do
      let args ← Piece.shownAll (← pieces args)
      return .text (id ++ "(" ++ ", ".intercalate args ++ ")") := by
    rw [bare]
    rfl
  rw [Spelled, piece, hbare, pieces_eq h, hlimit]
  cases args.all isWithinLimit with
  | false => simp [bind, Except.bind]
  | true =>
      have htext : id ++ "(" ++ ", ".intercalate (args.map fun e => String.ofList e.chars) ++ ")"
          = String.ofList (chars (.call (.ok (.text id)) args [])) := by
        rw [← String.toList_inj]
        simp [chars, charsAll_eq_map, Function.comp_def, String.toList_intercalate]
      have hshown := shownAll_texts (args.map fun e => String.ofList e.chars)
      rw [List.map_map] at hshown
      simp only [bind, Except.bind, if_true, Function.comp_def] at hshown ⊢
      rw [hshown, ← htext]
      rfl

/-- A whole number is spelled, be it beyond the limit or not. -/
theorem spelled_int (n : Int) : Spelled (.number (.int n)) := by
  have hpiece : piece (.number (.int n))
      = (intText? n).elim (.error .tooManyDigits) fun text => .ok (.text text) := by
    rw [piece, bare, Number.text?]
    cases intText? n <;> rfl
  have hlimit : isWithinLimit (.number (.int n)) = decide (n.natAbs < Nat.pow 10 digitLimit) := by
    simp [isWithinLimit, wholeNumbers]
  rw [Spelled, hpiece, hlimit, intText?, chars, String.ofList_toList]
  by_cases hn : n.natAbs < Nat.pow 10 digitLimit
  · rw [if_pos hn, if_pos (decide_eq_true hn), Option.elim_some]
  · rw [if_neg hn, decide_eq_false hn]
    rfl

/-- A text is spelled in quotes. -/
theorem spelled_string (text : List Text.CodePoint) : Spelled (.string text) := by
  rw [Spelled, chars, String.ofList_toList]
  rfl

/-- A name is spelled as it is. -/
theorem spelled_name (id : String) : Spelled (.name (.text id)) := by
  rw [Spelled, chars, String.ofList_toList]
  rfl

end Expr

end Flowchart
