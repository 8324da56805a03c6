import Flowchart.Source.Literal

/-!
# `Flowchart.Proofs.Text.Quoted`: what is quoted is read back

A text constant is written between quotes (`Text.quoted`), and a literal of a program is read by
looking for its closing quote (`Source.shortBody`) and then for the escapes in between
(`Source.textValue`).  This module shows that the two fit together.  The characters written for one
code point are of three forms (`Escape`): the code point itself, a backslash and a letter, or a
backslash, a mark and hexadecimal digits.  From these forms alone:

* `shortBody_escaped`: the closing quote is found where the text ends, whatever stands behind it.
* `textValue_escaped`: the code points of the text are read back.
* `quoted_append_inj`: so a text is known from its quoted form, and so is where the form ends.
* `quotedBytes_append_inj`: and so are bytes, which are written in the same forms.
* `lineEnd_not_mem_quoted`: no text is written over more than one line.
-/

set_option autoImplicit false

namespace Flowchart.Text

open Source

/-! ### Ranges of code points -/

/-- A number that the table contains is in one of its ranges. -/
theorem Ranges.exists_of_contains {ranges : Ranges} {n : Nat} (h : ranges.contains n = true) :
    ∃ range ∈ ranges, range.1 ≤ n ∧ n ≤ range.2 := by
  induction ranges with
  | nil => simp [contains] at h
  | cons range rest ih =>
      obtain ⟨lo, hi⟩ := range
      rw [contains] at h
      -- The ranges are in order, so the search is over at the first one that begins too late.
      split at h
      · cases h
      · next hlo =>
          rcases (Bool.or_eq_true _ _).mp h with hhi | hrest
          · exact ⟨(lo, hi), List.mem_cons_self, Nat.le_of_not_lt hlo, of_decide_eq_true hhi⟩
          · obtain ⟨found, hmem, hfound⟩ := ih hrest
            exact ⟨found, List.mem_cons_of_mem _ hmem, hfound⟩

/-- A printable code point is a character: no surrogate is printable. -/
theorem toNat_toChar_of_isPrintable {p : CodePoint} (h : isPrintable p.val = true) :
    p.toChar.toNat = p.val := by
  have hranges : ∀ range ∈ printableRanges, range.2 < 0xd800 ∨ 0xdfff < range.1 := by
    decide +kernel
  obtain ⟨range, hmem, hlo, hhi⟩ := Ranges.exists_of_contains h
  have hvalid : p.val.isValidChar := by
    rcases hranges range hmem with hlow | hhigh
    · exact Or.inl (by omega)
    · exact Or.inr ⟨by omega, p.isLt⟩
  rw [CodePoint.toChar, if_pos hvalid, Char.ofNat, dif_pos hvalid]
  rfl

/-! ### Hexadecimal digits -/

/-- What the readers ask of a hexadecimal digit, which is never a mark of their own. -/
theorem hexDigit_spec (n : Nat) :
    isHexDigit (hexDigit n) = true ∧ digitOf (hexDigit n) = n % 16 ∧
      hexDigit n ∉ ['_', '\\', '\n', '\'', '"'] := by
  have hall : ∀ m < 16, isHexDigit (hexDigit m) = true ∧ digitOf (hexDigit m) = m ∧
      hexDigit m ∉ ['_', '\\', '\n', '\'', '"'] := by decide
  have hmod : hexDigit (n % 16) = hexDigit n := by simp [hexDigit]
  have hspec := hall (n % 16) (Nat.mod_lt n (by decide))
  rw [hmod] at hspec
  exact hspec

/-- There are as many digits as are asked for. -/
theorem length_hexDigits (width n : Nat) : (hexDigits width n).length = width := by
  induction width generalizing n with
  | zero => rfl
  | succ width ih => simp [hexDigits, ih]

/-- All of them are hexadecimal digits. -/
theorem exists_of_mem_hexDigits {width n : Nat} {c : Char} (h : c ∈ hexDigits width n) :
    ∃ m, c = hexDigit m := by
  induction width generalizing n with
  | zero => simp [hexDigits] at h
  | succ width ih =>
      rcases List.mem_append.mp h with hmem | hmem
      · exact ih hmem
      · exact ⟨n, List.mem_singleton.mp hmem⟩

/-- One more digit at the end makes the value sixteen times as large, and more by that digit. -/
theorem valueOf_append_singleton {c : Char} (hc : c ≠ '_') (digits : List Char) :
    valueOf 16 (digits ++ [c]) = 16 * valueOf 16 digits + digitOf c := by
  simp [valueOf, hc]

/-- The digits of a number are read back if there are enough of them. -/
theorem valueOf_hexDigits {width n : Nat} (h : n < Nat.pow 16 width) :
    valueOf 16 (hexDigits width n) = n := by
  induction width generalizing n with
  | zero =>
      have hzero : n = 0 := Nat.lt_one_iff.mp h
      rw [hzero]
      rfl
  | succ width ih =>
      have hpow : Nat.pow 16 (width + 1) = Nat.pow 16 width * 16 := rfl
      obtain ⟨-, hdigit, hmarks⟩ := hexDigit_spec n
      have hne : hexDigit n ≠ '_' := fun heq => hmarks (by simp [heq])
      rw [hexDigits, valueOf_append_singleton hne, ih (by omega), hdigit]
      omega

/-- The reader takes the digits of a number for it and goes on behind them. -/
theorem hexValue?_hexDigits {width n : Nat} (h : n < Nat.pow 16 width) (rest : List Char) :
    hexValue? width (hexDigits width n ++ rest) = some (n, rest) := by
  have hlength := length_hexDigits width n
  have htake : (hexDigits width n ++ rest).take width = hexDigits width n :=
    List.take_left' hlength
  have hdrop : (hexDigits width n ++ rest).drop width = rest := List.drop_left' hlength
  have hall : (hexDigits width n).all isHexDigit = true := by
    rw [List.all_eq_true]
    intro c hc
    obtain ⟨m, rfl⟩ := exists_of_mem_hexDigits hc
    exact (hexDigit_spec m).1
  simp [hexValue?, htake, hdrop, hlength, hall, valueOf_hexDigits h]

/-! ### The forms of an escape -/

/-- The marks before hexadecimal digits, with the number of digits. -/
def numberedEscapes : List (Char × Nat) :=
  [('x', 2), ('u', 4), ('U', 8)]

/-- What is written for the code point `n` between two quotes. -/
inductive Escape (quote : Char) (n : Nat) : List Char → Prop
  | plain (c : Char) (hn : c.toNat = n) (hplain : c ∉ ['\\', quote, '\n']) : Escape quote n [c]
  | letter (c : Char) (hc : simpleEscapes.lookup c = some n) : Escape quote n ['\\', c]
  | numbered (mark : Char) (width : Nat) (hmark : (mark, width) ∈ numberedEscapes)
      (hn : n < Nat.pow 16 width) : Escape quote n ('\\' :: mark :: hexDigits width n)

/-- Characters with different code points differ. -/
theorem ne_of_toNat_ne {c d : Char} (h : c.toNat ≠ d.toNat) : c ≠ d :=
  fun heq => h (by rw [heq])

/-- The escapes that are shared by texts and bytes. -/
theorem escape_of_escapeUnit? {quote : Char} (hquote : quote = '\'' ∨ quote = '"') {n : Nat}
    {written : List Char} (h : escapeUnit? quote n = some written) : Escape quote n written := by
  unfold escapeUnit? at h
  -- One case for each escape, in the order of the definition.
  split at h
  · next hn =>
      cases h
      refine .letter quote ?_
      rcases hquote with rfl | rfl <;> rw [hn] <;> rfl
  split at h
  · next hn => cases h; exact .letter '\\' (by rw [hn]; rfl)
  split at h
  · next hn => cases h; exact .letter 't' (by rw [hn]; rfl)
  split at h
  · next hn => cases h; exact .letter 'n' (by rw [hn]; rfl)
  split at h
  · next hn => cases h; exact .letter 'r' (by rw [hn]; rfl)
  split at h
  · next hn =>
      cases h
      refine .numbered 'x' 2 (by decide) ?_
      simp only [Bool.or_eq_true, decide_eq_true_eq] at hn
      show n < 256
      omega
  · cases h

/-- Without an escape of its own a code point is neither a quote nor a backslash nor a line end. -/
theorem ne_of_escapeUnit?_eq_none {quote : Char} {n : Nat} (h : escapeUnit? quote n = none) :
    n ≠ quote.toNat ∧ n ≠ 92 ∧ n ≠ 10 := by
  have hquote : n ≠ quote.toNat := by
    intro hn
    simp [escapeUnit?, hn] at h
  simp only [escapeUnit?, if_neg hquote] at h
  refine ⟨hquote, ?_, ?_⟩
  · rintro rfl
    simp at h
  · rintro rfl
    simp at h

/-- Whatever is written for a code point has one of the forms. -/
theorem escape_escapeCodePoint {quote : Char} (hquote : quote = '\'' ∨ quote = '"')
    (p : CodePoint) : Escape quote p.val (escapeCodePoint quote p) := by
  unfold escapeCodePoint
  split
  · next written hwritten => exact escape_of_escapeUnit? hquote hwritten
  · next hnone =>
      obtain ⟨hneQuote, hneSlash, hneLine⟩ := ne_of_escapeUnit?_eq_none hnone
      -- A printable code point stands for itself; of the others the shortest escape is taken.
      split
      · next hprint =>
          have hval := toNat_toChar_of_isPrintable hprint
          refine .plain p.toChar hval ?_
          simp only [List.mem_cons, List.not_mem_nil, or_false, not_or]
          exact ⟨ne_of_toNat_ne (by rw [hval]; exact hneSlash),
            ne_of_toNat_ne (by rw [hval]; exact hneQuote),
            ne_of_toNat_ne (by rw [hval]; exact hneLine)⟩
      · have hlt := p.isLt
        split
        · next hx => exact .numbered 'x' 2 (by decide) hx
        split
        · next hu => exact .numbered 'u' 4 (by decide) hu
        · refine .numbered 'U' 8 (by decide) ?_
          show p.val < 4294967296
          omega

/-! ### Reading the forms -/

variable {quote : Char}

/-- Characters that are no marks are passed over in search of the closing quote. -/
theorem shortBody_plain {word : List Char} (h : ∀ c ∈ word, c ∉ ['\\', quote, '\n'])
    (rest : List Char) :
    shortBody quote (word ++ rest)
      = (shortBody quote rest).map fun (body, rest) => (word ++ body, rest) := by
  induction word with
  | nil => simp
  | cons c word ih =>
      have hc := h c List.mem_cons_self
      simp only [List.mem_cons, List.not_mem_nil, or_false, not_or] at hc
      rw [List.cons_append, shortBody.eq_def]
      simp [hc, ih fun d hd => h d (List.mem_cons_of_mem _ hd)]
      rfl

/-- Every escape is passed over in search of the closing quote. -/
theorem Escape.shortBody {n : Nat} {word : List Char} (h : Escape quote n word)
    (hquote : quote = '\'' ∨ quote = '"') (rest : List Char) :
    shortBody quote (word ++ rest)
      = (Source.shortBody quote rest).map fun (body, rest) => (word ++ body, rest) := by
  cases h with
  | plain c hn hplain => exact shortBody_plain (by simpa using hplain) rest
  -- A backslash hides whatever stands behind it, even a quote.
  | letter c hc => simp [Source.shortBody]
  | numbered mark width hmark hn =>
      have hdigits : ∀ c ∈ hexDigits width n, c ∉ ['\\', quote, '\n'] := by
        intro c hc
        obtain ⟨m, rfl⟩ := exists_of_mem_hexDigits hc
        have hspec := (hexDigit_spec m).2.2
        rcases hquote with rfl | rfl <;> simp_all
      rw [List.cons_append, List.cons_append, Source.shortBody, shortBody_plain hdigits]
      cases Source.shortBody quote rest <;> rfl

/-- The escapes that a literal reads by a letter or a mark. -/
theorem readEscape_letter {c : Char} {n : Nat} (hc : simpleEscapes.lookup c = some n)
    (rest : List Char) : readEscape true (c :: rest) = some ([n], rest) := by
  have hne : c ≠ '\n' := by
    rintro rfl
    cases hc
  simp [readEscape, hne, hc]

/-- A mark and as many digits as it asks for are read as the number they stand for. -/
theorem readEscape_numbered {mark : Char} {width n : Nat} (hmark : (mark, width) ∈ numberedEscapes)
    (hn : n < Nat.pow 16 width) (rest : List Char) :
    readEscape true (mark :: (hexDigits width n ++ rest)) = some ([n], rest) := by
  have hvalue := hexValue?_hexDigits hn rest
  simp only [numberedEscapes, List.mem_cons, Prod.mk.injEq, List.not_mem_nil, or_false] at hmark
  rcases hmark with ⟨rfl, rfl⟩ | ⟨rfl, rfl⟩ | ⟨rfl, rfl⟩
  -- None of the three marks is a letter that stands for a character.
  · have hmark : simpleEscapes.lookup 'x' = none := rfl
    simp [readEscape, hmark, isOctalDigit, hvalue]
  · have hmark : simpleEscapes.lookup 'u' = none := rfl
    simp [readEscape, hmark, isOctalDigit, hvalue]
  · have hmark : simpleEscapes.lookup 'U' = none := rfl
    simp [readEscape, hmark, isOctalDigit, hvalue]

/-- After a backslash one unit is read by the rules for escapes, and then the rest. -/
theorem readUnits_backslash {rest rest' : List Char} {n : Nat}
    (h : readEscape true rest = some ([n], rest')) (fuel : Nat) :
    readUnits true (fuel + 1) ('\\' :: rest) = (readUnits true fuel rest').map (n :: ·) := by
  rw [readUnits, if_pos (beq_self_eq_true _), h]
  show (do let more ← readUnits true fuel rest'; pure ([n] ++ more)) = _
  cases readUnits true fuel rest' <;> rfl

/-- An escape is read back as the code point it was written for. -/
theorem Escape.readUnits {n : Nat} {word : List Char} (h : Escape quote n word) (fuel : Nat)
    (rest : List Char) :
    readUnits true (fuel + 1) (word ++ rest) = (Source.readUnits true fuel rest).map (n :: ·) := by
  cases h with
  | plain c hn hplain =>
      have hc : c ≠ '\\' := fun heq => hplain (by simp [heq])
      simp [Source.readUnits, hc, hn]
  | letter c hc => exact readUnits_backslash (readEscape_letter hc rest) fuel
  | numbered mark width hmark hn =>
      exact readUnits_backslash (readEscape_numbered hmark hn rest) fuel

/-- Something is written for every code point. -/
theorem Escape.length_pos {n : Nat} {word : List Char} (h : Escape quote n word) :
    0 < word.length := by
  cases h <;> simp

/-- No escape has a line end in it. -/
theorem Escape.lineEnd_not_mem {n : Nat} {word : List Char} (h : Escape quote n word) :
    '\n' ∉ word := by
  cases h with
  | plain c hn hplain =>
      simp only [List.mem_cons, List.not_mem_nil, or_false, not_or] at hplain ⊢
      exact fun heq => hplain.2.2 heq.symm
  | letter c hc =>
      have hne : '\n' ≠ c := by
        rintro rfl
        cases hc
      simp [hne]
  | numbered mark width hmark hn =>
      have hne : '\n' ≠ mark := by
        rintro rfl
        simp [numberedEscapes] at hmark
      have hdigits : '\n' ∉ hexDigits width n := by
        intro hmem
        obtain ⟨m, hm⟩ := exists_of_mem_hexDigits hmem
        exact (hexDigit_spec m).2.2 (by simp [← hm])
      simp [hne, hdigits]

/-! ### Escapes in a row -/

section
variable {α : Type} {write : α → List Char} {unit : α → Nat}
  (hwrite : ∀ a, Escape quote (unit a) (write a))
include hwrite

/-- The closing quote is the first one that no backslash hides. -/
theorem shortBody_flatMap (hquote : quote = '\'' ∨ quote = '"') (units : List α)
    (rest : List Char) :
    shortBody quote (units.flatMap write ++ quote :: rest) = some (units.flatMap write, rest) := by
  induction units with
  | nil => rcases hquote with rfl | rfl <;> simp [shortBody]
  | cons a units ih =>
      rw [List.flatMap_cons, List.append_assoc, (hwrite a).shortBody hquote, ih]
      rfl

/-- Escapes in a row are read back one by one, if the reader may take as many steps as there are of
them. -/
theorem readUnits_flatMap (units : List α) : ∀ fuel, units.length ≤ fuel →
    readUnits true fuel (units.flatMap write) = some (units.map unit) := by
  induction units with
  | nil => intro fuel _; cases fuel <;> rfl
  | cons a units ih =>
      intro fuel hfuel
      cases fuel with
      | zero => simp at hfuel
      | succ fuel =>
          rw [List.flatMap_cons, (hwrite a).readUnits, ih fuel (by simpa using hfuel)]
          rfl

/-- The length of what is written is enough steps for that. -/
theorem length_le_length_flatMap (units : List α) :
    units.length ≤ (units.flatMap write).length := by
  induction units with
  | nil => simp
  | cons a units ih =>
      have hpos := (hwrite a).length_pos
      simp only [List.flatMap_cons, List.length_append, List.length_cons]
      omega

/-- Escapes in a row have no line end in them. -/
theorem lineEnd_not_mem_flatMap (units : List α) : '\n' ∉ units.flatMap write := by
  intro hmem
  obtain ⟨a, -, ha⟩ := List.mem_flatMap.mp hmem
  exact (hwrite a).lineEnd_not_mem ha

end

/-! ### Whole texts -/

/-- What stands between the quotes of a text. -/
def escaped (quote : Char) (text : List CodePoint) : List Char :=
  text.flatMap (escapeCodePoint quote)

/-- The closing quote of a text is found where the text ends. -/
theorem shortBody_escaped (hquote : quote = '\'' ∨ quote = '"') (text : List CodePoint)
    (rest : List Char) :
    shortBody quote (escaped quote text ++ quote :: rest) = some (escaped quote text, rest) :=
  shortBody_flatMap (escape_escapeCodePoint hquote) hquote text rest

/-- A text is read back from what stands between its quotes. -/
theorem textValue_escaped (hquote : quote = '\'' ∨ quote = '"') (text : List CodePoint) :
    textValue false (escaped quote text) = some text := by
  have hescapes := escape_escapeCodePoint hquote
  have hunits : readUnits true (escaped quote text).length (escaped quote text)
      = some (text.map (·.val)) :=
    readUnits_flatMap hescapes text _ (length_le_length_flatMap hescapes text)
  have hback : (text.map (·.val)).mapM
      (fun n => if h : n < 0x110000 then some (⟨n, h⟩ : CodePoint) else none) = some text := by
    rw [List.mapM_map]
    -- Every unit of the text is a code point again.
    have hpure : ((fun n => if h : n < 0x110000 then some (⟨n, h⟩ : CodePoint) else none) ∘
        fun p : CodePoint => p.val) = fun p => pure (id p) := by
      funext p
      simp [p.isLt]
    rw [hpure, List.mapM_pure, List.map_id]
    rfl
  simp [textValue, hunits, hback]

/-- A text stands between single or double quotes. -/
theorem quoteFor_eq (units : List Nat) : quoteFor units = '\'' ∨ quoteFor units = '"' := by
  unfold quoteFor
  split
  · exact Or.inr rfl
  · exact Or.inl rfl

/-- The characters of a quoted text: a quote, the escapes, and the same quote again. -/
theorem toList_quoted (text : List CodePoint) : ∃ quote, (quote = '\'' ∨ quote = '"') ∧
    (quoted text).toList = quote :: (escaped quote text ++ [quote]) :=
  ⟨quoteFor (text.map (·.val)), quoteFor_eq _, by simp [quoted, escaped]⟩

/-- A text takes one line, whatever it contains. -/
theorem lineEnd_not_mem_quoted (text : List CodePoint) : '\n' ∉ (quoted text).toList := by
  obtain ⟨quote, hquote, hlist⟩ := toList_quoted text
  have hbody : '\n' ∉ escaped quote text :=
    lineEnd_not_mem_flatMap (escape_escapeCodePoint hquote) text
  rcases hquote with rfl | rfl <;> simp [hlist, hbody]

/-- A text is known from its quoted form, whatever stands behind it. -/
theorem quoted_append_inj {text text' : List CodePoint} {r s : List Char}
    (h : (quoted text).toList ++ r = (quoted text').toList ++ s) : text = text' ∧ r = s := by
  obtain ⟨quote, hquote, hlist⟩ := toList_quoted text
  obtain ⟨quote', hquote', hlist'⟩ := toList_quoted text'
  rw [hlist, hlist', List.cons_append, List.cons_append, List.append_assoc, List.append_assoc] at h
  obtain ⟨rfl, hrest⟩ := List.cons.inj h
  -- Both are read in the same way from here on.
  have hbody := congrArg (shortBody quote) hrest
  rw [List.singleton_append, List.singleton_append, shortBody_escaped hquote,
    shortBody_escaped hquote] at hbody
  obtain ⟨hescaped, hrs⟩ := Prod.mk.inj (Option.some.inj hbody)
  have hvalue := congrArg (textValue false) hescaped
  rw [textValue_escaped hquote, textValue_escaped hquote] at hvalue
  exact ⟨Option.some.inj hvalue, hrs⟩

/-! ### Bytes -/

/-- Whatever is written for a byte has one of the forms, too. -/
theorem escape_escapeByte (hquote : quote = '\'' ∨ quote = '"') (b : UInt8) :
    Escape quote b.toNat (escapeByte quote b) := by
  unfold escapeByte
  split
  · next written hwritten => exact escape_of_escapeUnit? hquote hwritten
  · next hnone =>
      obtain ⟨hneQuote, hneSlash, hneLine⟩ := ne_of_escapeUnit?_eq_none hnone
      split
      · next hascii =>
          have hvalid : b.toNat.isValidChar := Or.inl (by omega)
          have hval : (Char.ofNat b.toNat).toNat = b.toNat := by
            rw [Char.ofNat, dif_pos hvalid]
            rfl
          refine .plain _ hval ?_
          simp only [List.mem_cons, List.not_mem_nil, or_false, not_or]
          exact ⟨ne_of_toNat_ne (by rw [hval]; exact hneSlash),
            ne_of_toNat_ne (by rw [hval]; exact hneQuote),
            ne_of_toNat_ne (by rw [hval]; exact hneLine)⟩
      · exact .numbered 'x' 2 (by decide) b.toNat_lt

/-- Those of quoted bytes have a letter in front. -/
theorem toList_quotedBytes (bytes : List UInt8) : ∃ quote, (quote = '\'' ∨ quote = '"') ∧
    (quotedBytes bytes).toList = 'b' :: quote :: (bytes.flatMap (escapeByte quote) ++ [quote]) :=
  ⟨quoteFor (bytes.map (·.toNat)), quoteFor_eq _, by simp [quotedBytes]⟩

/-- Bytes take one line, too. -/
theorem lineEnd_not_mem_quotedBytes (bytes : List UInt8) : '\n' ∉ (quotedBytes bytes).toList := by
  obtain ⟨quote, hquote, hlist⟩ := toList_quotedBytes bytes
  have hbody : '\n' ∉ bytes.flatMap (escapeByte quote) :=
    lineEnd_not_mem_flatMap (escape_escapeByte hquote) bytes
  rw [hlist]
  rcases hquote with rfl | rfl <;> simp only [List.mem_cons, List.mem_append, hbody] <;> decide

/-- Bytes are known from their quoted form, whatever stands behind it. -/
theorem quotedBytes_append_inj {bytes bytes' : List UInt8} {r s : List Char}
    (h : (quotedBytes bytes).toList ++ r = (quotedBytes bytes').toList ++ s) :
    bytes = bytes' ∧ r = s := by
  obtain ⟨quote, hquote, hlist⟩ := toList_quotedBytes bytes
  obtain ⟨quote', hquote', hlist'⟩ := toList_quotedBytes bytes'
  rw [hlist, hlist'] at h
  simp only [List.cons_append, List.append_assoc, List.nil_append, List.cons.injEq,
    true_and] at h
  obtain ⟨rfl, hrest⟩ := h
  have hescapes := escape_escapeByte hquote
  have hbody := congrArg (shortBody quote) hrest
  rw [shortBody_flatMap hescapes hquote, shortBody_flatMap hescapes hquote] at hbody
  obtain ⟨hescaped, hrs⟩ := Prod.mk.inj (Option.some.inj hbody)
  -- The numbers of the bytes are read back from what stands between the quotes.
  have hunits := readUnits_flatMap hescapes bytes _ (length_le_length_flatMap hescapes bytes)
  rw [hescaped, readUnits_flatMap hescapes bytes' _ (length_le_length_flatMap hescapes bytes')]
    at hunits
  have hmap := (Option.some.inj hunits).symm
  exact ⟨(List.map_inj_right fun _ _ => UInt8.toNat_inj.mp).mp hmap, hrs⟩

end Flowchart.Text
