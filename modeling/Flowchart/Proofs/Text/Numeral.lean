import Flowchart.Text.Numeral

/-!
# `Flowchart.Proofs.Text.Numeral`: a whole number is known from its text

Texts are often written one behind the other, and then it has to be clear where one of them ends.  A
run of characters of one class ends where a character outside the class follows
(`append_inj_of_run`).  The text of a whole number is such a run, after a minus sign or not, so that
the number can be told from it wherever no digit follows (`intText_append_inj`).
-/

set_option autoImplicit false

namespace Flowchart

/-- Whether a text is over or goes on with a character outside the class. -/
def EndsRun (p : Char → Bool) (rest : List Char) : Prop :=
  ∀ c, rest.head? = some c → p c = false

/-- Two runs of a class of characters, each with something behind it that is not in the class. -/
theorem append_inj_of_run {p : Char → Bool} {a b r s : List Char} (ha : ∀ c ∈ a, p c = true)
    (hb : ∀ c ∈ b, p c = true) (hr : EndsRun p r) (hs : EndsRun p s) (h : a ++ r = b ++ s) :
    a = b ∧ r = s := by
  have htake : ∀ {t : List Char}, EndsRun p t → t.takeWhile p = [] := by
    intro t ht
    cases t with
    | nil => rfl
    | cons c t => simp [ht c rfl]
  -- Each of the runs is what `takeWhile` takes of the common text.
  have hab : a = b := by
    have hwhile := congrArg (List.takeWhile p) h
    rw [List.takeWhile_append_of_pos ha, List.takeWhile_append_of_pos hb, htake hr, htake hs,
      List.append_nil, List.append_nil] at hwhile
    exact hwhile
  subst hab
  exact ⟨rfl, List.append_cancel_left h⟩

/-- The characters of a whole number: those of its absolute value, after a minus sign if it is
negative. -/
theorem toList_intText (n : Int) : (intText n).toList
    = if n < 0 then '-' :: Nat.toDigits 10 n.natAbs else Nat.toDigits 10 n.natAbs := by
  unfold intText
  by_cases hn : n < 0
  · rw [if_pos hn, if_pos hn]
    simp
  · rw [if_neg hn, if_neg hn, String.toList_ofList]

/-- Different numbers have different digits, since the number is read back from them. -/
theorem toDigits_injective {m n : Nat} (h : Nat.toDigits 10 m = Nat.toDigits 10 n) : m = n := by
  have hm := Nat.ofDigitChars_ten_toDigits (n := m)
  rw [h, Nat.ofDigitChars_ten_toDigits] at hm
  exact hm.symm

/-- The decimal digits of a number are digits. -/
theorem isDigit_of_mem_toDigits {n : Nat} : ∀ c ∈ Nat.toDigits 10 n, c.isDigit = true :=
  fun _ => Nat.isDigit_of_mem_toDigits (by decide) (by decide)

/-- The digits are next to each other among the characters. -/
theorem toNat_of_isDigit {c : Char} (h : c.isDigit = true) : 48 ≤ c.toNat ∧ c.toNat ≤ 57 := by
  simp only [Char.isDigit, Bool.and_eq_true, decide_eq_true_eq] at h
  exact ⟨UInt32.le_iff_toNat_le.mp h.1, UInt32.le_iff_toNat_le.mp h.2⟩

/-- Every number has a digit. -/
theorem exists_cons_toDigits (n : Nat) :
    ∃ c rest, Nat.toDigits 10 n = c :: rest ∧ c.isDigit = true := by
  cases hdigits : Nat.toDigits 10 n with
  | nil => exact absurd hdigits Nat.toDigits_ne_nil
  | cons c rest =>
      have hc : c ∈ Nat.toDigits 10 n := by rw [hdigits]; exact List.mem_cons_self
      exact ⟨c, rest, rfl, isDigit_of_mem_toDigits c hc⟩

/-- The text of a whole number begins with a digit or a minus sign. -/
theorem exists_cons_intText (n : Int) :
    ∃ c rest, (intText n).toList = c :: rest ∧ (c.isDigit = true ∨ c = '-') := by
  rw [toList_intText]
  split
  · exact ⟨'-', _, rfl, Or.inr rfl⟩
  · obtain ⟨c, rest, hdigits, hc⟩ := exists_cons_toDigits n.natAbs
    exact ⟨c, rest, hdigits, Or.inl hc⟩

/-- A whole number is known from its text, whatever other than a digit stands behind it. -/
theorem intText_append_inj {m n : Int} {r s : List Char} (hr : EndsRun Char.isDigit r)
    (hs : EndsRun Char.isDigit s) (h : (intText m).toList ++ r = (intText n).toList ++ s) :
    m = n ∧ r = s := by
  rw [toList_intText, toList_intText] at h
  have hsign : ∀ (a b : Nat) (r s : List Char),
      '-' :: (Nat.toDigits 10 a ++ r) ≠ Nat.toDigits 10 b ++ s := by
    intro a b r s heq
    obtain ⟨c, rest, hdigits, hc⟩ := exists_cons_toDigits b
    rw [hdigits, List.cons_append] at heq
    -- No digit is a minus sign.
    rw [← (List.cons.inj heq).1] at hc
    exact absurd hc (by decide)
  have hrun : ∀ {a b : Nat}, Nat.toDigits 10 a ++ r = Nat.toDigits 10 b ++ s → a = b ∧ r = s := by
    intro a b heq
    obtain ⟨hdigits, hrest⟩ :=
      append_inj_of_run isDigit_of_mem_toDigits isDigit_of_mem_toDigits hr hs heq
    exact ⟨toDigits_injective hdigits, hrest⟩
  -- The signs agree, because the first characters do.
  by_cases hm : m < 0 <;> by_cases hn : n < 0
  · rw [if_pos hm, if_pos hn] at h
    obtain ⟨habs, hrest⟩ := hrun (List.cons.inj h).2
    exact ⟨by omega, hrest⟩
  · rw [if_pos hm, if_neg hn] at h
    exact absurd h (hsign _ _ _ _)
  · rw [if_neg hm, if_pos hn] at h
    exact absurd h.symm (hsign _ _ _ _)
  · rw [if_neg hm, if_neg hn] at h
    obtain ⟨habs, hrest⟩ := hrun h
    exact ⟨by omega, hrest⟩

/-- Different whole numbers have different texts. -/
theorem intText_injective {m n : Int} (h : intText m = intText n) : m = n :=
  (intText_append_inj (r := []) (s := []) nofun nofun (by rw [h])).1

end Flowchart
