import Flowchart.Grid
import Mathlib.Data.List.TakeWhile

/-!
# `Flowchart.Proofs.Grid`: the bytes of a grid

A grid is looked at byte by byte (`Grid.byte?`).  Writing a text changes the bytes under it and no
others (`Grid.byte?_put`).  `Grid.run_write` says when a text can be written: its row must be there,
and the clipped range of columns must be exactly as long as the text.

A row is printed without the zeros at both of its ends, so that what is printed of it begins at its
`Grid.indent`.
-/

set_option autoImplicit false

namespace Flowchart.Grid

/-- A grid has the given number of rows, all of the given width. -/
structure Sized (grid : Grid) (height width : Nat) : Prop where
  size : grid.rows.size = height
  width_eq : grid.width = width
  row : ∀ {r : Nat} {cells : List UInt8}, grid.rows[r]? = some cells → cells.length = width

/-- The byte in a row and a column. -/
def byte? (grid : Grid) (row column : Nat) : Option UInt8 :=
  grid.rows[row]?.bind (·[column]?)

/-- A text as bytes. -/
def bytes (text : List Char) : List UInt8 :=
  text.map fun c => UInt8.ofNat c.toNat

/-- One byte for each character. -/
@[simp] theorem length_bytes (text : List Char) : (bytes text).length = text.length :=
  List.length_map ..

/-- A grid of zeros has the size it was made with. -/
theorem sized_zero (height width : Nat) : (zero height width).Sized height width where
  size := Array.size_replicate
  width_eq := rfl
  row := by
    intro r cells hcells
    rw [zero, Array.getElem?_replicate] at hcells
    split at hcells
    · cases hcells
      exact List.length_replicate
    · cases hcells

/-- A grid of zeros has a zero in every cell. -/
theorem byte?_zero {height width row column : Nat} (hrow : row < height)
    (hcolumn : column < width) : (zero height width).byte? row column = some 0 := by
  simp [byte?, zero, hrow, hcolumn]

/-- The rows of a grid after something was written into one of them. -/
theorem getElem?_put (grid : Grid) (row column : Nat) (new : List UInt8) (r : Nat) :
    (grid.put row column new).rows[r]? = if row = r then
      grid.rows[r]?.map fun cells => cells.take column ++ new ++ cells.drop (column + new.length)
      else grid.rows[r]? :=
  Array.getElem?_modify

section
variable {grid : Grid} {height width : Nat} (h : grid.Sized height width)
include h

/-- Writing where there is room keeps the size of a grid. -/
theorem Sized.put {column : Nat} {new : List UInt8} (hfits : column + new.length ≤ width)
    (row : Nat) : (grid.put row column new).Sized height width where
  size := by rw [size_rows_put, h.size]
  width_eq := h.width_eq
  row := by
    intro r cells hcells
    rw [getElem?_put] at hcells
    split at hcells
    · obtain ⟨old, hold, rfl⟩ := Option.map_eq_some_iff.mp hcells
      have hlength := h.row hold
      simp only [List.length_append, List.length_take, List.length_drop]
      omega
    · exact h.row hcells

/-- After writing, the bytes under the text are those of the text and all others are as before. -/
theorem Sized.byte?_put {row column : Nat} {new : List UInt8} (hrow : row < height)
    (hfits : column + new.length ≤ width) (r c : Nat) :
    (grid.put row column new).byte? r c
      = if r = row ∧ column ≤ c ∧ c < column + new.length then new[c - column]?
        else grid.byte? r c := by
  rw [byte?, getElem?_put]
  by_cases hr : row = r
  · subst hr
    have hlt : row < grid.rows.size := by rw [h.size]; exact hrow
    have hcells := Array.getElem?_eq_getElem hlt
    have hlength := h.row hcells
    rw [if_pos rfl, byte?, hcells, Option.map_some, Option.bind_some, Option.bind_some]
    have htake : (grid.rows[row].take column).length = column := by
      rw [List.length_take]
      omega
    -- The column is in front of the text, in it, or behind it.
    by_cases hbefore : c < column
    · rw [if_neg (by omega), List.append_assoc, List.getElem?_append_left (by omega),
        List.getElem?_take_of_lt hbefore]
    · by_cases hafter : c < column + new.length
      · rw [if_pos ⟨rfl, by omega, hafter⟩, List.append_assoc,
          List.getElem?_append_right (by omega), htake, List.getElem?_append_left (by omega)]
      · rw [if_neg (by omega), List.getElem?_append_right (by rw [List.length_append]; omega),
          List.length_append, htake, List.getElem?_drop]
        congr 1
        omega
  · rw [if_neg hr, if_neg (by omega), byte?]

end

/-- A text whose characters are all bytes is taken to its end. -/
theorem bytesOf_eq {text : List Char} (h : ∀ c ∈ text, c.toNat < 256) :
    bytesOf text = (bytes text, none) := by
  induction text with
  | nil => rfl
  | cons c rest ih =>
      have hc : ¬ 256 ≤ c.toNat := Nat.not_le.mpr (h c List.mem_cons_self)
      have hrest := ih fun d hd => h d (List.mem_cons_of_mem _ hd)
      rw [bytesOf, if_neg hc, hrest]
      rfl

/-- A text of bytes is written if its row is there and its range of columns, clipped to the grid,
has room for exactly this text. -/
theorem run_write {grid : Grid} {height width : Nat} (h : grid.Sized height width)
    {text : List Char} (htext : ∀ c ∈ text, c.toNat < 256) (row start stop : Nat) :
    (write row start stop text).run grid
      = if row < height then
          if text.length = min stop width - min start width then
            .ok () (grid.put row (min start width) (bytes text))
          else .error (.shape text.length (min stop width - min start width)) grid
        else .error (.noRow row height) grid := by
  -- Rows and columns that are counted from the front are clipped to the grid and nothing more.
  have hclip : ∀ n : Nat, grid.clip n = min n width := by
    intro n
    have hn : ¬ (n : Int) < 0 := by omega
    rw [clip, if_neg hn, h.width_eq, Int.toNat_natCast]
  have hindex : grid.rowIndex row
      = if row < height then .ok row else .error (.noRow row height) := by
    unfold rowIndex
    rw [h.size]
    by_cases hrow : row < height
    · simp [hrow]
    · have hneg : ¬ (row : Int) < 0 := by omega
      simp [hrow, hneg]
  rw [write]
  simp only [EStateM.run_bind, EStateM.run_get, hindex, hclip, bytesOf_eq htext]
  by_cases hrow : row < height
  · simp only [hrow, if_true, length_bytes]
    by_cases hroom : text.length = min stop width - min start width
    · rw [if_pos hroom, if_pos hroom]
      rfl
    · rw [if_neg hroom, if_neg hroom]
      rfl
  · simp only [hrow, if_false]
    rfl

/-- Only texts of bytes have bytes to the end. -/
theorem lt_of_bytesOf {text : List Char} (h : (bytesOf text).2 = none) :
    ∀ c ∈ text, c.toNat < 256 := by
  induction text with
  | nil => simp
  | cons c rest ih =>
      rw [bytesOf] at h
      split at h
      · cases h
      · rename_i hc
        have hrest := ih h
        intro d hd
        rcases List.mem_cons.mp hd with rfl | hd
        · exact Nat.lt_of_not_le hc
        · exact hrest d hd

/-- Whatever was written is a text of bytes. -/
theorem lt_of_write {row start stop : Int} {text : List Char} {grid grid' : Grid}
    (h : (write row start stop text).run grid = .ok () grid') : ∀ c ∈ text, c.toNat < 256 := by
  rw [write, EStateM.run_bind, EStateM.run_get] at h
  simp only at h
  cases hrow : grid.rowIndex row with
  | error fault =>
      rw [hrow] at h
      cases h
  | ok r =>
      rw [hrow] at h
      -- A character that is no byte is an error, even after a part of the text was written.
      rcases hbytes : bytesOf text with ⟨bytes, _ | bad⟩
      · exact lt_of_bytesOf (by rw [hbytes])
      · rw [hbytes] at h
        simp only at h
        split at h <;> cases h

/-! ### Printed rows -/

/-- The number of zeros in front of the first other byte. -/
def indent (cells : List UInt8) : Nat :=
  cells.findIdx (· != 0)

/-- The indent of a row is where its first byte other than zero stands. -/
theorem indent_eq {cells : List UInt8} {n : Nat} {b : UInt8}
    (hzeros : ∀ k, k < n → cells[k]? = some 0) (hb : cells[n]? = some b) (hne : b ≠ 0) :
    indent cells = n := by
  obtain ⟨hlt, rfl⟩ := List.getElem?_eq_some_iff.mp hb
  refine (List.findIdx_eq hlt).mpr ⟨bne_iff_ne.mpr hne, fun k hk => ?_⟩
  obtain ⟨_, hzero⟩ := List.getElem?_eq_some_iff.mp (hzeros k hk)
  rw [hzero]
  rfl

/-- Without the zeros at its end a row is the front of itself. -/
theorem trimEnd_isPrefix (cells : List UInt8) : trimEnd cells <+: cells := by
  obtain ⟨zeros, hcells⟩ := List.dropWhile_suffix (l := cells.reverse) (· == 0)
  exact ⟨zeros.reverse, by rw [trimEnd, ← List.reverse_append, hcells, List.reverse_reverse]⟩

/-- What is printed of a row is in it, from the indent on. -/
theorem trim_isPrefix_drop (cells : List UInt8) : trim cells <+: cells.drop (indent cells) := by
  have hdrop : cells.dropWhile (· == 0) = cells.drop (indent cells) :=
    List.dropWhile_eq_drop_findIdx_not
  rw [trim, hdrop]
  exact trimEnd_isPrefix _

/-- Nothing is left of a row of zeros, and of no other row. -/
theorem trimEnd_eq_nil_iff {cells : List UInt8} : trimEnd cells = [] ↔ ∀ b ∈ cells, b = 0 := by
  simp [trimEnd]

/-- Nothing is printed of a row of zeros, and of no other row. -/
theorem trim_eq_nil_iff {cells : List UInt8} : trim cells = [] ↔ ∀ b ∈ cells, b = 0 := by
  induction cells with
  | nil => simp [trim, trimEnd]
  | cons b rest ih =>
      rw [trim] at ih ⊢
      by_cases hb : b = 0
      · simp [hb, ih]
      · rw [List.dropWhile_cons_of_neg (by simp [hb]), trimEnd_eq_nil_iff]

/-- Of a row that is printed, every byte is printed in its column exactly if there is no indent. -/
theorem indent_eq_zero_iff {cells : List UInt8} (h : trim cells ≠ []) :
    indent cells = 0 ↔ trim cells <+: cells := by
  have hmoved := trim_isPrefix_drop cells
  constructor
  · intro hindent
    rwa [hindent, List.drop_zero] at hmoved
  · intro hplace
    have hlt : 0 < (trim cells).length := List.length_pos_iff.mpr h
    have hfirst := List.prefix_iff_getElem?.mp hplace 0 hlt
    -- The first byte that is printed is the one behind the zeros, and no zero itself.
    have hbehind := List.prefix_iff_getElem?.mp hmoved 0 hlt
    rw [List.getElem?_drop] at hbehind
    obtain ⟨hindent, hbyte⟩ := List.getElem?_eq_some_iff.mp hbehind
    have hne : (cells[indent cells] != 0) = true :=
      List.findIdx_getElem (p := (· != 0)) (w := hindent)
    refine indent_eq (fun k hk => absurd hk (Nat.not_lt_zero k)) hfirst ?_
    rw [← hbyte]
    exact bne_iff_ne.mp hne

end Flowchart.Grid
