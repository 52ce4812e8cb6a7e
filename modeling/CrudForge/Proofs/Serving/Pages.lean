import Mathlib.Algebra.Order.Floor.Div
import CrudForge.Serving.Page

/-!
# Pages as parts of a listing

The page of a window is the rows at the places that exact arithmetic gives it (`shows_slice`),
although the offset of a window is a word and stops at the greatest one. The pages of one size, as
many as are counted, are the whole listing (`flatMap_between`).
-/

namespace CrudForge.Page

variable {α : Type}

/-- The rows of a listing at the places from `low` on and before `high`. -/
def between (low high : Nat) (rows : List α) : List α :=
  (rows.zipIdx.filter fun row => low ≤ row.2 ∧ row.2 < high).map (·.1)

/-- A page is what a window shows of a listing, and tells how long the listing is. -/
structure Shows (w : PageWindow) (rows : List α) (p : Page α) : Prop where
  content : p.content = between (w.page.toNat * w.size.toNat)
    (w.page.toNat * w.size.toNat + w.size.toNat) rows
  page : p.page = w.page
  size : p.size = w.size
  totalElements : p.totalElements.toNat = rows.length
  totalPages : p.totalPages.toNat = rows.length ⌈/⌉ w.size.toNat

/-! ## Places -/

theorem filter_zipIdx (low high : Nat) (rows : List α) (k : Nat) :
    ((rows.zipIdx k).filter fun row => low ≤ row.2 ∧ row.2 < high).map (·.1) =
      (rows.take (high - k)).drop (low - k) := by
  induction rows generalizing k with
  | nil => simp
  | cons row rows ih =>
    rw [List.zipIdx_cons, List.filter_cons]
    -- the first row stands before the places, among them or behind them
    rcases Nat.lt_or_ge k high with inside | behind
    · have more : high - k = high - (k + 1) + 1 := by omega
      rw [more, List.take_succ_cons]
      rcases Nat.lt_or_ge k low with before | among
      · have further : low - k = low - (k + 1) + 1 := by omega
        rw [if_neg (by simp; omega), ih, further, List.drop_succ_cons]
      · have here : low - k = 0 := by omega
        have there : low - (k + 1) = 0 := by omega
        rw [if_pos (by simp; omega), List.map_cons, ih, here, there]
        rfl
    · have none : high - k = 0 := by omega
      have later : high - (k + 1) = 0 := by omega
      rw [if_neg (by simp; omega), ih, none, later, List.take_zero, List.take_zero, List.drop_nil,
        List.drop_nil]

theorem between_eq (low n : Nat) (rows : List α) :
    between low (low + n) rows = (rows.drop low).take n := by
  rw [between, filter_zipIdx, Nat.sub_zero, Nat.sub_zero, List.drop_take, Nat.add_sub_cancel_left]

theorem flatMap_take (rows : List α) (size count : Nat) :
    (List.range count).flatMap (fun n => between (n * size) (n * size + size) rows) =
      rows.take (count * size) := by
  induction count with
  | zero => simp
  | succ count ih =>
    rw [List.range_succ, List.flatMap_append, ih, Nat.succ_mul, List.take_add]
    simp [between_eq]

/-- The pages of one size list every row once, in the order of the rows. -/
theorem flatMap_between (rows : List α) {size : Nat} (positive : 0 < size) :
    (List.range (rows.length ⌈/⌉ size)).flatMap
      (fun n => between (n * size) (n * size + size) rows) = rows := by
  rw [flatMap_take]
  refine List.take_of_length_le ?_
  have enough := (ceilDiv_le_iff_le_smul positive).1 (le_refl (rows.length ⌈/⌉ size))
  rw [Nat.mul_comm]
  exact enough

/-! ## Words -/

theorem toNat_toUInt64 {n : Nat} (short : n < 2 ^ 64) : n.toUInt64.toNat = n :=
  UInt64.toNat_ofNat_of_lt short

theorem toNat_offset (w : PageWindow) :
    w.offset.toNat = min (w.page.toNat * w.size.toNat) (2 ^ 64 - 1) := by
  rw [PageWindow.offset, toNat_toUInt64 (by simp)]
  rfl

theorem ceilDiv_le_self (n : Nat) {size : Nat} (positive : 0 < size) : n ⌈/⌉ size ≤ n :=
  (ceilDiv_le_iff_le_smul positive).2 (Nat.le_mul_of_pos_left n positive)

theorem toNat_count {n : Nat} (short : n < 2 ^ 64) (size : UInt64) :
    (count n.toUInt64 size).toNat = n ⌈/⌉ size.toNat := by
  rw [count]
  split
  · rename_i none
    rw [none]
    exact (ceilDiv_zero n).symm
  · rename_i some
    have positive : 0 < size.toNat := Nat.pos_of_ne_zero fun none => some (UInt64.toNat.inj none)
    have counted : n ⌈/⌉ size.toNat = (n + (size.toNat - 1)) / size.toNat := by
      rw [Nat.ceilDiv_eq_add_pred_div, Nat.add_sub_assoc positive]
    have few := ceilDiv_le_self n positive
    rw [counted] at few ⊢
    rw [toNat_toUInt64 short, toNat_toUInt64 (by omega)]

/-- A listing as long as can be has no row where the offset of a window has stopped. -/
theorem drop_offset {rows : List α} (short : rows.length < 2 ^ 64) (w : PageWindow) :
    rows.drop w.offset.toNat = rows.drop (w.page.toNat * w.size.toNat) := by
  rw [toNat_offset]
  -- Where the offset has stopped, both ways lead behind the last row.
  rcases Nat.lt_or_ge (w.page.toNat * w.size.toNat) (2 ^ 64) with near | far
  · rw [Nat.min_eq_left (by omega)]
  · rw [List.drop_eq_nil_of_le (by omega), List.drop_eq_nil_of_le (by omega)]

/-- Cutting out the page of a window shows what is at its places. -/
theorem shows_slice {rows : List α} (short : rows.length < 2 ^ 64) (w : PageWindow) :
    (slice rows w).Shows w rows where
  content := by
    rw [between_eq, ← drop_offset short]
    rfl
  page := rfl
  size := rfl
  totalElements := toNat_toUInt64 short
  totalPages := toNat_count short w.size

example : slice [10, 11, 12, 13, 14] ⟨2, 2⟩ = ⟨[14], 2, 2, 5, 3⟩ := by
  decide

/-! ## The pages of one size -/

section Pages

variable {rows : List α} {size : UInt64}

/-- The pages that are counted are the whole listing, one after the other. -/
theorem flatMap_slice (short : rows.length < 2 ^ 64) (positive : 0 < size) :
    (List.range (rows.length ⌈/⌉ size.toNat)).flatMap
      (fun n => (slice rows ⟨n.toUInt64, size⟩).content) = rows := by
  have positive : 0 < size.toNat := UInt64.lt_iff_toNat_lt.1 positive
  have few := ceilDiv_le_self rows.length positive
  -- The number of a page that is counted is a word, so none of them is the page of another one.
  refine Eq.trans (List.flatMap_congr fun n here => ?_) (flatMap_between rows positive)
  have below := List.mem_range.1 here
  have word : n.toUInt64.toNat = n := toNat_toUInt64 (by omega)
  rw [(shows_slice short ⟨n.toUInt64, size⟩).content, word]

theorem length_slice (short : rows.length < 2 ^ 64) (w : PageWindow) :
    (slice rows w).content.length =
      min w.size.toNat (rows.length - w.page.toNat * w.size.toNat) := by
  rw [(shows_slice short w).content, between_eq, List.length_take, List.length_drop]

/-- The pages of one size are as many as are counted, and split a listing up. -/
structure Parts (rows : List α) (size : UInt64) (count : Nat) : Prop where
  whole : (List.range count).flatMap (fun n => (slice rows ⟨n.toUInt64, size⟩).content) = rows
  full : ∀ n : UInt64, n.toNat + 1 < count → (slice rows ⟨n, size⟩).content.length = size.toNat
  last : ∀ n : UInt64, n.toNat + 1 = count → (slice rows ⟨n, size⟩).content ≠ []
  past : ∀ n : UInt64, count ≤ n.toNat → (slice rows ⟨n, size⟩).content = []

theorem parts_slice (short : rows.length < 2 ^ 64) (positive : 0 < size) :
    Parts rows size (rows.length ⌈/⌉ size.toNat) := by
  have some : 0 < size.toNat := UInt64.lt_iff_toNat_lt.1 positive
  have covered (n : Nat) : rows.length ⌈/⌉ size.toNat ≤ n ↔ rows.length ≤ n * size.toNat := by
    rw [Nat.mul_comm]
    exact ceilDiv_le_iff_le_smul some
  refine ⟨flatMap_slice short positive, fun n before => ?_, fun n here => ?_, fun n behind => ?_⟩
  · have more := mt (covered (n.toNat + 1)).2 (Nat.not_le_of_gt before)
    rw [Nat.succ_mul] at more
    rw [length_slice short]
    dsimp only
    omega
  · have more := mt (covered n.toNat).2 (by omega)
    apply List.ne_nil_of_length_pos
    rw [length_slice short]
    dsimp only
    omega
  · have none := (covered n.toNat).1 behind
    apply List.eq_nil_of_length_eq_zero
    rw [length_slice short]
    dsimp only
    omega

theorem slice_unrestricted_iff :
    (slice rows .unrestricted).content = rows ↔ rows.length ≤ 2147483647 := by
  have first : (slice rows .unrestricted).content = rows.take 2147483647 := rfl
  rw [first, List.take_eq_self_iff]

/-- Cutting a listing into pages loses no row and repeats none, and what a page tells of the whole
is exact, also where the offset of its window has stopped. -/
theorem slice_exact (fits : rows.length ≤ 2 ^ 63 - 1) :
    (∀ w, (slice rows w).Shows w rows ∧ (w.size = 0 → (slice rows w).totalPages = 0)) ∧
    (∀ size : UInt64, 0 < size → ∀ page,
      Parts rows size (slice rows ⟨page, size⟩).totalPages.toNat) ∧
    ((slice rows .unrestricted).content = rows ↔ rows.length ≤ 2147483647) := by
  have short : rows.length < 2 ^ 64 := by omega
  refine ⟨fun w => ⟨shows_slice short w, fun none => ?_⟩, fun size positive page => ?_,
    slice_unrestricted_iff⟩
  · exact if_pos none
  · rw [(shows_slice short ⟨page, size⟩).totalPages]
    exact parts_slice short positive

/-- Five rows in pages of two: three pages, and nothing where the offset has stopped. -/
theorem slice_exact_five :
    [10, 11, 12, 13, 14].length ≤ 2 ^ 63 - 1 ∧
      (slice [10, 11, 12, 13, 14] ⟨18446744073709551615, 2⟩).Shows ⟨18446744073709551615, 2⟩
        [10, 11, 12, 13, 14] ∧
      Parts [10, 11, 12, 13, 14] 2 3 := by
  have fits : [10, 11, 12, 13, 14].length ≤ 2 ^ 63 - 1 := by decide
  obtain ⟨shows, parts, -⟩ := slice_exact fits
  exact ⟨fits, (shows _).1, parts 2 (by decide) 0⟩

end Pages

end CrudForge.Page
