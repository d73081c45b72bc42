import HotelBooking.Proofs.Text.Width
import HotelBooking.Store.Memory
import Mathlib.Algebra.Order.Floor.Div
import Mathlib.Data.List.Sort

/-!
# The catalogue and its pages

The catalogue has the hotels it was given, by number, and hotels of one number in the order in
which they were given. Pages cut it at the multiples of their size: put one behind the other they
are the catalogue, and past its end they are empty. The arithmetic of pages is exact wherever it
is carried out, since what does not fit into 64 bits is refused.
-/

namespace HotelBooking

section Sorting

variable (hotels : List Hotel)

theorem catalogue_perm : (catalogue hotels).Perm hotels := List.mergeSort_perm _ _

theorem length_catalogue : (catalogue hotels).length = hotels.length :=
  (catalogue_perm hotels).length_eq

theorem byId_trans (a b c : Hotel) (ab : decide (a.id ≤ b.id) = true)
    (bc : decide (b.id ≤ c.id) = true) : decide (a.id ≤ c.id) = true := by
  simp only [decide_eq_true_eq, Int32.le_iff_toInt_le] at ab bc ⊢
  exact ab.trans bc

theorem byId_total (a b : Hotel) : (decide (a.id ≤ b.id) || decide (b.id ≤ a.id)) = true := by
  simp only [Bool.or_eq_true, decide_eq_true_eq, Int32.le_iff_toInt_le]
  exact le_total _ _

theorem catalogue_sorted : (catalogue hotels).Pairwise fun a b => a.id ≤ b.id := by
  have sorted := List.pairwise_mergeSort byId_trans byId_total hotels
  exact sorted.imp of_decide_eq_true

/-- The hotels of one number keep their order. -/
theorem catalogue_stable (id : Int32) :
    (catalogue hotels).filter (·.id = id) = hotels.filter (·.id = id) := by
  have alike : (hotels.filter (·.id = id)).Pairwise fun a b => decide (a.id ≤ b.id) = true := by
    apply List.pairwise_of_forall_mem_list
    intro a first b second
    simp only [List.mem_filter, decide_eq_true_eq] at first second
    rw [first.2, second.2, decide_eq_true_eq]
    exact Int32.le_refl id
  have kept : (hotels.filter (·.id = id)).Sublist (catalogue hotels) :=
    List.sublist_mergeSort byId_trans byId_total alike List.filter_sublist
  have kept := kept.filter fun h => decide (h.id = id)
  simp only [List.filter_filter, Bool.and_self] at kept
  exact (kept.eq_of_length ((catalogue_perm hotels).filter _).length_eq.symm).symm

end Sorting

/-! ## Pages of a list -/

section Pages

variable {α : Type} {l : List α} {page size : Nat}

/-- What is at the positions of a page, where pages are counted from 1. -/
def onPage (l : List α) (page size : Nat) : List α :=
  l.extract ((page - 1) * size) (min l.length (page * size))

theorem take_drop_eq_onPage (l : List α) (first : 1 ≤ page) :
    (l.drop ((page - 1) * size)).take size = onPage l page size := by
  obtain ⟨p, rfl⟩ := Nat.exists_eq_add_of_le' first
  rw [onPage, List.extract_eq_take_drop, Nat.add_sub_cancel, List.take_eq_take_iff,
    List.length_drop, Nat.succ_mul]
  omega

theorem onPage_eq_nil_iff (first : 1 ≤ page) (pos : 1 ≤ size) :
    onPage l page size = [] ↔ l.length ≤ (page - 1) * size := by
  rw [← take_drop_eq_onPage l first, List.take_eq_nil_iff, List.drop_eq_nil_iff]
  omega

/-- The first pages hold the first rows. -/
theorem flatMap_onPage (l : List α) (size n : Nat) :
    ((List.range n).flatMap fun i => onPage l (i + 1) size) = l.take (n * size) := by
  induction n with
  | zero => simp
  | succ n ih =>
      have next : (l.drop ((n + 1 - 1) * size)).take size = onPage l (n + 1) size :=
        take_drop_eq_onPage l (Nat.le_add_left 1 n)
      rw [List.range_succ, List.flatMap_append, ih, List.flatMap_singleton, ← next,
        Nat.add_sub_cancel, Nat.succ_mul, List.take_add]

/-- All pages together are the list. -/
theorem flatMap_onPage_ceilDiv (l : List α) (pos : 1 ≤ size) :
    ((List.range (l.length ⌈/⌉ size)).flatMap fun i => onPage l (i + 1) size) = l := by
  have enough : l.length ≤ size * (l.length ⌈/⌉ size) := (ceilDiv_le_iff_le_mul pos).mp le_rfl
  rw [flatMap_onPage, List.take_of_length_le]
  rwa [Nat.mul_comm]

/-- Behind them there is nothing. -/
theorem onPage_of_ceilDiv_lt (pos : 1 ≤ size) (past : l.length ⌈/⌉ size < page) :
    onPage l page size = [] := by
  have enough : l.length ≤ size * (page - 1) := (ceilDiv_le_iff_le_mul pos).mp (by omega)
  rw [onPage_eq_nil_iff (by omega) pos]
  rwa [Nat.mul_comm]

end Pages

/-! ## Pages of the catalogue -/

/-- A page and a size that are counted from 1 and whose offset fits into 64 bits. -/
structure Pageable (page size : Int64) : Prop where
  first : 1 ≤ page.toInt
  pos : 1 ≤ size.toInt
  offset : (page.toInt - 1) * size.toInt ≤ Int64.maxValue.toInt

instance (page size : Int64) : Decidable (Pageable page size) :=
  decidable_of_iff (1 ≤ page.toInt ∧ 1 ≤ size.toInt ∧
      (page.toInt - 1) * size.toInt ≤ Int64.maxValue.toInt)
    ⟨fun ⟨first, pos, offset⟩ => ⟨first, pos, offset⟩,
      fun ⟨first, pos, offset⟩ => ⟨first, pos, offset⟩⟩

section Paging

variable {page size : Int64}

theorem not_positive_iff : page ≤ 0 ∨ size ≤ 0 ↔ ¬ (1 ≤ page.toInt ∧ 1 ≤ size.toInt) := by
  rw [Int64.le_iff_toInt_le, Int64.le_iff_toInt_le, Int64.toInt_zero]
  omega

/-- Taking one off a page that is counted from 1 does not wrap around. -/
theorem toInt_page_sub_one (first : 1 ≤ page.toInt) : (page - 1).toInt = page.toInt - 1 := by
  have one : (1 : Int64).toInt = 1 := rfl
  rw [Int64.toInt_sub_of_le, one]
  · decide
  · rwa [Int64.le_iff_toInt_le, one]

theorem Pageable.positive (pageable : Pageable page size) : ¬ (page ≤ 0 ∨ size ≤ 0) := by
  rw [not_positive_iff, not_not]
  exact ⟨pageable.first, pageable.pos⟩

theorem Pageable.pageOffset_eq (pageable : Pageable page size) :
    ∃ offset, pageOffset page size = .ok offset ∧
      offset.toInt = (page.toInt - 1) * size.toInt := by
  have ⟨first, pos, offset⟩ := pageable
  cases fits : int64? ((page.toInt - 1) * size.toInt) with
  | none =>
      have nonneg : 0 ≤ (page.toInt - 1) * size.toInt := Int.mul_nonneg (by omega) (by omega)
      rw [int64?_eq_none_iff, Int64.toInt_minValue] at fits
      exact absurd ⟨le_trans (by decide) nonneg, offset⟩ fits
  | some k =>
      exact ⟨k, by rw [pageOffset, if_neg pageable.positive, fits], int64?_eq_some_iff.mp fits⟩

/-- A page that there cannot be is refused. -/
theorem pageOffset_eq_error (unpageable : ¬ Pageable page size) :
    pageOffset page size = .error (if page ≤ 0 ∨ size ≤ 0 then .invalidPage page size
      else .pageOutOfRange page size) := by
  rw [pageOffset]
  split_ifs with refused
  · rfl
  · cases fits : int64? ((page.toInt - 1) * size.toInt) with
    | none => rfl
    | some k =>
        rw [not_positive_iff, not_not] at refused
        have exact_value := int64?_eq_some_iff.mp fits
        exact absurd ⟨refused.1, refused.2, exact_value ▸ k.toInt_le⟩ unpageable

theorem Pageable.pageOf_eq (pageable : Pageable page size) (hotels : List Hotel) :
    Memory.pageOf hotels page size = .ok (onPage hotels page.toInt.toNat size.toInt.toNat) := by
  obtain ⟨offset, computed, exact_value⟩ := pageable.pageOffset_eq
  have first := pageable.first
  have pos := pageable.pos
  have offset_eq : offset.toInt.toNat = (page.toInt.toNat - 1) * size.toInt.toNat := by
    rw [exact_value, Int.toNat_mul (by omega) (by omega)]
    congr 1
    omega
  rw [Memory.pageOf, computed]
  change Except.ok _ = Except.ok _
  rw [offset_eq, take_drop_eq_onPage hotels (by omega)]

theorem pageOf_eq_error (unpageable : ¬ Pageable page size) (hotels : List Hotel) :
    ∃ reason, Memory.pageOf hotels page size = .error (.invalidParameters reason) := by
  rw [Memory.pageOf, pageOffset_eq_error unpageable]
  split_ifs
  · exact ⟨_, rfl⟩
  · exact ⟨_, rfl⟩

end Paging

end HotelBooking
