import HotelBooking.Proofs.Gateway.CallOrder
import HotelBooking.Proofs.Gateway.Views
import HotelBooking.Proofs.Store.Catalogue

/-!
# Looking through the catalogue page by page

The table of hotels, the reservation service and the gateway each check the page that is asked
for. They refuse the same pages, those that are not `Pageable`, and of the others each shows what
the one below it found. So whoever asks for all pages of some size has seen each hotel once.
-/

namespace HotelBooking

/-- The same backend, with a catalogue of these hotels. -/
def Backend.offering (b : Backend) (hotels : List Hotel) : Backend :=
  { b with stores.reservation.hotels := catalogue hotels }

/-- A request that was turned down for what it asked. -/
def Outcome.Refused {α : Type} (o : Outcome α) : Prop :=
  ∃ reason, o = .error (.invalidParameters reason)

/-- Where everything goes well, all of it together does. -/
theorem Outcome.mapM_eq_ok {α β : Type} {f : α → Outcome β} {g : α → β} {l : List α}
    (each : ∀ a ∈ l, f a = .ok (g a)) : l.mapM f = .ok (l.map g) := by
  induction l with
  | nil => rfl
  | cons a l ih =>
      obtain ⟨head, tail⟩ := List.forall_mem_cons.mp each
      rw [List.mapM_cons, head, ih tail]
      rfl

section Table

variable {page size : Int64} (r : ReservationStore)

theorem perform_tablePage :
    (Memory.hotels.page page size).perform r = (Memory.pageOf r.hotels page size, r) := by
  cases found : Memory.pageOf r.hotels page size <;>
    simp [Memory.hotels, Action.perform_bind, found]

/-- The page of a catalogue, where it is one that there can be. -/
def ReservationStore.hotelPage (r : ReservationStore) (page size : Int64) : HotelPage :=
  { page, pageSize := size, totalElements := .ofNat r.hotels.length,
    items := onPage r.hotels page.toInt.toNat size.toInt.toNat }

theorem Pageable.perform_page (pageable : Pageable page size) :
    (Memory.hotels.page page size).perform r = (.ok (r.hotelPage page size).items, r) := by
  rw [perform_tablePage, pageable.pageOf_eq]
  rfl

theorem Pageable.perform_hotelPage (pageable : Pageable page size) :
    (Memory.reservationService.hotelPage page size).perform r =
      (.ok (r.hotelPage page size), r) := by
  rw [Call.perform_hotelPage, if_neg pageable.positive, pageable.pageOf_eq]
  rfl

/-- What the table refuses the service refuses, if not for its own reason then for that one. -/
theorem perform_hotelPage_refused (unpageable : ¬ Pageable page size) :
    ∃ reason, (Memory.reservationService.hotelPage page size).perform r =
      (.error (.invalidParameters reason), r) := by
  rw [Call.perform_hotelPage]
  split_ifs with refused
  · exact ⟨_, rfl⟩
  · obtain ⟨reason, passed_on⟩ := pageOf_eq_error unpageable r.hotels
    rw [passed_on]
    exact ⟨reason, rfl⟩

/-- A page has no hotels exactly if it begins behind the last one. -/
theorem Pageable.isEmpty_iff (pageable : Pageable page size) :
    (r.hotelPage page size).isEmpty = true ↔
      (r.hotels.length : Int) ≤ (page.toInt - 1) * size.toInt := by
  obtain ⟨first, pos, -⟩ := pageable
  obtain ⟨p, page_eq⟩ := Int.eq_ofNat_of_zero_le (show 0 ≤ page.toInt - 1 by omega)
  obtain ⟨k, size_eq⟩ := Int.eq_ofNat_of_zero_le (show 0 ≤ size.toInt by omega)
  have page_toNat : page.toInt.toNat - 1 = p := by omega
  rw [HotelPage.isEmpty, List.isEmpty_iff, ReservationStore.hotelPage,
    onPage_eq_nil_iff (by omega) (by omega), page_toNat, page_eq, size_eq, Int.toNat_natCast]
  exact_mod_cast Iff.rfl

end Table

section Pages

variable {size : Int64} {r : ReservationStore} {i : Nat}

theorem toInt_ofNat_succ (fits : i + 1 < 2 ^ 63) : (Int64.ofNat (i + 1)).toInt = i + 1 := by
  rw [Int64.toInt_ofNat_of_lt fits]
  rfl

/-- All pages that some hotel is on can be asked for. -/
theorem pageable_of_lt_ceilDiv (pos : 1 ≤ size.toInt) (fits : r.hotels.length < 2 ^ 63)
    (within : i < r.hotels.length ⌈/⌉ size.toInt.toNat) :
    i + 1 < 2 ^ 63 ∧ Pageable (.ofNat (i + 1)) size := by
  have pos' : 0 < size.toInt.toNat := by omega
  have before : size.toInt.toNat * i < r.hotels.length := by
    rwa [← not_le, ← ceilDiv_le_iff_le_mul pos', not_le]
  have small : i + 1 < 2 ^ 63 := by
    have : i ≤ size.toInt.toNat * i := Nat.le_mul_of_pos_left i pos'
    omega
  refine ⟨small, ?_, pos, ?_⟩
  · rw [toInt_ofNat_succ small]
    omega
  · have cast : (size.toInt.toNat : Int) = size.toInt := Int.toNat_of_nonneg (by omega)
    have before : size.toInt * i < 2 ^ 63 := by
      rw [← cast]
      exact_mod_cast before.trans fits
    rw [toInt_ofNat_succ small, Int64.toInt_maxValue, add_sub_cancel_right, mul_comm]
    omega

/-- All pages together show the catalogue. -/
theorem perform_pages (pos : 1 ≤ size.toInt) (fits : r.hotels.length < 2 ^ 63) :
    ((List.range (r.hotels.length ⌈/⌉ size.toInt.toNat)).mapM fun i =>
      ((Memory.reservationService.hotelPage (.ofNat (i + 1)) size).perform r).1).map
        (fun pages => pages.flatMap HotelPage.items) = .ok r.hotels := by
  have shown : ((List.range (r.hotels.length ⌈/⌉ size.toInt.toNat)).mapM fun i =>
      ((Memory.reservationService.hotelPage (.ofNat (i + 1)) size).perform r).1) =
      .ok ((List.range (r.hotels.length ⌈/⌉ size.toInt.toNat)).map fun i =>
        r.hotelPage (.ofNat (i + 1)) size) := by
    apply Outcome.mapM_eq_ok
    intro i within
    obtain ⟨-, pageable⟩ := pageable_of_lt_ceilDiv pos fits (List.mem_range.mp within)
    rw [pageable.perform_hotelPage]
  have items : ∀ i ∈ List.range (r.hotels.length ⌈/⌉ size.toInt.toNat),
      (r.hotelPage (.ofNat (i + 1)) size).items = onPage r.hotels (i + 1) size.toInt.toNat := by
    intro i within
    obtain ⟨small, -⟩ := pageable_of_lt_ceilDiv pos fits (List.mem_range.mp within)
    rw [ReservationStore.hotelPage, toInt_ofNat_succ small]
    rfl
  rw [shown, Except.map, List.flatMap_map, List.flatMap_congr items,
    flatMap_onPage_ceilDiv r.hotels (by omega)]

end Pages

namespace Gateway

open Operation

variable {σ : Type} {page size : Int64}

theorem below_one_iff : page < 1 ∨ size < 1 ↔ ¬ (1 ≤ page.toInt ∧ 1 ≤ size.toInt) := by
  have one : (1 : Int64).toInt = 1 := rfl
  rw [Int64.lt_iff_toInt_lt, Int64.lt_iff_toInt_lt, one]
  omega

/-- A page below the first one is turned down before any service is asked. -/
theorem readHotels_below_one (below : page < 1 ∨ size < 1) :
    readHotels page size = throw (.pageBelowOne page size) := by
  rw [readHotels, if_pos below]
  rfl

theorem answered_readHotels (b : Backend) (counted : ¬ (page < 1 ∨ size < 1)) :
    (readHotels page size).answered b =
      ((Memory.reservationService.hotelPage page size).perform b.stores.reservation).1.map
        fun listing => if listing.isEmpty then .empty else .page (.ofHotelPage listing) := by
  rw [answered_of_reads (reads_readHotels page size), readHotels, if_neg counted]
  change seen b.stores (_ >>= _) = _
  rw [seen_bind, seen_ask, Call.served_listHotels, Call.perform_hotelPage]
  rfl

/-- What the service refuses is refused to the guest as well. -/
theorem refused_readHotels (b : Backend) (unpageable : ¬ Pageable page size) :
    ((readHotels page size).answered b).Refused := by
  by_cases below : page < 1 ∨ size < 1
  · rw [readHotels_below_one below]
    exact ⟨_, rfl⟩
  · obtain ⟨reason, refused⟩ := perform_hotelPage_refused b.stores.reservation unpageable
    rw [answered_readHotels b below, refused]
    exact ⟨reason, rfl⟩

theorem answered_pageable (b : Backend) (pageable : Pageable page size) :
    (readHotels page size).answered b =
      .ok (if (b.stores.reservation.hotels.length : Int) ≤ (page.toInt - 1) * size.toInt then .empty
        else .page (.ofHotelPage (b.stores.reservation.hotelPage page size))) := by
  have counted : ¬ (page < 1 ∨ size < 1) := by
    rw [below_one_iff, not_not]
    exact ⟨pageable.first, pageable.pos⟩
  rw [answered_readHotels b counted, pageable.perform_hotelPage, Except.map]
  simp only [pageable.isEmpty_iff]

/-- The catalogue has the hotels it was given, by number, and those of one number as they were
given. A page shows what is at its positions, to the guest as an offer; all pages of a size are
the catalogue, and there is nothing behind them. Other pages are refused, wherever they are asked
for, and no number wraps around. The hotels can be counted in 64 bits, as in any memory. -/
theorem pages_partition_catalogue (b : Backend) (hotels : List Hotel)
    (fits : hotels.length < 2 ^ 63) :
    let stored := catalogue hotels
    let r := (b.offering hotels).stores.reservation
    let table (page size : Int64) := (Memory.hotels.page page size).perform r
    let service (page size : Int64) := (Memory.reservationService.hotelPage page size).perform r
    let gateway (page size : Int64) := (readHotels page size).answered (b.offering hotels)
    (stored.Perm hotels ∧ stored.Pairwise (·.id ≤ ·.id) ∧
      ∀ id, stored.filter (·.id = id) = hotels.filter (·.id = id)) ∧
    (∀ page size, Pageable page size →
      let items := onPage stored page.toInt.toNat size.toInt.toNat
      let shown : HotelPage :=
        { page, pageSize := size, totalElements := .ofNat hotels.length, items }
      shown.totalElements.toInt = hotels.length ∧
      table page size = (.ok items, r) ∧
      service page size = (.ok shown, r) ∧
      gateway page size = .ok (if (hotels.length : Int) ≤ (page.toInt - 1) * size.toInt
        then .empty else .page (.ofHotelPage shown))) ∧
    (∀ size : Int64, 1 ≤ size.toInt →
      let last := hotels.length ⌈/⌉ size.toInt.toNat
      (∀ i < last, (Int64.ofNat (i + 1)).toInt = i + 1) ∧
      ((List.range last).mapM fun i => (service (.ofNat (i + 1)) size).1).map
        (fun pages => pages.flatMap HotelPage.items) = .ok stored ∧
      ∀ page, Pageable page size → last < page.toInt → table page size = (.ok [], r)) ∧
    (∀ page size, ¬ Pageable page size →
      (table page size).1.Refused ∧ (service page size).1.Refused ∧
      (gateway page size).Refused) ∧
    (∀ page : Int64, 1 ≤ page.toInt → (page - 1).toInt = page.toInt - 1) ∧
    ∀ page size, page < 1 ∨ size < 1 → ∀ (σ : Type) (h : Handler σ) (s : σ),
      (readHotels page size).run.exchanges h s = [] ∧
      ((readHotels page size).run.run h s).value = .error (.pageBelowOne page size) := by
  intro stored r table service gateway
  have count : stored.length = hotels.length := length_catalogue hotels
  have fits' : r.hotels.length < 2 ^ 63 := count.trans_lt fits
  refine ⟨⟨catalogue_perm hotels, catalogue_sorted hotels, catalogue_stable hotels⟩, ?_, ?_, ?_,
    fun _ => toInt_page_sub_one, ?_⟩
  · intro page size pageable items shown
    have shown_eq : r.hotelPage page size = shown := by
      rw [ReservationStore.hotelPage, show r.hotels.length = hotels.length from count]
      rfl
    refine ⟨Int64.toInt_ofNat_of_lt fits, pageable.perform_page r, ?_, ?_⟩
    · exact shown_eq ▸ pageable.perform_hotelPage r
    · rw [← count, ← shown_eq]
      exact answered_pageable (b.offering hotels) pageable
  · intro size pos last
    have last_eq : r.hotels.length ⌈/⌉ size.toInt.toNat = last := by
      rw [show r.hotels.length = hotels.length from count]
    refine ⟨?_, last_eq ▸ perform_pages pos fits', ?_⟩
    · intro i within
      exact toInt_ofNat_succ (pageable_of_lt_ceilDiv pos fits' (last_eq ▸ within)).1
    · intro page pageable past
      have none : onPage r.hotels page.toInt.toNat size.toInt.toNat = [] :=
        onPage_of_ceilDiv_lt (by omega) (by omega)
      exact (pageable.perform_page r).trans (by rw [ReservationStore.hotelPage, none])
  · intro page size unpageable
    refine ⟨?_, ?_, refused_readHotels _ unpageable⟩
    · obtain ⟨reason, refused⟩ := pageOf_eq_error unpageable r.hotels
      exact ⟨reason, (congrArg Prod.fst (perform_tablePage r)).trans refused⟩
    · obtain ⟨reason, refused⟩ := perform_hotelPage_refused r unpageable
      exact ⟨reason, congrArg Prod.fst refused⟩
  · intro page size below σ h s
    rw [readHotels_below_one below]
    exact ⟨rfl, rfl⟩

/-- Three hotels, two of them under one number, on pages of two. -/
theorem three_hotels_on_two_pages :
    let hotel (id : Int32) (name : String) : Hotel := { demoHotel with id, name }
    let hotels := [hotel 7 "North", hotel 3 "South", hotel 7 "East"]
    let b := Backend.offering ⟨{}, { stream := .ofNat }⟩ hotels
    let answer (page size : Int64) := (readHotels page size).answered b
    hotels.length < 2 ^ 63 ∧
    catalogue hotels = [hotel 3 "South", hotel 7 "North", hotel 7 "East"] ∧
    (∃ p, answer 2 2 = .ok (.page p) ∧ p.items.map Offer.name = ["East"]) ∧
    answer 3 2 = .ok .empty ∧
    (answer 0 2).Refused ∧ (answer Int64.maxValue 3).Refused := by
  intro hotel hotels b answer
  have fits : hotels.length < 2 ^ 63 := by decide
  have stored : catalogue hotels = [hotel 3 "South", hotel 7 "North", hotel 7 "East"] := by
    simp [hotels, hotel, catalogue, List.mergeSort, List.MergeSort.Internal.splitInTwo]
  obtain ⟨-, shown, -, refused, -⟩ :=
    pages_partition_catalogue ⟨{}, { stream := .ofNat }⟩ hotels fits
  obtain ⟨-, -, -, second⟩ := shown 2 2 (by decide)
  obtain ⟨-, -, -, third⟩ := shown 3 2 (by decide)
  rw [stored] at second
  refine ⟨fits, stored, ⟨_, second, by decide⟩, third, ?_, ?_⟩
  · exact (refused 0 2 (by decide)).2.2
  · exact (refused Int64.maxValue 3 (by decide)).2.2

end Gateway

end HotelBooking
