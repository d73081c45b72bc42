import HotelBooking.Error
import HotelBooking.Hotel
import HotelBooking.Loyalty
import HotelBooking.Payment
import HotelBooking.Proofs.Date.Text
import HotelBooking.Proofs.Json.Tolerant
import HotelBooking.Proofs.Uid
import HotelBooking.Reservation
import HotelBooking.View.Booking
import HotelBooking.View.Catalogue
import HotelBooking.View.Guest

/-!
# Values arrive as they were sent

A type travels faithfully if reading the draft of what is written for a value gives the value.
Every tolerant type does, and everything that the services and the gateway send one another and
their callers is of a tolerant type: each record has as many members as fields, in the order
of these, and the texts in it are read back by the parsers of their types.
-/

namespace HotelBooking

class Wire.Faithful (α : Type) [Wire α] : Prop where
  read_draft (a : α) : Wire.read (Wire.toJson a).draft = .ok a

attribute [simp] Wire.Faithful.read_draft

namespace Wire

section Texts

variable {α : Type} [Wire α]

instance [Tolerant α] : Faithful α where
  read_draft a := Tolerant.read_told a _ (Json.tells_draft _)

/-- The text that is sent for a value is read as that value. -/
@[simp] theorem ofText_toText [Faithful α] (a : α) : ofText (toText a) = .ok a := by
  simp only [ofText, toText, Draft.ofText_render, Faithful.read_draft]
  rfl

variable [Tolerant α]

/-- Every text is read as a value that tells it, with blanks behind it at most. -/
theorem ofText_told {a : α} {text : String} {d : Draft} {rest : List Char}
    (parsed : Draft.ofText text = (d, some rest)) (blank : rest.all Draft.isSpace)
    (told : d.Tells (toJson a)) : ofText text = .ok a := by
  rw [ofText, parsed]
  change (do let a ← read d; if rest.all Draft.isSpace then _ else _) = _
  rw [Tolerant.read_told a d told, blank]
  rfl

end Texts

/-! ## Texts and words of their own types -/

instance : Tolerant Uid where
  read_told u _ told := readText_told told (Uid.ofText?_toText u)

instance : Tolerant Date where
  read_told d _ told := readText_told told (Date.ofText?_toText .spaced d)

instance : Tolerant BookingStatus where
  read_told s _ told := readWord_told told (BookingStatus.ofWord?_word s)

instance : Tolerant Tier where
  read_told t _ told := readWord_told told (Tier.ofWord?_word t)

/-- The tier of a guest without a record is sent as null. -/
instance : Tolerant (Option Tier) where
  read_told o d told := by
    cases o with
    | none =>
        cases told
        rfl
    | some t =>
        cases told
        cases t <;> rfl

end Wire

/-! ## Records -/

open Draft (Fits)
open Draft.Field (takes_of)
open Wire (Tolerant)

instance : Tolerant HotelInfo where
  read_told v d told := by
    refine Fits.read ⟨by simp [HotelInfo.fields, takes_of], by decide⟩ told ?_
    rintro r ⟨uid, name, address, stars, -⟩
    simp only [uid.get, name.get, address.get, stars.get]
    rfl

instance : Tolerant PaymentInfo where
  read_told v d told := by
    refine Fits.read ⟨by simp [PaymentInfo.fields, takes_of], by decide⟩ told ?_
    rintro r ⟨status, price, -⟩
    simp only [status.get, price.get]
    rfl

instance : Tolerant Hotel where
  read_told v d told := by
    refine Fits.read ⟨by simp [Hotel.fields, takes_of], by decide⟩ told ?_
    rintro r ⟨number, uid, name, country, city, address, stars, price, -⟩
    simp only [number.get, uid.get, name.get, country.get, city.get, address.get, stars.get,
      price.get]
    rfl

instance : Tolerant HotelPage where
  read_told v d told := by
    refine Fits.read ⟨by simp [HotelPage.fields, takes_of], by decide⟩ told ?_
    rintro r ⟨page, pageSize, total, items, -⟩
    simp only [page.get, pageSize.get, total.get, items.get]
    rfl

instance : Tolerant Reservation where
  read_told v d told := by
    refine Fits.read ⟨by simp [Reservation.fields, takes_of], by decide⟩ told ?_
    rintro r ⟨number, uid, username, paymentUid, hotelId, status, first, last, -⟩
    simp only [number.getD, uid.get, username.get, paymentUid.get, hotelId.get, status.get,
      first.get, last.get]
    rfl

instance : Tolerant Payment where
  read_told v d told := by
    refine Fits.read ⟨by simp [Payment.fields, takes_of], by decide⟩ told ?_
    rintro r ⟨number, uid, status, price, -⟩
    simp only [number.getD, uid.get, status.get, price.get]
    rfl

instance : Tolerant Loyalty where
  read_told v d told := by
    refine Fits.read ⟨by simp [Loyalty.fields, takes_of], by decide⟩ told ?_
    rintro r ⟨number, username, count, status, discount, -⟩
    simp only [number.getD, username.get, count.get, status.get, discount.get]
    rfl

instance : Tolerant BookingRequest where
  read_told v d told := by
    refine Fits.read ⟨by simp [BookingRequest.fields, takes_of], by decide⟩ told ?_
    rintro r ⟨uid, first, last, -⟩
    simp only [uid.getD, first.getD, last.getD]
    rfl

instance : Tolerant ChargeRequest where
  read_told v d told := by
    refine Fits.read ⟨by simp [ChargeRequest.fields, takes_of], by decide⟩ told ?_
    rintro r ⟨price, -⟩
    simp only [price.get]
    rfl

instance : Tolerant Offer where
  read_told v d told := by
    refine Fits.read ⟨by simp [Offer.fields, takes_of], by decide⟩ told ?_
    rintro r ⟨uid, name, country, city, address, stars, price, -⟩
    simp only [uid.get, name.get, country.get, city.get, address.get, stars.get, price.get]
    rfl

instance : Tolerant OfferPage where
  read_told v d told := by
    refine Fits.read ⟨by simp [OfferPage.fields, takes_of], by decide⟩ told ?_
    rintro r ⟨page, pageSize, total, items, -⟩
    simp only [page.get, pageSize.get, total.get, items.get]
    rfl

instance : Tolerant BookingView where
  read_told v d told := by
    refine Fits.read ⟨by simp [BookingView.fields, takes_of], by decide⟩ told ?_
    rintro r ⟨uid, hotel, first, last, status, payment, -⟩
    simp only [uid.get, hotel.get, first.get, last.get, status.get, payment.get]
    rfl

instance : Tolerant BookingReceipt where
  read_told v d told := by
    refine Fits.read ⟨by simp [BookingReceipt.fields, takes_of], by decide⟩ told ?_
    rintro r ⟨uid, hotelUid, first, last, discount, status, payment, -⟩
    simp only [uid.get, hotelUid.get, first.get, last.get, discount.get, status.get, payment.get]
    rfl

instance : Tolerant LoyaltySummary where
  read_told v d told := by
    refine Fits.read ⟨by simp [LoyaltySummary.fields, takes_of], by decide⟩ told ?_
    rintro r ⟨status, discount, count, -⟩
    simp only [status.getD, discount.get, count.get]
    rfl

instance : Tolerant GuestSummary where
  read_told v d told := by
    refine Fits.read ⟨by simp [GuestSummary.fields, takes_of], by decide⟩ told ?_
    rintro r ⟨reservations, loyalty, -⟩
    simp only [reservations.get, loyalty.get]
    rfl

instance : Tolerant FieldError where
  read_told v d told := by
    refine Fits.read ⟨by simp [FieldError.fields, takes_of], by decide⟩ told ?_
    rintro r ⟨field, error, -⟩
    simp only [field.get, error.get]
    rfl

instance : Tolerant ValidationReport where
  read_told v d told := by
    refine Fits.read ⟨by simp [ValidationReport.fields, takes_of], by decide⟩ told ?_
    rintro r ⟨message, errors, -⟩
    simp only [message.get, errors.get]
    rfl

instance : Tolerant ErrorNote where
  read_told v d told := by
    refine Fits.read ⟨by simp [ErrorNote.fields, takes_of], by decide⟩ told ?_
    rintro r ⟨message, -⟩
    simp only [message.get]
    rfl

/-! ## Everything that is sent -/

namespace Wire

/-- The values of the type are read from the text that is sent for them, and from every text
that tells the same: from that of every rearranged and extended value, and however such a text
is set out. -/
structure Travels (α : Type) [Wire α] : Prop where
  sent : ∀ v : α, ofText (toText v) = .ok v
  rearranged : ∀ (v : α) (j : Json), j.draft.Tells (toJson v) → ofText j.render = .ok v
  retold : ∀ (v : α) (text : String) (d : Draft) (rest : List Char),
    Draft.ofText text = (d, some rest) → rest.all Draft.isSpace → d.Tells (toJson v) →
      ofText text = .ok v

theorem travels {α : Type} [Wire α] [Tolerant α] : Travels α where
  sent := ofText_toText
  rearranged _ j told := ofText_told (Draft.ofText_render j) rfl told
  retold _ _ _ _ parsed blank told := ofText_told parsed blank told

/-- Everything that the services, the gateway and the guests send one another travels: the
rows of the services, what guests ask for and are shown, and the bodies of errors. -/
theorem everything_travels :
    (Travels Hotel ∧ Travels HotelPage ∧ Travels Reservation ∧ Travels (List Reservation) ∧
      Travels Payment ∧ Travels Loyalty) ∧
    (Travels BookingRequest ∧ Travels ChargeRequest) ∧
    (Travels Offer ∧ Travels OfferPage ∧ Travels HotelInfo ∧ Travels PaymentInfo ∧
      Travels BookingView ∧ Travels (List BookingView) ∧ Travels BookingReceipt ∧
      Travels LoyaltySummary ∧ Travels GuestSummary) ∧
    Travels FieldError ∧ Travels ValidationReport ∧ Travels ErrorNote :=
  ⟨⟨travels, travels, travels, travels, travels, travels⟩, ⟨travels, travels⟩,
    ⟨travels, travels, travels, travels, travels, travels, travels, travels, travels⟩,
    travels, travels, travels⟩

end Wire

end HotelBooking
