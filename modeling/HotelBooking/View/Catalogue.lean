import HotelBooking.Hotel

/-!
# The catalogue as guests see it

An offer is a hotel without its number in the catalogue; a page of offers shows a page
of the catalogue.
-/

namespace HotelBooking

open Draft (Field)

structure Offer where
  hotelUid : Uid
  name : String
  country : String
  city : String
  address : String
  stars : Int32
  price : Int32
  deriving DecidableEq, Inhabited

namespace Offer

def ofHotel (h : Hotel) : Offer :=
  { hotelUid := h.uid, name := h.name, country := h.country, city := h.city,
    address := h.address, stars := h.stars, price := h.price }

def fields : List Field :=
  [.of Uid "hotelUid", .of String "name", .of String "country", .of String "city",
    .of String "address", .of Int32 "stars", .of Int32 "price"]

instance : Wire Offer where
  toJson o := .object [
    ("hotelUid", Wire.toJson o.hotelUid), ("name", Wire.toJson o.name),
    ("country", Wire.toJson o.country), ("city", Wire.toJson o.city),
    ("address", Wire.toJson o.address), ("stars", Wire.toJson o.stars),
    ("price", Wire.toJson o.price)]
  read d := do
    let r ← d.readRecord fields
    return {
      hotelUid := ← r.get "hotelUid"
      name := ← r.get "name"
      country := ← r.get "country"
      city := ← r.get "city"
      address := ← r.get "address"
      stars := ← r.get "stars"
      price := ← r.get "price" }

end Offer

structure OfferPage where
  page : Int64
  pageSize : Int64
  totalElements : Int64
  items : List Offer
  deriving DecidableEq, Inhabited

namespace OfferPage

def ofHotelPage (p : HotelPage) : OfferPage :=
  { page := p.page, pageSize := p.pageSize, totalElements := p.totalElements,
    items := p.items.map Offer.ofHotel }

def fields : List Field :=
  [.of Int64 "page", .of Int64 "pageSize", .of Int64 "totalElements", .of (List Offer) "items"]

instance : Wire OfferPage where
  toJson p := .object [
    ("page", Wire.toJson p.page), ("pageSize", Wire.toJson p.pageSize),
    ("totalElements", Wire.toJson p.totalElements), ("items", Wire.toJson p.items)]
  read d := do
    let r ← d.readRecord fields
    return {
      page := ← r.get "page"
      pageSize := ← r.get "pageSize"
      totalElements := ← r.get "totalElements"
      items := ← r.get "items" }

end OfferPage

/-- What a listing shows; a page past the end is empty and no error. -/
inductive HotelListing where
  | empty
  | page (p : OfferPage)
  deriving DecidableEq, Inhabited

end HotelBooking
