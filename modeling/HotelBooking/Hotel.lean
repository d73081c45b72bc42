import HotelBooking.Uid

/-!
# Hotels

A hotel of the catalogue, with the price of one night, and a page of the catalogue.
-/

namespace HotelBooking

open Draft (Field)

structure Hotel where
  id : Int32
  uid : Uid
  name : String
  country : String
  city : String
  address : String
  stars : Int32
  price : Int32
  deriving DecidableEq, Inhabited

namespace Hotel

/-- Country, city and address in one line. -/
def fullAddress (h : Hotel) : String :=
  h.country ++ ", " ++ h.city ++ ", " ++ h.address

def fields : List Field :=
  [.of Int32 "id", .of Uid "hotelUid", .of String "name", .of String "country",
    .of String "city", .of String "address", .of Int32 "stars", .of Int32 "price"]

instance : Wire Hotel where
  toJson h := .object [
    ("id", Wire.toJson h.id), ("hotelUid", Wire.toJson h.uid), ("name", Wire.toJson h.name),
    ("country", Wire.toJson h.country), ("city", Wire.toJson h.city),
    ("address", Wire.toJson h.address), ("stars", Wire.toJson h.stars),
    ("price", Wire.toJson h.price)]
  read d := do
    let r ← d.readRecord fields
    return {
      id := ← r.get "id"
      uid := ← r.get "hotelUid"
      name := ← r.get "name"
      country := ← r.get "country"
      city := ← r.get "city"
      address := ← r.get "address"
      stars := ← r.get "stars"
      price := ← r.get "price" }

end Hotel

/-- A page of the catalogue; `totalElements` counts the whole of it. -/
structure HotelPage where
  page : Int64
  pageSize : Int64
  totalElements : Int64
  items : List Hotel
  deriving DecidableEq, Inhabited

namespace HotelPage

def isEmpty (p : HotelPage) : Bool :=
  p.items.isEmpty

def fields : List Field :=
  [.of Int64 "page", .of Int64 "pageSize", .of Int64 "totalElements", .of (List Hotel) "items"]

instance : Wire HotelPage where
  toJson p := .object [
    ("page", Wire.toJson p.page), ("pageSize", Wire.toJson p.pageSize),
    ("totalElements", Wire.toJson p.totalElements), ("items", Wire.toJson p.items)]
  read d := do
    let r ← d.readRecord fields
    return {
      page := ← r.get "page"
      pageSize := ← r.get "pageSize"
      totalElements := ← r.get "totalElements"
      items := ← r.get "items" }

end HotelPage

end HotelBooking
