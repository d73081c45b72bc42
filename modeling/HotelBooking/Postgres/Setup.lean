import HotelBooking.Postgres.Tables
import HotelBooking.Service.Loyalty
import HotelBooking.Service.Payment
import HotelBooking.Service.Reservation

/-!
# Setting up the database

The scripts that make the tables, one for each service, and the services over them. The
scripts are carried out in order, and the first that fails ends the start.
-/

namespace HotelBooking.Postgres

/-- The lines of a script. -/
def script (lines : List String) : String :=
  String.join (lines.map fun line => line ++ "\n")

/-- The catalogue with its first hotel, and the reservations. -/
def reservationScript : String := script [
  "CREATE TABLE IF NOT EXISTS hotels",
  "(",
  "    id        SERIAL PRIMARY KEY,",
  "    hotel_uid UUID         NOT NULL UNIQUE,",
  "    name      VARCHAR(255) NOT NULL,",
  "    country   VARCHAR(80)  NOT NULL,",
  "    city      VARCHAR(80)  NOT NULL,",
  "    address   VARCHAR(255) NOT NULL,",
  "    stars     INT,",
  "    price     INT          NOT NULL",
  ");",
  "",
  "CREATE TABLE IF NOT EXISTS reservation",
  "(",
  "    id              SERIAL PRIMARY KEY,",
  "    reservation_uid UUID UNIQUE NOT NULL,",
  "    username        VARCHAR(80) NOT NULL,",
  "    payment_uid     UUID        NOT NULL,",
  "    hotel_id        INT REFERENCES hotels (id),",
  "    status          VARCHAR(20) NOT NULL",
  "        CHECK (status IN ('PAID', 'CANCELED')),",
  "    start_date      DATE        NOT NULL,",
  "    end_date        DATE        NOT NULL,",
  "    CHECK (start_date <= end_date)",
  ");",
  "",
  "CREATE INDEX IF NOT EXISTS idx_reservation_username ON reservation (username);",
  "",
  "INSERT INTO hotels (id, hotel_uid, name, country, city, address, stars, price)",
  "VALUES (1, '049161bb-badd-4fa8-9d90-87c9a82b0668', 'Ararat Park Hyatt Moscow', " ++
    "'Россия', 'Москва', 'Неглинная ул., 4', 5, 10000)",
  "ON CONFLICT DO NOTHING;",
  "",
  "SELECT setval('hotels_id_seq', (SELECT MAX(id) FROM hotels));"]

/-- The payments. -/
def paymentScript : String := script [
  "CREATE TABLE IF NOT EXISTS payment",
  "(",
  "    id          SERIAL PRIMARY KEY,",
  "    payment_uid UUID        NOT NULL UNIQUE,",
  "    status      VARCHAR(20) NOT NULL",
  "        CHECK (status IN ('PAID', 'CANCELED')),",
  "    price       INT         NOT NULL",
  "        CHECK (price >= 0)",
  ");"]

/-- The loyalty records. -/
def loyaltyScript : String := script [
  "CREATE TABLE IF NOT EXISTS loyalty",
  "(",
  "    id                SERIAL PRIMARY KEY,",
  "    username          VARCHAR(80) NOT NULL UNIQUE,",
  "    reservation_count INT         NOT NULL DEFAULT 0",
  "        CHECK (reservation_count >= 0),",
  "    status            VARCHAR(80) NOT NULL DEFAULT 'BRONZE'",
  "        CHECK (status IN ('BRONZE', 'SILVER', 'GOLD')),",
  "    discount          INT         NOT NULL",
  ");"]

/-- The scripts of the services, in the order in which these start. -/
def scripts : List String := [reservationScript, paymentScript, loyaltyScript]

/-- The scripts carried out before one fails, that one included, and whether none failed. -/
def migrate (fails : String → Bool) : List String → List String × Bool
  | [] => ([], true)
  | s :: ss =>
    if fails s then ([s], false)
    else
      let (done, ok) := migrate fails ss
      (s :: done, ok)

def reservationService : ReservationService Session :=
  { hotels, reservations }

def paymentService : PaymentService Session :=
  { payments }

def loyaltyService : LoyaltyService Session :=
  { loyalty }

end HotelBooking.Postgres
