import HotelBooking.Config.Settings
import HotelBooking.FanOut
import HotelBooking.Http.Target
import HotelBooking.Postgres.Setup
import HotelBooking.Routes.Gateway
import HotelBooking.Routes.Platform
import HotelBooking.Proofs.Gateway.Accounting
import HotelBooking.Proofs.Gateway.Atomicity
import HotelBooking.Proofs.Gateway.CallOrder
import HotelBooking.Proofs.Gateway.Charging
import HotelBooking.Proofs.Gateway.Canceling
import HotelBooking.Proofs.Gateway.Compensating
import HotelBooking.Proofs.Store.Growth
import HotelBooking.Proofs.Gateway.Keeping
import HotelBooking.Proofs.Gateway.Privacy
import HotelBooking.Proofs.Gateway.Racing
import HotelBooking.Proofs.Gateway.Relayed
import HotelBooking.Proofs.Gateway.Views
import HotelBooking.Proofs.Service.Records
import HotelBooking.Proofs.Client.ReadingBack
import HotelBooking.Proofs.Routes.Replacing
import HotelBooking.Proofs.Date.Grammar
import HotelBooking.Proofs.FanOut
import HotelBooking.Proofs.Uid.Grammar
import HotelBooking.Proofs.StayRequest.Rules
import HotelBooking.Proofs.Store.Catalogue
import HotelBooking.Proofs.Gateway.Paging
import HotelBooking.Proofs.Gateway.Pricing
import HotelBooking.Proofs.Pricing.Discount
import HotelBooking.Proofs.Postgres.Tables
import HotelBooking.Proofs.Routes.Discretion
