import ProxyInbound.Json.Record

/-!
# Form fields of the protocols and of sniffing

A group of fields that only one protocol uses keeps its values while another protocol is selected.
-/

namespace ProxyInbound

open Json

/-- The fields of a Shadowsocks inbound. -/
structure ShadowsocksForm where
  /-- The cipher. -/
  method : String
  /-- The password of the server. -/
  password : String
  /-- The networks that are served. -/
  network : String
  deriving DecidableEq, Repr

namespace ShadowsocksForm

/-- The fields by name, in their order. -/
def slots : List (Slot ShadowsocksForm) :=
  [ .text "ssMethod" (·.method)
      (fun v r => { r with method := v }),
    .text "ssPassword" (·.password)
      (fun v r => { r with password := v }),
    .text "ssNetwork" (·.network)
      (fun v r => { r with network := v }) ]

/-- What a new form holds. -/
def template : ShadowsocksForm where
  method := "2022-blake3-aes-128-gcm"
  password := ""
  network := "tcp,udp"

end ShadowsocksForm

/-- The fields of a SOCKS inbound beside its accounts. -/
structure SocksForm where
  /-- How clients authenticate. -/
  auth : String
  /-- Whether UDP is relayed. -/
  udp : Bool
  /-- The address announced for UDP. -/
  ip : String
  deriving DecidableEq, Repr

namespace SocksForm

/-- The fields by name, in their order. -/
def slots : List (Slot SocksForm) :=
  [ .text "socksAuth" (·.auth)
      (fun v r => { r with auth := v }),
    .flag "socksUdp" (·.udp)
      (fun v r => { r with udp := v }),
    .text "socksIp" (·.ip)
      (fun v r => { r with ip := v }) ]

/-- What a new form holds. -/
def template : SocksForm where
  auth := "noauth"
  udp := false
  ip := ""

end SocksForm

/-- The fields that say how destinations are sniffed. -/
structure SniffingForm where
  /-- Whether traffic is sniffed. -/
  enabled : Bool
  /-- The kinds of traffic whose destination is taken over. -/
  destinations : List String
  /-- Whether the sniffed destination is used for routing only. -/
  routeOnly : Bool
  /-- Whether only metadata is looked at. -/
  metadataOnly : Bool
  deriving DecidableEq, Repr

namespace SniffingForm

/-- The fields by name, in their order. -/
def slots : List (Slot SniffingForm) :=
  [ .flag "sniffingEnabled" (·.enabled)
      (fun v r => { r with enabled := v }),
    .texts "sniffingDestinations" (·.destinations)
      (fun v r => { r with destinations := v }),
    .flag "sniffingRouteOnly" (·.routeOnly)
      (fun v r => { r with routeOnly := v }),
    .flag "sniffingMetadataOnly" (·.metadataOnly)
      (fun v r => { r with metadataOnly := v }) ]

/-- What a new form holds. -/
def template : SniffingForm where
  enabled := true
  destinations := ["http", "tls"]
  routeOnly := false
  metadataOnly := false

end SniffingForm

end ProxyInbound
