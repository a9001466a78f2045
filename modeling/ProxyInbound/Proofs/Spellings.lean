import ProxyInbound.Proofs.Json.Spellings
import ProxyInbound.Proofs.Wire.Readings

/-!
# Spelled integers in stored inbounds

An integer of a stored inbound says the same as the text of its digits. Where a truth value or a
sequence of texts is expected the two differ, so an inbound opens as the same form whichever of its
integers are spelled as texts, as long as none of them stands for a truth value or for a sequence
of texts. The items of such a sequence may be spelled like anything else.
-/

namespace ProxyInbound.Conversion

open Json Wire

/-- The places in an inbound at which a truth value is read. -/
def flagPlaces : List (List Place) :=
  [ ["settings", "allowTransparent"], ["settings", "udp"], ["sniffing", "enabled"],
    ["sniffing", "routeOnly"], ["sniffing", "metadataOnly"],
    ["streamSettings", "sockopt", "acceptProxyProtocol"],
    ["streamSettings", "sockopt", "tcpFastOpen"], ["streamSettings", "sockopt", "tcpMptcp"],
    ["streamSettings", "tlsSettings", "rejectUnknownSni"],
    ["streamSettings", "realitySettings", "show"],
    ["streamSettings", "tcpSettings", "acceptProxyProtocol"],
    ["streamSettings", "kcpSettings", "congestion"],
    ["streamSettings", "wsSettings", "acceptProxyProtocol"],
    ["streamSettings", "grpcSettings", "multiMode"],
    ["streamSettings", "httpupgradeSettings", "acceptProxyProtocol"],
    ["streamSettings", "splithttpSettings", "noSSEHeader"],
    ["streamSettings", "dsSettings", "abstract"],
    ["streamSettings", "dsSettings", "padding"] ].map (·.map .member)

/-- The places in an inbound at which a sequence of texts is read. -/
def textsPlaces : List (List Place) :=
  [ [.member "settings", .member "fallbacks", .item, .member "alpn"],
    [.member "sniffing", .member "destOverride"],
    [.member "streamSettings", .member "tlsSettings", .member "alpn"],
    [.member "streamSettings", .member "tlsSettings", .member "certificates", .item,
      .member "certificate"],
    [.member "streamSettings", .member "tlsSettings", .member "certificates", .item,
      .member "key"],
    [.member "streamSettings", .member "realitySettings", .member "serverNames"],
    [.member "streamSettings", .member "realitySettings", .member "shortIds"],
    [.member "streamSettings", .member "tcpSettings", .member "header", .member "request",
      .member "path"],
    [.member "streamSettings", .member "httpSettings", .member "host"] ]

/-- A truth value is read of an inbound at these places and nowhere else. -/
theorem placesOf_flag : placesOfFields .flag inboundReadings = flagPlaces := by
  decide +kernel

/-- A sequence of texts is read of an inbound at these places and nowhere else. -/
theorem placesOf_texts : placesOfFields .texts inboundReadings = textsPlaces := by
  decide +kernel

/-- An inbound opens as the same form with any of its integers spelled as texts, except those that
stand for a truth value or for a sequence of texts themselves. -/
theorem parse_spell {w : Json} {chosen : List Step → Bool}
    (h : ∀ position, chosen position = true →
      position.map Step.place ∉ flagPlaces ∧ position.map Step.place ∉ textsPlaces) :
    parse (w.spell chosen) = parse w := by
  have hspares : Spares chosen (.object inboundReadings) := by
    intro position hchosen
    rw [Reading.placesOf, Reading.placesOf, placesOf_flag, placesOf_texts]
    exact h position hchosen
  exact parse_congr_readings (sameFields_spell inboundReadings (fun _ hf => hspares.member hf) w)

/-- A document with integers of either sign and of any size where texts, words, ranges and headers
are read, in lists, and for a truth value. -/
def integerDocument : Json :=
  object
    [ ("port", integer 443), ("protocol", string "vless"),
      ("settings", object [("fallbacks", array [object
        [("alpn", array [integer 2, integer 3]), ("dest", integer 80), ("xver", integer (-1))]])]),
      ("sniffing", object [("enabled", integer 1)]),
      ("streamSettings", object
        [ ("network", string "splithttp"),
          ("sockopt", object [("mark", integer 18446744073709551615),
            ("tcpKeepAliveIdle", integer 18446744073709551615),
            ("tcpUserTimeout", integer (-7))]),
          ("splithttpSettings", object
            [ ("headers", object [("X-Id", array [integer 0, integer 1]), ("X-No", integer (-1))]),
              ("scMaxEachPostBytes", object [("from", integer 5), ("to", integer 9)]) ]) ]),
      ("tag", integer 18446744073709551615) ]

/-- The positions of most of these integers. -/
def spelledPositions : List (List Step) :=
  [ [.member "port"], [.member "tag"],
    [.member "settings", .member "fallbacks", .item 0, .member "alpn", .item 1],
    [.member "settings", .member "fallbacks", .item 0, .member "dest"],
    [.member "settings", .member "fallbacks", .item 0, .member "xver"],
    [.member "streamSettings", .member "sockopt", .member "mark"],
    [.member "streamSettings", .member "sockopt", .member "tcpKeepAliveIdle"],
    [.member "streamSettings", .member "sockopt", .member "tcpUserTimeout"],
    [.member "streamSettings", .member "splithttpSettings", .member "headers", .member "X-Id",
      .item 0],
    [.member "streamSettings", .member "splithttpSettings", .member "headers", .member "X-No"],
    [.member "streamSettings", .member "splithttpSettings", .member "scMaxEachPostBytes",
      .member "to"] ]

/-- The document opens as the same form with these integers spelled. -/
theorem parse_spell_integerDocument :
    (∀ position ∈ spelledPositions,
      position.map Step.place ∉ flagPlaces ∧ position.map Step.place ∉ textsPlaces) ∧
      integerDocument.spell (fun position => decide (position ∈ spelledPositions)) =
        object
          [ ("port", string "443"), ("protocol", string "vless"),
            ("settings", object [("fallbacks", array [object
              [ ("alpn", array [integer 2, string "3"]), ("dest", string "80"),
                ("xver", string "-1") ]])]),
            ("sniffing", object [("enabled", integer 1)]),
            ("streamSettings", object
              [ ("network", string "splithttp"),
                ("sockopt", object [("mark", string "18446744073709551615"),
                  ("tcpKeepAliveIdle", string "18446744073709551615"),
                  ("tcpUserTimeout", string "-7")]),
                ("splithttpSettings", object
                  [ ("headers", object
                      [("X-Id", array [string "0", integer 1]), ("X-No", string "-1")]),
                    ("scMaxEachPostBytes", object [("from", integer 5), ("to", string "9")]) ]) ]),
            ("tag", string "18446744073709551615") ] ∧
      parse (integerDocument.spell fun position => decide (position ∈ spelledPositions)) =
        parse integerDocument := by
  have hspared : ∀ position ∈ spelledPositions,
      position.map Step.place ∉ flagPlaces ∧ position.map Step.place ∉ textsPlaces := by
    decide +kernel
  exact ⟨hspared, by decide +kernel,
    parse_spell fun position hchosen => hspared position (of_decide_eq_true hchosen)⟩

end ProxyInbound.Conversion
