import ProxyInbound.Conversion
import ProxyInbound.Proofs.Json.Readings

/-!
# What is read of stored inbounds

The members that each section of a stored inbound is read from, with what each is read as. A section
of two documents in which these members are read the same is the same section, so two inbounds whose
members are read the same open as the same form.
-/

namespace ProxyInbound.Wire

open Json

/-! ## Protocol settings, sniffing and socket options -/

/-- The members of a stored fallback. -/
def Fallback.readings : List (String × Reading) :=
  [ ("dest", .leaf .text), ("path", .leaf .text), ("type", .leaf .text), ("alpn", .leaf .texts),
    ("xver", .leaf .word) ]

/-- The members of a stored account. -/
def Account.readings : List (String × Reading) :=
  [("user", .leaf .text), ("pass", .leaf .text)]

/-- The members of stored protocol settings, those of every protocol. -/
def Settings.readings : List (String × Reading) :=
  [ ("decryption", .leaf .text), ("fallbacks", .objects Fallback.readings),
    ("method", .leaf .text), ("password", .leaf .text), ("network", .leaf .text),
    ("accounts", .objects Account.readings), ("allowTransparent", .leaf .flag),
    ("auth", .leaf .text), ("udp", .leaf .flag), ("ip", .leaf .text) ]

/-- The members of a stored sniffing block. -/
def Sniffing.readings : List (String × Reading) :=
  [ ("enabled", .leaf .flag), ("destOverride", .leaf .texts), ("routeOnly", .leaf .flag),
    ("metadataOnly", .leaf .flag) ]

/-- The members of stored socket options. -/
def Sockopt.readings : List (String × Reading) :=
  [ ("acceptProxyProtocol", .leaf .flag), ("tcpFastOpen", .leaf .flag), ("mark", .leaf .word),
    ("tproxy", .leaf .text), ("tcpMptcp", .leaf .flag), ("domainStrategy", .leaf .text),
    ("tcpKeepAliveInterval", .leaf .signedWord), ("tcpKeepAliveIdle", .leaf .signedWord),
    ("tcpUserTimeout", .leaf .signedWord), ("tcpcongestion", .leaf .text),
    ("interface", .leaf .text) ]

section Congruence

variable {v v' : Json}

/-- A fallback depends on its members. -/
theorem Fallback.ofStored_congr (h : SameFields Fallback.readings v v') :
    Fallback.ofStored v = Fallback.ofStored v' := by
  simp only [readings, SameFields, Reading.Same, Leaf.Same] at h
  simp only [ofStored, textAt?, textsAt, textsAt?, wordAt?, h]

/-- An account depends on its members. -/
theorem Account.ofStored?_congr (h : SameFields Account.readings v v') :
    Account.ofStored? v = Account.ofStored? v' := by
  simp only [readings, SameFields, Reading.Same, Leaf.Same] at h
  simp only [ofStored?, textAt?, h]

/-- A list of fallbacks depends on the objects in it. -/
theorem Fallback.listStored_congr
    (h : (Reading.objects Fallback.readings).Same (v.get? "fallbacks") (v'.get? "fallbacks")) :
    Fallback.listStored v = Fallback.listStored v' :=
  map_objectItems_congr Fallback.ofStored_congr h

/-- The accounts of a list are those of the objects in it. -/
theorem Account.listStored_eq (v : Json) :
    Account.listStored v =
      ((objectItems (v.get? "accounts")).map Account.ofStored?).filterMap id := by
  rw [listStored, objectItems, List.filterMap_map, List.filterMap_filter]
  refine List.filterMap_congr fun item _ => ?_
  cases item <;> rfl

/-- A list of accounts depends on the objects in it. -/
theorem Account.listStored_congr
    (h : (Reading.objects Account.readings).Same (v.get? "accounts") (v'.get? "accounts")) :
    Account.listStored v = Account.listStored v' := by
  rw [listStored_eq, listStored_eq, map_objectItems_congr Account.ofStored?_congr h]

/-- The settings of a protocol depend on their members. -/
theorem Settings.ofStored_congr (p : Protocol) (h : SameFields Settings.readings v v') :
    Settings.ofStored p v = Settings.ofStored p v' := by
  have hfallbacks : Fallback.listStored v = Fallback.listStored v' :=
    Fallback.listStored_congr (h.same (by simp [readings]))
  have haccounts : Account.listStored v = Account.listStored v' :=
    Account.listStored_congr (h.same (by simp [readings]))
  simp only [readings, SameFields, Reading.Same, Leaf.Same] at h
  cases p with
  | vmess => rfl
  | vless => simp only [ofStored, textAt?, hfallbacks, h]
  | trojan => simp only [ofStored, hfallbacks]
  | shadowsocks => simp only [ofStored, textAt?, h]
  | http => simp only [ofStored, flagAt?, haccounts, h]
  | socks => simp only [ofStored, textAt?, flagAt?, haccounts, h]

/-- What a sniffing block fills in depends on its members. -/
theorem Sniffing.fillStored_congr (h : SameFields Sniffing.readings v v') :
    Sniffing.fillStored v = Sniffing.fillStored v' := by
  simp only [readings, SameFields, Reading.Same, Leaf.Same] at h
  funext f
  simp only [fillStored, flagAt?, textsAt?, h]

/-- Socket options depend on their members. -/
theorem Sockopt.ofStored_congr (h : SameFields Sockopt.readings v v') :
    Sockopt.ofStored v = Sockopt.ofStored v' := by
  simp only [readings, SameFields, Reading.Same, Leaf.Same] at h
  simp only [ofStored, textAt?, flagAt?, wordAt?, signedWordAt?, h]

end Congruence

/-! ## Securities -/

/-- The members of a stored certificate. -/
def Certificate.readings : List (String × Reading) :=
  [ ("certificateFile", .leaf .text), ("keyFile", .leaf .text), ("certificate", .leaf .texts),
    ("key", .leaf .texts) ]

/-- The members of stored settings of TLS. -/
def Tls.readings : List (String × Reading) :=
  [ ("serverName", .leaf .text), ("alpn", .leaf .texts), ("minVersion", .leaf .text),
    ("maxVersion", .leaf .text), ("rejectUnknownSni", .leaf .flag),
    ("certificates", .objects Certificate.readings) ]

/-- The members of stored parameters of REALITY clients. -/
def RealityClient.readings : List (String × Reading) :=
  [("publicKey", .leaf .text), ("fingerprint", .leaf .text), ("spiderX", .leaf .text)]

/-- The members of stored settings of REALITY. -/
def Reality.readings : List (String × Reading) :=
  [ ("show", .leaf .flag), ("dest", .leaf .text), ("target", .leaf .text), ("xver", .leaf .word),
    ("serverNames", .leaf .texts), ("privateKey", .leaf .text), ("minClientVer", .leaf .text),
    ("maxClientVer", .leaf .text), ("maxTimeDiff", .leaf .word), ("shortIds", .leaf .texts),
    ("settings", .object RealityClient.readings) ]

section Congruence

variable {v v' : Json}

/-- A certificate depends on its members. -/
theorem Certificate.ofStored_congr (h : SameFields Certificate.readings v v') :
    Certificate.ofStored v = Certificate.ofStored v' := by
  simp only [readings, SameFields, Reading.Same, Leaf.Same] at h
  simp only [ofStored, textAt?, textsAt, textsAt?, h]

/-- The settings of TLS depend on their members. -/
theorem Tls.ofStored_congr (h : SameFields Tls.readings v v') :
    Tls.ofStored v = Tls.ofStored v' := by
  have hsame : (Reading.objects Certificate.readings).Same (v.get? "certificates")
      (v'.get? "certificates") := h.same (by simp [readings])
  have hcertificates : ((v.itemsAt "certificates").filter isObject).map Certificate.ofStored =
      ((v'.itemsAt "certificates").filter isObject).map Certificate.ofStored :=
    map_objectItems_congr Certificate.ofStored_congr hsame
  simp only [readings, SameFields, Reading.Same, Leaf.Same] at h
  simp only [ofStored, textAt?, textsAt, textsAt?, flagAt?, hcertificates, h]

/-- The parameters of REALITY clients depend on their members. -/
theorem RealityClient.ofStored_congr (h : SameFields RealityClient.readings v v') :
    RealityClient.ofStored v = RealityClient.ofStored v' := by
  simp only [readings, SameFields, Reading.Same, Leaf.Same] at h
  simp only [ofStored, textAt?, h]

/-- The settings of REALITY depend on their members. -/
theorem Reality.ofStored_congr (h : SameFields Reality.readings v v') :
    Reality.ofStored v = Reality.ofStored v' := by
  have hclient : (v.objectAt? "settings").map RealityClient.ofStored =
      (v'.objectAt? "settings").map RealityClient.ofStored :=
    map_objectAt?_congr RealityClient.ofStored_congr (h.same (by simp [readings]))
  simp only [readings, SameFields, Reading.Same, Leaf.Same] at h
  simp only [ofStored, textAt?, textsAt, textsAt?, flagAt?, wordAt?, hclient, h]

end Congruence

/-! ## Networks -/

/-- The members of the stored request of a disguise. -/
def TcpRequest.readings : List (String × Reading) :=
  [ ("version", .leaf .text), ("method", .leaf .text), ("path", .leaf .texts),
    ("headers", .leaf .headers) ]

/-- The members of the stored response of a disguise. -/
def TcpResponse.readings : List (String × Reading) :=
  [ ("version", .leaf .text), ("status", .leaf .text), ("reason", .leaf .text),
    ("headers", .leaf .headers) ]

/-- The members of a stored disguise. -/
def TcpHeader.readings : List (String × Reading) :=
  [ ("type", .leaf .text), ("request", .object TcpRequest.readings),
    ("response", .object TcpResponse.readings) ]

/-- The members of the stored header of packets. -/
def packetHeaderReadings : List (String × Reading) :=
  [("type", .leaf .text)]

/-- The members of the stored settings of a network. -/
def networkReadings : Network → List (String × Reading)
  | .tcp => [("acceptProxyProtocol", .leaf .flag), ("header", .object TcpHeader.readings)]
  | .kcp =>
    [ ("mtu", .leaf .word), ("tti", .leaf .word), ("uplinkCapacity", .leaf .word),
      ("downlinkCapacity", .leaf .word), ("congestion", .leaf .flag),
      ("readBufferSize", .leaf .word), ("writeBufferSize", .leaf .word),
      ("header", .object packetHeaderReadings), ("seed", .leaf .text) ]
  | .ws =>
    [ ("acceptProxyProtocol", .leaf .flag), ("path", .leaf .text), ("host", .leaf .text),
      ("headers", .leaf .headers) ]
  | .http =>
    [ ("host", .leaf .texts), ("path", .leaf .text), ("method", .leaf .text),
      ("headers", .leaf .headers) ]
  | .quic =>
    [("security", .leaf .text), ("key", .leaf .text), ("header", .object packetHeaderReadings)]
  | .grpc =>
    [("serviceName", .leaf .text), ("authority", .leaf .text), ("multiMode", .leaf .flag)]
  | .httpUpgrade =>
    [ ("acceptProxyProtocol", .leaf .flag), ("path", .leaf .text), ("host", .leaf .text),
      ("headers", .leaf .headers) ]
  | .splitHttp =>
    [ ("path", .leaf .text), ("host", .leaf .text), ("headers", .leaf .headers),
      ("scMaxConcurrentPosts", .leaf .range), ("scMaxEachPostBytes", .leaf .range),
      ("scMinPostsIntervalMs", .leaf .range), ("xPaddingBytes", .leaf .range),
      ("noSSEHeader", .leaf .flag) ]
  | .domainSocket =>
    [("path", .leaf .text), ("abstract", .leaf .flag), ("padding", .leaf .flag)]

section Congruence

variable {v v' : Json}

/-- The request of a disguise depends on its members. -/
theorem TcpRequest.ofStored_congr (h : SameFields TcpRequest.readings v v') :
    TcpRequest.ofStored v = TcpRequest.ofStored v' := by
  simp only [readings, SameFields, Reading.Same, Leaf.Same] at h
  simp only [ofStored, textAt?, textsAt, textsAt?, HeaderMap.storedAt?, h]

/-- The response of a disguise depends on its members. -/
theorem TcpResponse.ofStored_congr (h : SameFields TcpResponse.readings v v') :
    TcpResponse.ofStored v = TcpResponse.ofStored v' := by
  simp only [readings, SameFields, Reading.Same, Leaf.Same] at h
  simp only [ofStored, textAt?, HeaderMap.storedAt?, h]

/-- A disguise depends on its members. -/
theorem TcpHeader.ofStored_congr (h : SameFields TcpHeader.readings v v') :
    TcpHeader.ofStored v = TcpHeader.ofStored v' := by
  have hrequest : (v.objectAt? "request").map TcpRequest.ofStored =
      (v'.objectAt? "request").map TcpRequest.ofStored :=
    map_objectAt?_congr TcpRequest.ofStored_congr (h.same (by simp [readings]))
  have hresponse : (v.objectAt? "response").map TcpResponse.ofStored =
      (v'.objectAt? "response").map TcpResponse.ofStored :=
    map_objectAt?_congr TcpResponse.ofStored_congr (h.same (by simp [readings]))
  simp only [readings, SameFields, Reading.Same, Leaf.Same] at h
  simp only [ofStored, textAt?, hrequest, hresponse, h]

/-- The kind of a packet header depends on its member. -/
theorem storedPacketHeader?_congr
    (h : (Reading.object packetHeaderReadings).Same (v.get? "header") (v'.get? "header")) :
    storedPacketHeader? v = storedPacketHeader? v' := by
  rw [storedPacketHeader?, storedPacketHeader?]
  rcases objectAt?_cases h with ⟨hv, hv'⟩ | ⟨w, w', hv, hv', hfields⟩
  · rw [hv, hv']
  · have htype : w.textAt? "type" = w'.textAt? "type" := hfields.1
    rw [hv, hv', Option.bind_some, Option.bind_some, htype]

/-- The settings of a network depend on their members. -/
theorem Transport.ofObject_congr (n : Network) (h : SameFields (networkReadings n) v v') :
    Transport.ofObject n v = Transport.ofObject n v' := by
  cases n with
  | tcp =>
    have hheader : (v.objectAt? "header").map TcpHeader.ofStored =
        (v'.objectAt? "header").map TcpHeader.ofStored :=
      map_objectAt?_congr TcpHeader.ofStored_congr (h.same (by simp [networkReadings]))
    simp only [networkReadings, SameFields, Reading.Same, Leaf.Same] at h
    simp only [ofObject, Tcp.ofStored, flagAt?, hheader, h]
  | kcp =>
    have hheader : storedPacketHeader? v = storedPacketHeader? v' :=
      storedPacketHeader?_congr (h.same (by simp [networkReadings]))
    simp only [networkReadings, SameFields, Reading.Same, Leaf.Same] at h
    simp only [ofObject, Kcp.ofStored, textAt?, flagAt?, wordAt?, hheader, h]
  | ws =>
    simp only [networkReadings, SameFields, Reading.Same, Leaf.Same] at h
    simp only [ofObject, Ws.ofStored, textAt?, flagAt?, HeaderMap.storedAt?, h]
  | http =>
    simp only [networkReadings, SameFields, Reading.Same, Leaf.Same] at h
    simp only [ofObject, Http.ofStored, textAt?, textsAt, textsAt?, HeaderMap.storedAt?, h]
  | quic =>
    have hheader : storedPacketHeader? v = storedPacketHeader? v' :=
      storedPacketHeader?_congr (h.same (by simp [networkReadings]))
    simp only [networkReadings, SameFields, Reading.Same, Leaf.Same] at h
    simp only [ofObject, Quic.ofStored, textAt?, hheader, h]
  | grpc =>
    simp only [networkReadings, SameFields, Reading.Same, Leaf.Same] at h
    simp only [ofObject, Grpc.ofStored, textAt?, flagAt?, h]
  | httpUpgrade =>
    simp only [networkReadings, SameFields, Reading.Same, Leaf.Same] at h
    simp only [ofObject, HttpUpgrade.ofStored, storedHost, textAt?, flagAt?, HeaderMap.storedAt?, h]
  | splitHttp =>
    simp only [networkReadings, SameFields, Reading.Same, Leaf.Same] at h
    simp only [ofObject, SplitHttp.ofStored, storedHost, textAt?, flagAt?, rangeAt?,
      HeaderMap.storedAt?, h]
  | domainSocket =>
    simp only [networkReadings, SameFields, Reading.Same, Leaf.Same] at h
    simp only [ofObject, DomainSocket.ofStored, textAt?, flagAt?, h]

end Congruence

/-! ## Inbounds -/

/-- The members of stored stream settings, those of every network and security. -/
def streamReadings : List (String × Reading) :=
  [ ("network", .leaf .text), ("security", .leaf .text), ("sockopt", .object Sockopt.readings),
    ("tlsSettings", .object Tls.readings), ("realitySettings", .object Reality.readings) ] ++
    (Named.all : List Network).map fun n => (n.settingsKey, .object (networkReadings n))

/-- The members of a stored inbound. -/
def inboundReadings : List (String × Reading) :=
  [ ("tag", .leaf .text), ("listen", .leaf .text), ("port", .leaf .text),
    ("protocol", .leaf .text), ("settings", .object Settings.readings),
    ("sniffing", .object Sniffing.readings), ("streamSettings", .object streamReadings) ]

end ProxyInbound.Wire

namespace ProxyInbound.Conversion

open Json Wire

variable {v v' : Json}

/-- A choice depends on the text of its member. -/
theorem choose_congr_text [Named α] {field : String}
    (h : (Reading.leaf .text).Same (v.get? field) (v'.get? field)) (fallback : α) :
    choose v field fallback = choose v' field fallback := by
  have htext : v.textAt? field = v'.textAt? field := h
  rw [choose, choose, htext]

/-- What a stream layer fills in depends on the members of the stream settings. -/
theorem fillStream_congr_readings (h : SameFields streamReadings v v') :
    fillStream (some v) = fillStream (some v') := by
  rw [sameFields_iff, streamReadings, List.forall_mem_append, List.forall_mem_map] at h
  simp only [List.forall_mem_cons] at h
  obtain ⟨⟨hnetwork, hsecurity, hsockopt, htls, hreality, _⟩, hsettings⟩ := h
  have hnetworkChoice : networkChoice v = networkChoice v' := choose_congr_text hnetwork _
  have hsecurityChoice : securityChoice v = securityChoice v' := choose_congr_text hsecurity _
  have htransport (n : Network) : Transport.ofStored n v = Transport.ofStored n v' :=
    objectAt_congr (Transport.ofObject_congr n) (hsettings n n.mem_all)
  have hsecured (s : Security) :
      SecuritySettings.ofStored? s v = SecuritySettings.ofStored? s v' := by
    cases s with
    | none => rfl
    | tls => exact congrArg (some ∘ SecuritySettings.tls) (objectAt_congr Tls.ofStored_congr htls)
    | reality =>
      exact congrArg (some ∘ SecuritySettings.reality)
        (objectAt_congr Reality.ofStored_congr hreality)
  have hoptions (form : Form) : fillSockopt v form = fillSockopt v' form := by
    rw [fillSockopt, fillSockopt]
    rcases objectAt?_cases hsockopt with ⟨hv, hv'⟩ | ⟨w, w', hv, hv', hfields⟩
    · rw [hv, hv']
    · simp only [hv, hv', Sockopt.ofStored_congr hfields]
  funext form
  simp only [fillStream, fillTransport, fillSecurity, hnetworkChoice, hsecurityChoice, htransport,
    hsecured, hoptions]

/-- Inbounds whose members are read the same open as the same form. -/
theorem parse_congr_readings (h : SameFields inboundReadings v v') : parse v = parse v' := by
  rw [sameFields_iff] at h
  simp only [inboundReadings, List.forall_mem_cons] at h
  obtain ⟨htag, hlisten, hport, hprotocol, hsettings, hsniffing, hstream, _⟩ := h
  have hchoice : protocolChoice v = protocolChoice v' := choose_congr_text hprotocol _
  have hhead (form : Form) : fillHead v form = fillHead v' form := by
    simp only [Reading.Same, Leaf.Same] at htag hlisten hport
    simp only [fillHead, textAt?, htag, hlisten, hport]
  have hprotocolSettings (p : Protocol) (form : Form) :
      fillSettings p v form = fillSettings p v' form := by
    rw [fillSettings, fillSettings, objectAt_congr (Settings.ofStored_congr p) hsettings]
  have hblock (form : Form) : fillSniffing v form = fillSniffing v' form := by
    rw [fillSniffing, fillSniffing]
    rcases objectAt?_cases hsniffing with ⟨hv, hv'⟩ | ⟨w, w', hv, hv', hfields⟩
    · rw [hv, hv']
    · simp only [hv, hv', Sniffing.fillStored_congr hfields]
  have hlayer (p : Protocol) : fillStream (streamOf? p v) = fillStream (streamOf? p v') := by
    rw [streamOf?, streamOf?]
    split
    · rcases objectAt?_cases hstream with ⟨hv, hv'⟩ | ⟨w, w', hv, hv', hfields⟩
      · rw [hv, hv']
      · rw [hv, hv', fillStream_congr_readings hfields]
    · rfl
  simp only [parse, hchoice, hhead, hprotocolSettings, hblock, hlayer]

end ProxyInbound.Conversion
