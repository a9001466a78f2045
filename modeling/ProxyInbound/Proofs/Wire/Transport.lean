import ProxyInbound.Proofs.Header.Merging
import ProxyInbound.Proofs.Wire.Optional
import ProxyInbound.Wire.Transport

/-!
# Transport settings read back

The settings that a form describes for its network are read back from their own JSON. The headers
of a WebSocket are read back with the hosts of the first host header under the usual spelling, so
they are as they were if no other spelling is left and no host stands there twice.
-/

namespace ProxyInbound.Wire

open Json Text.White Text.Parts HeaderMap

/-- Values between line feeds or commas are parts between commas. -/
theorem isPart_isComma_of_mem_values {s v : String} (h : v ∈ values s) : IsPart isComma v := by
  have hpart := isPart_of_mem_parts h
  refine hpart.of_unbroken fun c hc => ?_
  have hbreak := hpart.unbroken c hc
  rw [isValueSeparator, Bool.or_eq_false_iff] at hbreak
  exact hbreak.2

/-- Values between line feeds or commas are not blank. -/
theorem not_blank_of_mem_values {s v : String} (h : v ∈ values s) : blank v = false :=
  (isPart_of_mem_parts h).not_blank

/-- The headers of rows that are saved are read back. -/
theorem bind_headersField_ofRows? (rows : List HeaderRow) :
    (headersField (ofRows? rows)).bind HeaderMap.ofStored? = ofRows? rows :=
  bind_headersField (saved_ofRows rows).toParted.toFilled

/-! ## Networks without headers -/

/-- The kind of a packet header is read back. -/
theorem storedPacketHeader?_of_get? {v : Json} {kind : Option String}
    (h : v.get? "header" = packetHeaderField kind) : storedPacketHeader? v = kind := by
  rw [storedPacketHeader?, objectAt?, h, bind_packetHeaderField]

/-- The settings of the KCP network that a form describes are read back. -/
theorem Kcp.ofStored_toJson (f : KcpForm) :
    Kcp.ofStored (Kcp.ofForm f).toJson = Kcp.ofForm f := by
  have hheader : storedPacketHeader? (Kcp.ofForm f).toJson = nonBlank? f.headerType :=
    storedPacketHeader?_of_get? (by simp [toJson, ofForm, get?_ofFields])
  rw [ofStored, hheader]
  simp [toJson, ofForm, textAt?, flagAt?, wordAt?, get?_ofFields]

/-- The settings of the QUIC network that a form describes are read back. -/
theorem Quic.ofStored_toJson (f : QuicForm) :
    Quic.ofStored (Quic.ofForm f).toJson = Quic.ofForm f := by
  have hheader : storedPacketHeader? (Quic.ofForm f).toJson = nonBlank? f.headerType :=
    storedPacketHeader?_of_get? (by simp [toJson, ofForm, get?_ofFields])
  rw [ofStored, hheader]
  simp [toJson, ofForm, textAt?, get?_ofFields]

/-- The settings of the gRPC network that a form describes are read back. -/
theorem Grpc.ofStored_toJson (f : GrpcForm) :
    Grpc.ofStored (Grpc.ofForm f).toJson = Grpc.ofForm f := by
  simp [ofStored, toJson, ofForm, textAt?, flagAt?, get?_ofFields]

/-- The settings of the domain socket network that a form describes are read back. -/
theorem DomainSocket.ofStored_toJson (f : DomainSocketForm) :
    DomainSocket.ofStored (DomainSocket.ofForm f).toJson = DomainSocket.ofForm f := by
  simp [ofStored, toJson, ofForm, textAt?, flagAt?, get?_ofFields]

/-! ## Networks with headers -/

/-- The settings of the HTTP/2 network that a form describes are read back. -/
theorem Http.ofStored_toJson (f : HttpForm) :
    Http.ofStored (Http.ofForm f).toJson = Http.ofForm f := by
  simp [ofStored, toJson, ofForm, textAt?, textsAt, textsAt?, storedAt?, get?_ofFields,
    bind_headersField_ofRows?]

/-- A host and headers are lifted from a form as from the map of its rows. -/
theorem hostOfForm_eq (host : String) (rows : List HeaderRow) :
    hostOfForm host rows =
      ((nonBlank? host).or (ofRows rows).firstHostValues.head?,
        (liftedHeaders (nonBlank? host) (ofRows rows)).nonEmpty?) :=
  liftHost_nonEmpty? _ _

/-- A host that is given or lifted is not blank. -/
theorem not_blank_of_lifted {host v : String} {rows : List HeaderRow}
    (h : (nonBlank? host).or (ofRows rows).firstHostValues.head? = some v) :
    blank v = false := by
  cases hgiven : nonBlank? host with
  | some s =>
    rw [hgiven, Option.some_or] at h
    obtain rfl := Option.some.inj h
    obtain ⟨hvisible, rfl⟩ := nonBlank?_eq_some_iff.mp hgiven
    exact hvisible
  | none =>
    rw [hgiven, Option.none_or] at h
    have hfilled := (saved_ofRows rows).toParted.toFilled
    exact hfilled.not_blank_of_firstHostValues (List.mem_of_head? h)

/-- The host and the headers that were lifted are read back. -/
theorem storedHost_of_fields {v : Json} {host : String} {rows : List HeaderRow}
    (hhost : v.get? "host" = textField (hostOfForm host rows).1)
    (hheaders : v.get? "headers" = headersField (hostOfForm host rows).2) :
    storedHost v = hostOfForm host rows := by
  have hfilled := (saved_ofRows rows).toParted.toFilled
  rw [storedHost, textAt?, storedAt?, hhost, hheaders, bind_textField, hostOfForm_eq]
  have hkeep : keepNonBlank ((nonBlank? host).or (ofRows rows).firstHostValues.head?) =
      (nonBlank? host).or (ofRows rows).firstHostValues.head? :=
    keepNonBlank_eq_self fun _ => not_blank_of_lifted
  rw [hkeep, hkeep, bind_headersField (hfilled.liftedHeaders _), liftHost_liftHost hfilled]

/-- The settings of the HTTP upgrade network that a form describes are read back. -/
theorem HttpUpgrade.ofStored_toJson (f : HttpUpgradeForm) :
    HttpUpgrade.ofStored (HttpUpgrade.ofForm f).toJson = HttpUpgrade.ofForm f := by
  have hhost : storedHost (HttpUpgrade.ofForm f).toJson = hostOfForm f.host f.headers :=
    storedHost_of_fields (by simp [toJson, ofForm, get?_ofFields])
      (by simp [toJson, ofForm, get?_ofFields])
  rw [ofStored, hhost]
  simp [toJson, ofForm, textAt?, flagAt?, get?_ofFields]

/-- The settings of the split HTTP network that a form describes are read back. -/
theorem SplitHttp.ofStored_toJson (f : SplitHttpForm) :
    SplitHttp.ofStored (SplitHttp.ofForm f).toJson = SplitHttp.ofForm f := by
  have hhost : storedHost (SplitHttp.ofForm f).toJson = hostOfForm f.host f.headers :=
    storedHost_of_fields (by simp [toJson, ofForm, get?_ofFields])
      (by simp [toJson, ofForm, get?_ofFields])
  rw [ofStored, hhost]
  simp [toJson, ofForm, textAt?, rangeAt?, flagAt?, get?_ofFields]

/-! ## TCP -/

/-- The headers of a form's request are those of its rows with the hosts merged in. -/
theorem TcpRequest.headersOfForm_eq (f : TcpForm) :
    TcpRequest.headersOfForm f = mergeHosts .multi (values f.hosts) (ofRows f.headers) := by
  rw [headersOfForm, ofRows?_eq, getD_nonEmpty?, drainHost_eq]
  rfl

/-- The request that a form describes is read back. -/
theorem TcpRequest.ofStored_toJson (f : TcpForm) :
    TcpRequest.ofStored (TcpRequest.ofForm f).toJson = TcpRequest.ofForm f := by
  have hfilled : (TcpRequest.headersOfForm f).Filled := by
    rw [headersOfForm_eq]
    exact (saved_ofRows f.headers).toParted.toFilled.mergeHosts (fun _ => rfl)
      fun _ => not_blank_of_mem_values
  simp [ofStored, toJson, ofForm, textAt?, textsAt, textsAt?, storedAt?, get?_ofFields,
    bind_headersField hfilled]

/-- A request is written as an object. -/
theorem TcpRequest.isObject_toJson (r : TcpRequest) : r.toJson.isObject = true := rfl

/-- The response that a form describes is read back. -/
theorem TcpResponse.ofStored_toJson {f : TcpForm} {r : TcpResponse}
    (h : TcpResponse.ofForm? f = some r) : TcpResponse.ofStored r.toJson = r := by
  rw [ofForm?] at h
  split at h
  · cases h
  · obtain rfl := Option.some.inj h
    simp [ofStored, toJson, textAt?, storedAt?, get?_ofFields, bind_headersField_ofRows?]

/-- The header that a form describes is read back. -/
theorem TcpHeader.ofStored_toJson {f : TcpForm} {h : TcpHeader}
    (hf : TcpHeader.ofForm? f = some h) : TcpHeader.ofStored h.toJson = h := by
  have hresponse : (((TcpResponse.ofForm? f).map TcpResponse.toJson).filter isObject).map
      TcpResponse.ofStored = TcpResponse.ofForm? f := by
    rw [filter_isObject_map TcpResponse.toJson fun _ => isObject_ofFields _]
    cases hr : TcpResponse.ofForm? f with
    | none => rfl
    | some r => rw [Option.map_some, Option.map_some, TcpResponse.ofStored_toJson hr]
  unfold ofForm? at hf
  split at hf
  · obtain rfl := Option.some.inj hf
    simp [ofStored, toJson, textAt?, objectAt?, get?_ofFields, scalarText?, hresponse,
      TcpRequest.ofStored_toJson, TcpRequest.isObject_toJson]
  · cases hf

/-- The settings of the TCP network that a form describes are read back. -/
theorem Tcp.ofStored_toJson (f : TcpForm) :
    Tcp.ofStored (Tcp.ofForm f).toJson = Tcp.ofForm f := by
  have hheader : (((TcpHeader.ofForm? f).map TcpHeader.toJson).filter isObject).map
      TcpHeader.ofStored = TcpHeader.ofForm? f := by
    rw [filter_isObject_map TcpHeader.toJson fun _ => isObject_ofFields _]
    cases hh : TcpHeader.ofForm? f with
    | none => rfl
    | some h => rw [Option.map_some, Option.map_some, TcpHeader.ofStored_toJson hh]
  simp [ofStored, toJson, ofForm, flagAt?, objectAt?, get?_ofFields, hheader]

/-! ## WebSocket -/

/-- Hosts are merged into the headers. -/
theorem Ws.withHosts_eq (hosts : List String) (headers : Option HeaderMap) :
    Ws.withHosts hosts headers =
      (mergeHosts HeaderValue.ofValues hosts (headers.getD empty)).nonEmpty? := by
  rw [withHosts, drainHost_eq]
  rfl

/-- The headers that a form describes, its hosts merged in. -/
def Ws.headersOfForm (f : WsForm) : HeaderMap :=
  mergeHosts HeaderValue.ofValues (values f.host) (ofRows f.headers)

/-- The headers of a form are saved unless there are none. -/
theorem Ws.headers_ofForm (f : WsForm) :
    (Ws.ofForm f).headers = (Ws.headersOfForm f).nonEmpty? := by
  rw [ofForm, withHosts_eq, ofRows?_eq, getD_nonEmpty?]
  rfl

/-- The settings of a form have its headers unless there are none. -/
theorem Ws.ofForm_eq (f : WsForm) :
    Ws.ofForm f =
      ⟨some f.acceptProxyProtocol, nonBlank? f.path, (Ws.headersOfForm f).nonEmpty?⟩ := by
  rw [← headers_ofForm]
  rfl

/-- The headers of a form can stand in rows. -/
theorem Ws.parted_headersOfForm (f : WsForm) : (Ws.headersOfForm f).Parted :=
  (saved_ofRows f.headers).toParted.mergeHosts HeaderValue.values_ofValues
    fun _ => isPart_isComma_of_mem_values

/-- The settings as they are after reading: the first host header is merged in once more. -/
def Ws.reread (s : Ws) : Ws :=
  { s with headers := Ws.withHosts [] s.headers }

/-- The settings of the WebSocket network that a form describes are read with the first host
header merged in once more. -/
theorem Ws.ofStored_toJson (f : WsForm) :
    Ws.ofStored (Ws.ofForm f).toJson = (Ws.ofForm f).reread := by
  have hheaders : (headersField (Ws.ofForm f).headers).bind HeaderMap.ofStored? =
      (Ws.ofForm f).headers := by
    rw [headers_ofForm]
    exact bind_headersField (parted_headersOfForm f).toFilled
  have hhost : (Ws.ofForm f).toJson.textAt? "host" = none := by
    simp [toJson, textAt?, get?_ofFields]
  have hstored : storedAt? (Ws.ofForm f).toJson "headers" = (Ws.ofForm f).headers := by
    rw [storedAt?, ← hheaders]
    simp [toJson, get?_ofFields]
  rw [ofStored, hhost, hstored, reread]
  simp [toJson, ofForm, textAt?, flagAt?, get?_ofFields]

/-- If no other spelling is left and no host is given twice, merging the hosts in once more
changes nothing. -/
theorem Ws.reread_ofForm {f : WsForm} (husual : (ofRows f.headers).dropHost.UsualHost)
    (hnodup : (values f.host).Nodup) : (Ws.ofForm f).reread = Ws.ofForm f := by
  have hfilled := (saved_ofRows f.headers).toParted.toFilled
  have honce := appendMissing_nil_left_iff.mpr
    (nodup_appendMissing hnodup (ofRows f.headers).firstHostValues)
  have hheaders : mergeHosts HeaderValue.ofValues [] (Ws.headersOfForm f) =
      Ws.headersOfForm f := by
    rw [mergeHosts, headersOfForm, dropHost_mergeHosts husual,
      firstHostValues_mergeHosts husual hfilled HeaderValue.values_ofValues, honce,
      ← mergeHosts_eq_putHosts husual hfilled]
  have hsame : Ws.withHosts [] (Ws.ofForm f).headers = (Ws.ofForm f).headers := by
    rw [headers_ofForm, withHosts_eq, getD_nonEmpty?, hheaders]
  rw [reread, hsame]

/-! ## Every network -/

/-- The settings as they are after reading. Only those of a WebSocket are others. -/
def Transport.reread : Transport → Transport
  | ws s => ws s.reread
  | t => t

/-- The settings are written as an object. -/
theorem Transport.isObject_toJson (t : Transport) : t.toJson.isObject = true := by
  cases t <;> rfl

/-- The settings of the network that a form describes are read back from stream settings that hold
them. -/
theorem Transport.ofStored_of_get? {form : Form} {stream : Json}
    (h : stream.get? form.network.settingsKey = some (Transport.ofForm form).toJson) :
    Transport.ofStored form.network stream = (Transport.ofForm form).reread := by
  rw [ofStored, objectAt_of_get? h (isObject_toJson _)]
  unfold ofForm
  cases form.network with
  | tcp => exact congrArg tcp (Tcp.ofStored_toJson form.tcp)
  | kcp => exact congrArg kcp (Kcp.ofStored_toJson form.kcp)
  | ws => exact congrArg ws (Ws.ofStored_toJson form.ws)
  | http => exact congrArg http (Http.ofStored_toJson form.http)
  | quic => exact congrArg quic (Quic.ofStored_toJson form.quic)
  | grpc => exact congrArg grpc (Grpc.ofStored_toJson form.grpc)
  | httpUpgrade => exact congrArg httpUpgrade (HttpUpgrade.ofStored_toJson form.httpUpgrade)
  | splitHttp => exact congrArg splitHttp (SplitHttp.ofStored_toJson form.splitHttp)
  | domainSocket => exact congrArg domainSocket (DomainSocket.ofStored_toJson form.domainSocket)

/-- Settings other than those of a WebSocket are as they were after reading. -/
theorem Transport.reread_of_ne_ws {t : Transport} (h : t.network ≠ .ws) : t.reread = t := by
  cases t with
  | ws s => exact absurd rfl h
  | _ => rfl

end ProxyInbound.Wire
