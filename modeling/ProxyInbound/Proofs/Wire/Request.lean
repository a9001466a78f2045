import ProxyInbound.Proofs.Header.HostValues
import ProxyInbound.Proofs.Reopening.Form

/-!
# Requests with a host

Four networks speak HTTP and name a host beside other headers. A form gives hosts in a field and in
rows, and its inbound sends them in a request, which is the settings object of the network or, under
TCP, the request of the disguise. The hosts of a request are the texts under its host and under its
host headers.
-/

namespace ProxyInbound

open Json Text.White Text.Parts HeaderMap Wire

/-- Whether the requests of a network have a host beside other headers. -/
def Network.namesHost : Network → Bool
  | .tcp | .ws | .httpUpgrade | .splitHttp => true
  | _ => false

/-! ## Requests in storage -/

namespace Wire

/-- The request in stored stream settings: the object of the network or, under TCP, the request of
its disguise. -/
def requestAt (network : Network) (stream : Json) : Json :=
  match network with
  | .tcp => ((stream.objectAt (Network.settingsKey .tcp)).objectAt "header").objectAt "request"
  | network => stream.objectAt network.settingsKey

/-- The text that a value is, or the texts of its items. -/
def textsIn : Json → List String
  | .array items => items.filterMap scalarText?
  | v => v.scalarText?.toList

/-- The headers of a request. -/
def headersIn (request : Json) : List (String × Json) :=
  match request.get? "headers" with
  | some (.object members) => members
  | _ => []

/-- The texts of a request under its host and under its host headers. -/
def hostsIn (request : Json) : List String :=
  ((request.get? "host").map textsIn).getD [] ++
    ((headersIn request).filter fun e => isHost e.1).flatMap fun e => textsIn e.2

/-- The texts of a header value are its values. -/
theorem textsIn_toJson (value : HeaderValue) : textsIn value.toJson = value.values := by
  cases value with
  | single v => rfl
  | multi vs => exact filterMap_scalarText? vs

/-- The headers of a request are those of the map that it was written from. -/
theorem headersIn_eq {request : Json} {m : HeaderMap}
    (h : request.get? "headers" = headersField m.nonEmpty?) :
    headersIn request = m.entries.map fun e => (e.1, e.2.toJson) := by
  rw [headersIn, h]
  cases hm : m.nonEmpty? with
  | none =>
    rw [nonEmpty?_eq_none_iff.mp hm]
    rfl
  | some k =>
    have hk : k = m := by rw [← getD_nonEmpty? m, hm, Option.getD_some]
    rw [headersField, Option.map_some, toJson_eq_object, hk]

/-- A name finds in a request what it finds in the map that the headers were written from. -/
theorem find?_headersIn {request : Json} {m : HeaderMap}
    (h : request.get? "headers" = headersField m.nonEmpty?) (name : String) :
    Entries.find? name (headersIn request) = (m.find? name).map HeaderValue.toJson := by
  rw [headersIn_eq h, Entries.find?_map]
  rfl

/-- The hosts of a request are the host and the host values of the map that it was written
from. -/
theorem hostsIn_eq {request : Json} {host : Option String} {m : HeaderMap}
    (hhost : request.get? "host" = textField host) (hvisible : keepNonBlank host = host)
    (hheaders : request.get? "headers" = headersField m.nonEmpty?) :
    hostsIn request = host.toList ++ m.hostValues := by
  have htexts : ((textField host).map textsIn).getD [] = host.toList := by
    rw [textField, hvisible]
    cases host <;> rfl
  have hvalues : ((m.entries.map fun e => (e.1, e.2.toJson)).filter fun e => isHost e.1).flatMap
      (fun e => textsIn e.2) = m.hostValues := by
    rw [List.filter_map, List.flatMap_map, hostValues]
    simp only [textsIn_toJson]
    rfl
  rw [hostsIn, hhost, htexts, headersIn_eq hheaders, hvalues]

end Wire

/-! ## Requests of forms -/

namespace Form

/-- The host field of the network that a form selects. -/
def hostText (form : Form) : String :=
  match form.network with
  | .tcp => form.tcp.hosts
  | .ws => form.ws.host
  | .httpUpgrade => form.httpUpgrade.host
  | .splitHttp => form.splitHttp.host
  | _ => ""

/-- The rows of request headers of the network that a form selects. -/
def requestRows (form : Form) : List HeaderRow :=
  match form.network with
  | .tcp => form.tcp.headers
  | .ws => form.ws.headers
  | .httpUpgrade => form.httpUpgrade.headers
  | .splitHttp => form.splitHttp.headers
  | _ => []

/-- The hosts that a form gives in the field: several where the network takes several. -/
def fieldHosts (form : Form) : List String :=
  match form.network with
  | .tcp | .ws => values form.hostText
  | _ => (nonBlank? form.hostText).toList

/-- The headers that a form gives in rows. -/
def requestHeaders (form : Form) : HeaderMap :=
  (ofRows? form.requestRows).getD empty

/-- The hosts that a form gives, in the field and in rows. -/
def givenHosts (form : Form) : List String :=
  form.fieldHosts ++ form.requestHeaders.hostValues

/-- A form whose inbound has a request with a host beside other headers. -/
structure HasRequest (form : Form) : Prop where
  /-- The protocol has a stream layer. -/
  stream : form.protocol.hasStream = true
  /-- The network names a host. -/
  network : form.network.namesHost = true
  /-- A TCP stream is disguised as HTTP. -/
  disguise : form.network = .tcp → form.tcp.headerType = TcpHeader.httpKind

/-- The host of the request that a form describes, if it has a member of its own. -/
def sentHost (form : Form) : Option String :=
  match form.network with
  | .tcp | .ws => none
  | _ => form.fieldHosts.head?.or form.requestHeaders.firstHostValues.head?

/-- The headers of the request that a form describes. -/
def sentHeaders (form : Form) : HeaderMap :=
  match form.network with
  | .tcp => mergeHosts .multi form.fieldHosts form.requestHeaders
  | .ws => mergeHosts HeaderValue.ofValues form.fieldHosts form.requestHeaders
  | _ => liftedHeaders form.fieldHosts.head? form.requestHeaders

/-- The headers that a form gives are filled. -/
theorem filled_requestHeaders (form : Form) : form.requestHeaders.Filled := by
  rw [requestHeaders, ofRows?_eq, getD_nonEmpty?]
  exact (saved_ofRows form.requestRows).toParted.toFilled

/-- A host with a member of its own is not blank. -/
theorem keepNonBlank_sentHost (form : Form) : keepNonBlank form.sentHost = form.sentHost := by
  refine keepNonBlank_eq_self fun v hv => ?_
  have hlifted (hsent : form.sentHost =
      (nonBlank? form.hostText).toList.head?.or form.requestHeaders.firstHostValues.head?) :
      blank v = false := by
    rw [hsent, requestHeaders, ofRows?_eq, getD_nonEmpty?, Option.head?_toList] at hv
    exact not_blank_of_lifted hv
  cases hnetwork : form.network <;> simp only [sentHost, hnetwork] at hv
  case tcp | ws => cases hv
  all_goals exact hlifted (by simp only [sentHost, fieldHosts, hnetwork])

/-- The stored stream settings of a form with a request hold the settings of its network. -/
theorem objectAt_serialize {form : Form} (h : form.protocol.hasStream = true) :
    ((Conversion.serialize form).objectAt "streamSettings").objectAt form.network.settingsKey =
      (Transport.ofForm form).toJson := by
  have hsettings : (Stream.ofForm form).toJson.get? form.network.settingsKey =
      some (Transport.ofForm form).toJson :=
    Stream.get?_toJson (by simp [Stream.ofForm, Transport.network_ofForm])
  rw [Conversion.objectAt_streamSettings_serialize h,
    objectAt_of_get? hsettings (Transport.isObject_toJson _)]

/-- The request in the stored inbound of a form. -/
def savedRequest (form : Form) : Json :=
  requestAt form.network ((Conversion.serialize form).objectAt "streamSettings")

/-- Under TCP the stored request is the request of the disguise. -/
theorem savedRequest_tcp {form : Form} (h : form.HasRequest) (hnetwork : form.network = .tcp) :
    form.savedRequest = (TcpRequest.ofForm form.tcp).toJson := by
  have hsettings := objectAt_serialize h.stream
  have hheader : (Tcp.ofForm form.tcp).toJson.get? "header" =
      some (TcpHeader.toJson ⟨TcpHeader.httpKind, some (TcpRequest.ofForm form.tcp),
        TcpResponse.ofForm? form.tcp⟩) := by
    simp [Tcp.toJson, Tcp.ofForm, TcpHeader.ofForm?, h.disguise hnetwork, get?_ofFields]
  have hrequest : (TcpHeader.toJson ⟨TcpHeader.httpKind, some (TcpRequest.ofForm form.tcp),
        TcpResponse.ofForm? form.tcp⟩).get? "request" =
      some (TcpRequest.ofForm form.tcp).toJson := by
    simp [TcpHeader.toJson, get?_ofFields]
  rw [hnetwork, Transport.ofForm, hnetwork] at hsettings
  rw [savedRequest, hnetwork, requestAt, hsettings]
  simp only [Transport.toJson]
  rw [objectAt_of_get? hheader rfl, objectAt_of_get? hrequest rfl]

/-- The request that a form describes is stored with its host and its headers. -/
theorem get?_savedRequest {form : Form} (h : form.HasRequest) :
    form.savedRequest.get? "host" = textField form.sentHost ∧
      form.savedRequest.get? "headers" = headersField form.sentHeaders.nonEmpty? := by
  have hsettings := objectAt_serialize h.stream
  have hnames := h.network
  have htcp := savedRequest_tcp h
  rw [savedRequest] at htcp ⊢
  cases hnetwork : form.network <;> rw [hnetwork] at hsettings hnames
  case tcp =>
    rw [hnetwork] at htcp
    rw [htcp rfl]
    simp [TcpRequest.toJson, TcpRequest.ofForm, get?_ofFields, sentHost, sentHeaders, hnetwork,
      TcpRequest.headersOfForm_eq, fieldHosts, hostText, requestHeaders, requestRows, textField,
      ofRows?_eq]
  case ws =>
    simp only [requestAt, hsettings, Transport.ofForm, hnetwork, Transport.toJson]
    simp [Ws.toJson, Ws.ofForm, Ws.withHosts_eq, get?_ofFields, sentHost, sentHeaders, hnetwork,
      fieldHosts, hostText, requestHeaders, requestRows, textField]
  case httpUpgrade =>
    simp only [requestAt, hsettings, Transport.ofForm, hnetwork, Transport.toJson]
    simp [HttpUpgrade.toJson, HttpUpgrade.ofForm, hostOfForm_eq, get?_ofFields, sentHost,
      sentHeaders, hnetwork, fieldHosts, hostText, requestHeaders, requestRows, ofRows?_eq]
  case splitHttp =>
    simp only [requestAt, hsettings, Transport.ofForm, hnetwork, Transport.toJson]
    simp [SplitHttp.toJson, SplitHttp.ofForm, hostOfForm_eq, get?_ofFields, sentHost,
      sentHeaders, hnetwork, fieldHosts, hostText, requestHeaders, requestRows, ofRows?_eq]
  all_goals cases hnames

end Form

end ProxyInbound
