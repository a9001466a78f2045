import ProxyInbound.Proofs.Header.Editable
import ProxyInbound.Proofs.Wire.Transport
import ProxyInbound.Session

/-!
# Forms that can be edited

There is always a row to type into: a form has an account, and each of its lists of headers can be
edited. The template is such a form. A section that is read from a document brings in rows of filled
header maps only, and accounts are replaced by other accounts, never by none. So every step of a
session leaves a form that can be edited, and so does every run of steps from the template.
-/

namespace ProxyInbound

open HeaderMap

namespace Wire

/-! ## Sections read from a document -/

/-- Headers that hold something and nothing blank, if there are any. -/
def FilledHeaders (headers : Option HeaderMap) : Prop :=
  (headers.getD empty).Filled

/-- The headers of both messages of a disguise are filled. -/
structure TcpHeader.Filled (disguise : TcpHeader) : Prop where
  /-- The headers of the request are filled. -/
  request : ∀ r, disguise.request = some r → FilledHeaders r.headers
  /-- The headers of the response are filled. -/
  response : ∀ r, disguise.response = some r → FilledHeaders r.headers

/-- Every header map in the settings of a network is filled. -/
def Transport.Filled : Transport → Prop
  | tcp s => ∀ disguise, s.header = some disguise → disguise.Filled
  | ws s => FilledHeaders s.headers
  | http s => FilledHeaders s.headers
  | httpUpgrade s => FilledHeaders s.headers
  | splitHttp s => FilledHeaders s.headers
  | kcp _ | quic _ | grpc _ | domainSocket _ => True

/-- The headers of a WebSocket are filled with the stored hosts among them. -/
theorem Ws.filledHeaders_ofStored (v : Json) : FilledHeaders (ofStored v).headers := by
  have hstored := filled_getD_storedAt? v "headers"
  have hhosts : ∀ host ∈ (Text.White.keepNonBlank (v.textAt? "host")).toList,
      Text.White.blank host = false := by
    intro host hhost
    obtain ⟨text, _, htext⟩ := Option.bind_eq_some_iff.mp (Option.mem_toList.mp hhost)
    obtain ⟨hvisible, rfl⟩ := Text.White.nonBlank?_eq_some_iff.mp htext
    exact hvisible
  rw [FilledHeaders, ofStored, withHosts_eq, getD_nonEmpty?]
  exact hstored.mergeHosts HeaderValue.values_ofValues hhosts

/-- The headers beside a stored host are filled. -/
theorem filledHeaders_storedHost (v : Json) : FilledHeaders (storedHost v).2 := by
  have hstored := filled_getD_storedAt? v "headers"
  rw [FilledHeaders, storedHost, storedAt?_eq, liftHost_nonEmpty?, getD_nonEmpty?]
  exact hstored.liftedHeaders _

/-- The settings of a network that a document holds have filled headers. -/
theorem Transport.filled_ofObject (n : Network) (v : Json) : (ofObject n v).Filled := by
  cases n with
  | tcp =>
    intro disguise hdisguise
    obtain ⟨header, _, rfl⟩ := Option.map_eq_some_iff.mp hdisguise
    refine ⟨fun request hrequest => ?_, fun response hresponse => ?_⟩
    · obtain ⟨stored, _, rfl⟩ := Option.map_eq_some_iff.mp hrequest
      exact filled_getD_storedAt? stored "headers"
    · obtain ⟨stored, _, rfl⟩ := Option.map_eq_some_iff.mp hresponse
      exact filled_getD_storedAt? stored "headers"
  | ws => exact Ws.filledHeaders_ofStored v
  | http => exact filled_getD_storedAt? v "headers"
  | httpUpgrade => exact filledHeaders_storedHost v
  | splitHttp => exact filledHeaders_storedHost v
  | kcp | quic | grpc | domainSocket => trivial

/-! ## Laid out sections -/

/-- Accounts are replaced by other accounts only. -/
theorem Account.fillRows_ne_nil {rows : List AccountRow} (h : rows ≠ [])
    (accounts : List Account) : fillRows accounts rows ≠ [] := by
  unfold fillRows
  split <;> rename_i hempty
  · exact h
  · rw [ne_eq, List.map_eq_nil_iff]
    exact fun hnil => hempty (List.isEmpty_iff.mpr hnil)

/-- Both lists of headers of a TCP network can be edited. -/
structure EditableTcp (f : TcpForm) : Prop where
  /-- The headers of the request can be edited. -/
  request : EditableRows f.headers
  /-- The headers of the response can be edited. -/
  response : EditableRows f.responseHeaders

/-- A request is laid out as rows that can be edited. -/
theorem TcpRequest.editable_fill {r : TcpRequest} (hr : FilledHeaders r.headers) {f : TcpForm}
    (h : EditableTcp f) : EditableTcp (r.fill f) := by
  have hothers : ((some (r.headers.getD empty).dropHost).getD empty).Filled := hr.dropHost
  rw [fill, drainHost_eq]
  exact ⟨editableRows_editRows hothers, h.response⟩

/-- A response is laid out as rows that can be edited. -/
theorem TcpResponse.editable_fill {r : TcpResponse} (hr : FilledHeaders r.headers) {f : TcpForm}
    (h : EditableTcp f) : EditableTcp (r.fill f) :=
  ⟨h.request, editableRows_editRows hr⟩

/-- A disguise is laid out as rows that can be edited, and where it has no message the rows that
are there stay. -/
theorem TcpHeader.editable_fill {disguise : TcpHeader} (hd : disguise.Filled) {f : TcpForm}
    (h : EditableTcp f) : EditableTcp (disguise.fill f) := by
  have hkind : EditableTcp { f with headerType := disguise.kind } := ⟨h.request, h.response⟩
  have hrequest : EditableTcp
      (fillRequest disguise.request { f with headerType := disguise.kind }) := by
    cases hr : disguise.request with
    | none => exact hkind
    | some r => exact TcpRequest.editable_fill (hd.request r hr) hkind
  rw [fill]
  cases hr : disguise.response with
  | none => exact hrequest
  | some r => exact TcpResponse.editable_fill (hd.response r hr) hrequest

/-- The settings of TCP are laid out as rows that can be edited. -/
theorem Tcp.editable_fill {s : Tcp} (hs : (Transport.tcp s).Filled) {f : TcpForm}
    (h : EditableTcp f) : EditableTcp (s.fill f) := by
  have haccept : EditableTcp
      { f with acceptProxyProtocol := s.acceptProxyProtocol.getD f.acceptProxyProtocol } :=
    ⟨h.request, h.response⟩
  rw [fill]
  cases hheader : s.header with
  | none => exact haccept
  | some disguise => exact TcpHeader.editable_fill (hs disguise hheader) haccept

/-- The settings of a WebSocket are laid out as rows that can be edited. -/
theorem Ws.editableRows_fill {s : Ws} (hs : FilledHeaders s.headers) (f : WsForm) :
    EditableRows (s.fill f).headers := by
  have hothers : ((some (s.headers.getD empty).dropHost).getD empty).Filled := hs.dropHost
  rw [fill, drainHost_eq]
  exact editableRows_editRows hothers

end Wire

open Wire

/-- A form with a row to type into in each of its lists of accounts and headers. -/
structure Form.Editable (form : Form) : Prop where
  /-- There is an account. -/
  accounts : form.accounts ≠ []
  /-- The headers of a TCP request can be edited. -/
  tcpRequest : EditableRows form.tcp.headers
  /-- The headers of a TCP response can be edited. -/
  tcpResponse : EditableRows form.tcp.responseHeaders
  /-- The headers of a WebSocket can be edited. -/
  ws : EditableRows form.ws.headers
  /-- The headers of HTTP/2 can be edited. -/
  http : EditableRows form.http.headers
  /-- The headers of HTTP upgrade can be edited. -/
  httpUpgrade : EditableRows form.httpUpgrade.headers
  /-- The headers of split HTTP can be edited. -/
  splitHttp : EditableRows form.splitHttp.headers

namespace Form.Editable

/-! ## Steps -/

/-- The form of a new inbound can be edited. -/
theorem defaults (protocol : Protocol) : (Form.defaults protocol).Editable where
  accounts := List.cons_ne_nil _ _
  tcpRequest := editableRows_blank
  tcpResponse := editableRows_blank
  ws := editableRows_blank
  http := editableRows_blank
  httpUpgrade := editableRows_blank
  splitHttp := editableRows_blank

variable {form : Form}

/-- Fields beside the accounts and the networks with headers do not matter. -/
theorem of_eq {other : Form} (h : form.Editable) (haccounts : other.accounts = form.accounts)
    (htcp : other.tcp = form.tcp) (hws : other.ws = form.ws) (hhttp : other.http = form.http)
    (hupgrade : other.httpUpgrade = form.httpUpgrade)
    (hsplit : other.splitHttp = form.splitHttp) : other.Editable where
  accounts := haccounts ▸ h.accounts
  tcpRequest := htcp ▸ h.tcpRequest
  tcpResponse := htcp ▸ h.tcpResponse
  ws := hws ▸ h.ws
  http := hhttp ▸ h.http
  httpUpgrade := hupgrade ▸ h.httpUpgrade
  splitHttp := hsplit ▸ h.splitHttp

/-- Settings of a protocol leave a form that can be edited. -/
theorem fillSettings (h : form.Editable) (settings : Settings) :
    (settings.fill form).Editable := by
  cases settings with
  | vmess => exact h
  | vless => exact h.of_eq rfl rfl rfl rfl rfl rfl
  | trojan => exact h.of_eq rfl rfl rfl rfl rfl rfl
  | shadowsocks => exact h.of_eq rfl rfl rfl rfl rfl rfl
  | http accounts => exact { h with accounts := Account.fillRows_ne_nil h.accounts accounts }
  | socks _ accounts => exact { h with accounts := Account.fillRows_ne_nil h.accounts accounts }

/-- Settings of a network with filled headers leave a form that can be edited. -/
theorem fillTransport (h : form.Editable) {t : Transport} (ht : t.Filled) :
    (t.fill form).Editable := by
  cases t with
  | tcp s =>
    have htcp : EditableTcp (s.fill form.tcp) := s.editable_fill ht ⟨h.tcpRequest, h.tcpResponse⟩
    exact { h with tcpRequest := htcp.request, tcpResponse := htcp.response }
  | ws s => exact { h with ws := Ws.editableRows_fill ht form.ws }
  | http s => exact { h with http := editableRows_editRows ht }
  | httpUpgrade s => exact { h with httpUpgrade := editableRows_editRows ht }
  | splitHttp s => exact { h with splitHttp := editableRows_editRows ht }
  | kcp s => exact h.of_eq rfl rfl rfl rfl rfl rfl
  | quic s => exact h.of_eq rfl rfl rfl rfl rfl rfl
  | grpc s => exact h.of_eq rfl rfl rfl rfl rfl rfl
  | domainSocket s => exact h.of_eq rfl rfl rfl rfl rfl rfl

/-- Settings of a security leave a form that can be edited. -/
theorem fillSecurity (h : form.Editable) (s : SecuritySettings) : (s.fill form).Editable := by
  cases s with
  | tls s => exact h.of_eq rfl rfl rfl rfl rfl rfl
  | reality s => exact h.of_eq rfl rfl rfl rfl rfl rfl

/-- A stream layer leaves a form that can be edited. -/
theorem fillStream (h : form.Editable) (stream : Option Json) :
    (Conversion.fillStream stream form).Editable := by
  cases stream with
  | none => exact h
  | some stream =>
    have htransport : (Conversion.fillTransport stream form).Editable :=
      h.fillTransport (Transport.filled_ofObject _ _)
    have hsecurity :
        (Conversion.fillSecurity stream (Conversion.fillTransport stream form)).Editable := by
      rw [Conversion.fillSecurity]
      split
      · exact htransport.fillSecurity _
      · exact htransport.of_eq rfl rfl rfl rfl rfl rfl
    rw [Conversion.fillStream, Conversion.fillSockopt]
    split
    · exact hsecurity.of_eq rfl rfl rfl rfl rfl rfl
    · exact hsecurity

/-- The form of any document can be edited. -/
theorem parse (w : Json) : (Conversion.parse w).Editable := by
  rw [Conversion.parse]
  generalize (Conversion.protocolChoice w).value = protocol
  have hhead : (Conversion.fillHead w (Form.defaults protocol)).Editable :=
    (defaults protocol).of_eq rfl rfl rfl rfl rfl rfl
  have hsettings : (Conversion.fillSettings protocol w
      (Conversion.fillHead w (Form.defaults protocol))).Editable :=
    hhead.fillSettings _
  refine fillStream ?_ _
  rw [Conversion.fillSniffing]
  split
  · exact hsettings.of_eq rfl rfl rfl rfl rfl rfl
  · exact hsettings

/-- Every step leaves a form that can be edited. -/
theorem apply (h : form.Editable) (edit : Session.Edit) : (edit.apply form).Editable := by
  cases edit with
  | defaults protocol => exact defaults protocol
  | parse document => exact parse document
  | reopen => exact parse _
  | settings protocol value => exact h.fillSettings _
  | transport network stream => exact h.fillTransport (Transport.filled_ofObject _ _)
  | security kind stream =>
    rw [Session.Edit.apply, Session.fillSecurity]
    split
    · exact h.fillSecurity _
    · exact h
  | sockopt value => exact h.of_eq rfl rfl rfl rfl rfl rfl
  | sniffing value => exact h.of_eq rfl rfl rfl rfl rfl rfl

/-! ## Runs -/

/-- Every run of steps leaves a form that can be edited. -/
theorem edited (h : form.Editable) (edits : List Session.Edit) :
    (Session.edited form edits).Editable := by
  induction edits generalizing form with
  | nil => exact h
  | cons edit rest ih =>
    have hstep : (edit.apply form).Editable := h.apply edit
    exact ih hstep

end Form.Editable

/-- Every form that is reached from the template by steps of a session can be edited: it has an
account, and each of its lists of headers is a single blank row or has rows, none without a value,
in the order of their names. -/
theorem Session.editable_edited_template (edits : List Edit) :
    (edited Form.template edits).Editable := by
  have htemplate : Form.template.Editable :=
    (Form.Editable.defaults Protocol.fallback).of_eq rfl rfl rfl rfl rfl rfl
  exact htemplate.edited edits

end ProxyInbound
