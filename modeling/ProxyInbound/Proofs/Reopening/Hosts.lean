import ProxyInbound.Proofs.Reopening.Transport

/-!
# Networks with several hosts reopened

WebSocket and the HTTP disguise of TCP merge the host field and the first host header of the rows
into one header, which opens in the host field. Each opening drops a host header more than saving
puts in, so rows with a host header never open as they were, whatever the host field holds.
-/

namespace ProxyInbound

open Text.White Text.Parts Text.Numeral Wire HeaderMap

/-! ## Hosts and rows -/

/-- Hosts and rows that open as they were: different hosts, one a line, and no host among the
rows. -/
structure SettledHosts (hosts : String) (rows : List HeaderRow) : Prop where
  /-- The headers are in normal rows. -/
  headers : NormalRows rows
  /-- No row is a host header. -/
  hostFree : ∀ row ∈ rows, isHost row.name = false
  /-- The hosts have one value a line and nothing else. -/
  joined : hosts = join (values hosts)
  /-- No host is given twice. -/
  nodup : (values hosts).Nodup

/-- Merging no hosts adds no host header. -/
theorem HeaderMap.countNames_mergeHosts_nil_le (value : List String → HeaderValue)
    (m : HeaderMap) : countNames isHost (mergeHosts value [] m) ≤ countNames isHost m := by
  by_cases hfree : m.HostFree
  · rw [hfree.mergeHosts_eq, putHosts_nil]
  · exact countNames_isHost_mergeHosts_le hfree value []

/-- Rows that open as a map without its first host header hold none, if the map has no more host
headers than the rows. -/
theorem HeaderMap.hostFree_of_editRows {k : HeaderMap} {rows : List HeaderRow} (hk : k.Parted)
    (hcount : ¬ (ofRows rows).HostFree → countNames isHost k ≤ countNames isHost (ofRows rows))
    (h : editRows (some k.dropHost) = rows) : (ofRows rows).HostFree := by
  by_contra hhost
  have hsame : countNames isHost (ofRows rows) = countNames isHost k.dropHost := by
    rw [← h, ofRows_editRows hk.dropHost, countNames_regroup]
  have hle := hcount hhost
  by_cases hfree : k.HostFree
  · rw [hfree.dropHost_eq, hostFree_iff_countNames.mp hfree] at hsame
    exact hhost (hostFree_iff_countNames.mpr hsame)
  · have hdrop := countNames_isHost_dropHost hfree
    omega

/-- Hosts that are joined once each are the field exactly when they are different and stand in
lines. -/
theorem join_appendMissing_iff (hosts : String) :
    join (appendMissing [] (values hosts)) = hosts ↔
      hosts = join (values hosts) ∧ (values hosts).Nodup := by
  constructor
  · intro h
    have hparts : values (join (appendMissing [] (values hosts))) =
        appendMissing [] (values hosts) := by
      refine values_join_of_isPart fun v hv => ?_
      rcases mem_appendMissing.mp hv with hv | hv
      · cases hv
      · exact isPart_of_mem_parts hv
    have honce := hparts.symm.trans (congrArg values h)
    rw [honce] at h
    exact ⟨h.symm, appendMissing_nil_left_iff.mp honce⟩
  · rintro ⟨h, hnodup⟩
    rw [appendMissing_nil_left_iff.mpr hnodup, ← h]

/-- Hosts and rows open as they were exactly when they are settled, if they open from a map that
has no more host headers than the rows and holds the hosts of the field where the rows have
none. -/
theorem opened_iff_settledHosts {k : HeaderMap} {hosts : String} {rows : List HeaderRow}
    (hk : k.Parted)
    (hcount : ¬ (ofRows rows).HostFree → countNames isHost k ≤ countNames isHost (ofRows rows))
    (hfree : (ofRows rows).HostFree →
      k.dropHost = ofRows rows ∧
        appendMissing [] k.firstHostValues = appendMissing [] (values hosts)) :
    join (appendMissing [] k.firstHostValues) = hosts ∧ editRows (some k.dropHost) = rows ↔
      SettledHosts hosts rows := by
  constructor
  · rintro ⟨hhosts, hrows⟩
    have hnone := hostFree_of_editRows hk hcount hrows
    obtain ⟨hdrop, happend⟩ := hfree hnone
    rw [hdrop, editRows_ofRows_eq_self_iff] at hrows
    rw [happend, join_appendMissing_iff] at hhosts
    exact ⟨hrows, hrows.hostFree_iff.mp hnone, hhosts.1, hhosts.2⟩
  · intro h
    obtain ⟨hdrop, happend⟩ := hfree (h.headers.hostFree_iff.mpr h.hostFree)
    rw [hdrop, happend, editRows_ofRows_eq_self_iff, join_appendMissing_iff]
    exact ⟨⟨h.joined, h.nodup⟩, h.headers⟩

/-! ## WebSocket -/

/-- In a new form the host field is filled with the values of the first host header. -/
theorem Wire.Ws.fill_template (s : Ws) :
    s.fill WsForm.template =
      { path := s.path.getD WsForm.template.path
        host := join (appendMissing [] (s.headers.getD empty).firstHostValues)
        headers := editRows (some (s.headers.getD empty).dropHost)
        acceptProxyProtocol :=
          s.acceptProxyProtocol.getD WsForm.template.acceptProxyProtocol } := by
  rw [fill, drainHost_eq]
  simp only [WsForm.mk.injEq, true_and, and_true]
  split <;> rename_i hnil
  · rw [List.isEmpty_iff.mp hnil]
    rfl
  · rfl

/-- The fields of the WebSocket network as they open. -/
def WsForm.reopened (f : WsForm) : WsForm :=
  (Ws.ofForm f).reread.fill template

/-- The headers from which the fields of the WebSocket network open. -/
def WsForm.openedHeaders (f : WsForm) : HeaderMap :=
  mergeHosts HeaderValue.ofValues [] (Ws.headersOfForm f)

/-- The fields of the WebSocket network that open, one by one. -/
theorem WsForm.reopened_eq (f : WsForm) :
    f.reopened =
      { path := (nonBlank? f.path).getD template.path
        host := join (appendMissing [] f.openedHeaders.firstHostValues)
        headers := editRows (some f.openedHeaders.dropHost)
        acceptProxyProtocol := f.acceptProxyProtocol } := by
  have hheaders : (Ws.ofForm f).reread.headers.getD empty = f.openedHeaders := by
    rw [Ws.reread, Ws.withHosts_eq, getD_nonEmpty?, Ws.headers_ofForm, getD_nonEmpty?]
    rfl
  rw [reopened, Ws.fill_template, hheaders]
  rfl

/-- Fields of the WebSocket network that open as they were. -/
@[mk_iff] structure WsForm.Settled (f : WsForm) : Prop where
  /-- The path is saved. -/
  path : SettledText WsForm.template.path f.path
  /-- The hosts and the headers are settled. -/
  hosts : SettledHosts f.host f.headers

/-- The headers from which a form opens can stand in rows. -/
theorem WsForm.parted_openedHeaders (f : WsForm) : f.openedHeaders.Parted :=
  (Ws.parted_headersOfForm f).mergeHosts HeaderValue.values_ofValues
    fun _ hv => nomatch hv

/-- The hosts and headers of a WebSocket open as they were exactly when they are settled. -/
theorem WsForm.opened_iff (f : WsForm) :
    join (appendMissing [] f.openedHeaders.firstHostValues) = f.host ∧
      editRows (some f.openedHeaders.dropHost) = f.headers ↔ SettledHosts f.host f.headers := by
  refine opened_iff_settledHosts f.parted_openedHeaders (fun hhost => ?_) fun hfree => ?_
  · exact (countNames_mergeHosts_nil_le _ _).trans (countNames_isHost_mergeHosts_le hhost _ _)
  · rw [openedHeaders, mergeHosts, Ws.headersOfForm, hfree.mergeHosts_eq,
      hfree.dropHost_putHosts, hfree.dropHost_putHosts,
      hfree.firstHostValues_putHosts HeaderValue.values_ofValues,
      hfree.firstHostValues_putHosts HeaderValue.values_ofValues]
    exact ⟨rfl, appendMissing_appendMissing_nil _⟩

/-- The fields of the WebSocket network open as they were exactly when they are settled. -/
theorem WsForm.reopened_eq_self_iff (f : WsForm) : f.reopened = f ↔ f.Settled := by
  rw [settled_iff, ← opened_iff, reopened_eq]
  obtain ⟨_, _, _, _⟩ := f
  simp (disch := decide) only [mk.injEq, getD_nonBlank?_iff_settled, and_true]

/-! ## TCP -/

/-- The fields of the TCP network as they open. -/
def TcpForm.reopened (f : TcpForm) : TcpForm :=
  (Tcp.ofForm f).fill template

/-- The fields of the TCP network that count: the request and the response only under an HTTP
disguise. -/
def TcpForm.active (f : TcpForm) : TcpForm :=
  if f.headerType = TcpHeader.httpKind then f
  else
    { template with
      acceptProxyProtocol := f.acceptProxyProtocol
      headerType := f.headerType }

/-- A response that is left out is filled in like one that holds nothing. -/
theorem Wire.TcpHeader.fillResponse_ofForm? {f g : TcpForm}
    (h : g.responseVersion = "" ∧ g.responseStatus = "" ∧ g.responseReason = "" ∧
      g.responseHeaders = [HeaderRow.blank]) :
    fillResponse (TcpResponse.ofForm? f) g =
      { g with
        responseVersion := (nonBlank? f.responseVersion).getD ""
        responseStatus := (nonBlank? f.responseStatus).getD ""
        responseReason := (nonBlank? f.responseReason).getD ""
        responseHeaders := editRows (ofRows? f.responseHeaders) } := by
  obtain ⟨hversion, hstatus, hreason, hheaders⟩ := h
  rw [TcpResponse.ofForm?]
  split <;> rename_i hempty
  · simp only [TcpResponse.isEmpty, Bool.and_eq_true, ← keepNonBlank_eq_none_iff,
      keepNonBlank_nonBlank?, Option.isNone_iff_eq_none] at hempty
    obtain ⟨⟨⟨hv, hs⟩, hr⟩, hm⟩ := hempty
    obtain ⟨_, _, _, _, _, _, _, _, _, _, _⟩ := g
    simp only at hversion hstatus hreason hheaders
    rw [hv, hs, hr, hm, fillResponse, hversion, hstatus, hreason, hheaders]
    rfl
  · rw [fillResponse, TcpResponse.fill, hversion, hstatus, hreason]

/-- The fields of the TCP network that open under an HTTP disguise, one by one. -/
theorem TcpForm.reopened_eq {f : TcpForm} (h : f.headerType = TcpHeader.httpKind) :
    f.reopened =
      { acceptProxyProtocol := f.acceptProxyProtocol
        headerType := TcpHeader.httpKind
        hosts := join (appendMissing [] (TcpRequest.headersOfForm f).firstHostValues)
        paths := if values f.paths = [] then template.paths else join (values f.paths)
        version := (nonBlank? f.version).getD template.version
        method := (nonBlank? f.method).getD template.method
        headers := editRows (some (TcpRequest.headersOfForm f).dropHost)
        responseVersion := (nonBlank? f.responseVersion).getD template.responseVersion
        responseStatus := (nonBlank? f.responseStatus).getD template.responseStatus
        responseReason := (nonBlank? f.responseReason).getD template.responseReason
        responseHeaders := editRows (ofRows? f.responseHeaders) } := by
  rw [reopened, Tcp.fill, Tcp.ofForm]
  simp only [TcpHeader.ofForm?, if_pos h, Tcp.fillHeader, TcpHeader.fill, TcpHeader.fillRequest,
    TcpRequest.fill, TcpRequest.ofForm, getD_nonEmpty?, drainHost_eq, List.isEmpty_iff]
  rw [TcpHeader.fillResponse_ofForm? ⟨rfl, rfl, rfl, rfl⟩]
  rfl

/-- Fields of an HTTP disguise that open as they were. -/
@[mk_iff] structure TcpForm.SettledHttp (f : TcpForm) : Prop where
  /-- The hosts and the headers of the request are settled. -/
  hosts : SettledHosts f.hosts f.headers
  /-- There is a path. -/
  somePath : values f.paths ≠ []
  /-- The paths have one value a line and nothing else. -/
  paths : f.paths = join (values f.paths)
  /-- The version of the request is saved. -/
  version : SettledText TcpForm.template.version f.version
  /-- The method is saved. -/
  method : SettledText TcpForm.template.method f.method
  /-- The version of the response is saved or empty. -/
  responseVersion : SettledText TcpForm.template.responseVersion f.responseVersion
  /-- The status is saved or empty. -/
  responseStatus : SettledText TcpForm.template.responseStatus f.responseStatus
  /-- The reason phrase is saved or empty. -/
  responseReason : SettledText TcpForm.template.responseReason f.responseReason
  /-- The headers of the response are in normal rows. -/
  responseHeaders : NormalRows f.responseHeaders

/-- Fields of the TCP network that open as they were. -/
structure TcpForm.Settled (f : TcpForm) : Prop where
  /-- The stream is disguised as HTTP or not at all. -/
  headerType : f.headerType = TcpHeader.noneKind ∨ f.headerType = TcpHeader.httpKind
  /-- The request and the response of an HTTP disguise are settled. -/
  http : f.headerType = TcpHeader.httpKind → f.SettledHttp

/-- The hosts and headers of a request open as they were exactly when they are settled. -/
theorem TcpForm.opened_iff (f : TcpForm) :
    join (appendMissing [] (TcpRequest.headersOfForm f).firstHostValues) = f.hosts ∧
      editRows (some (TcpRequest.headersOfForm f).dropHost) = f.headers ↔
      SettledHosts f.hosts f.headers := by
  have hparted : (TcpRequest.headersOfForm f).Parted := by
    rw [TcpRequest.headersOfForm_eq]
    exact (saved_ofRows f.headers).toParted.mergeHosts (fun _ => rfl)
      fun _ => isPart_isComma_of_mem_values
  refine opened_iff_settledHosts hparted (fun hhost => ?_) fun hfree => ?_
  · rw [TcpRequest.headersOfForm_eq]
    exact countNames_isHost_mergeHosts_le hhost _ _
  · rw [TcpRequest.headersOfForm_eq, hfree.mergeHosts_eq, hfree.dropHost_putHosts,
      hfree.firstHostValues_putHosts fun _ => rfl]
    exact ⟨rfl, rfl⟩

/-- The paths of a request open as they were exactly when there is one and they stand in lines. -/
theorem TcpForm.paths_iff (paths : String) :
    (if values paths = [] then template.paths else join (values paths)) = paths ↔
      values paths ≠ [] ∧ paths = join (values paths) := by
  split <;> rename_i hnil
  · constructor
    · rintro rfl
      exact absurd hnil (by decide)
    · exact fun h => absurd hnil h.1
  · exact ⟨fun h => ⟨hnil, h.symm⟩, fun h => h.2.symm⟩

/-- The fields of the TCP network open as they were exactly when they are settled. -/
theorem TcpForm.reopened_eq_active_iff (f : TcpForm) : f.reopened = f.active ↔ f.Settled := by
  by_cases hhttp : f.headerType = TcpHeader.httpKind
  · have hsettled : f.Settled ↔ f.SettledHttp :=
      ⟨fun h => h.http hhttp, fun h => ⟨Or.inr hhttp, fun _ => h⟩⟩
    rw [hsettled, settledHttp_iff, ← opened_iff, active, if_pos hhttp, reopened_eq hhttp,
      ← and_assoc (a := values f.paths ≠ []), ← paths_iff]
    obtain ⟨_, headerType, _, _, _, _, _, _, _, _, _⟩ := f
    obtain rfl : headerType = TcpHeader.httpKind := hhttp
    simp (disch := decide) only [mk.injEq, getD_nonBlank?_iff_settled, true_and,
      editRows_ofRows?_eq_self_iff]
    constructor
    · rintro ⟨hhosts, hpaths, hversion, hmethod, hheaders, hresponse⟩
      exact ⟨⟨hhosts, hheaders⟩, hpaths, hversion, hmethod, hresponse⟩
    · rintro ⟨⟨hhosts, hheaders⟩, hpaths, hversion, hmethod, hresponse⟩
      exact ⟨hhosts, hpaths, hversion, hmethod, hheaders, hresponse⟩
  · have hplain : f.reopened =
        { template with acceptProxyProtocol := f.acceptProxyProtocol } := by
      rw [reopened, Tcp.fill, Tcp.ofForm, TcpHeader.ofForm?, if_neg hhttp]
      rfl
    rw [active, if_neg hhttp, hplain]
    constructor
    · intro h
      have hkind := congrArg TcpForm.headerType h
      exact ⟨Or.inl hkind.symm, fun hcontra => absurd hcontra hhttp⟩
    · intro h
      rcases h.headerType with hnone | hcontra
      · rw [hnone]
        rfl
      · exact absurd hcontra hhttp

end ProxyInbound
