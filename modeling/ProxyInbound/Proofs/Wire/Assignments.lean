import ProxyInbound.Proofs.Form.Fields
import ProxyInbound.Proofs.Json.Assignments
import ProxyInbound.Wire.Inbound

/-!
# What filling in a section assigns

Filling in a stored section assigns the fields of its group: what the section holds is entered, and
where it holds nothing the field keeps its value. Nothing that is entered depends on what the form
held before.
-/

namespace ProxyInbound.Wire

open Json Text.Numeral Text.Parts

/-! ## Settings, sniffing and socket options -/

/-- The fields of Shadowsocks are assigned. -/
theorem shadowsocks_assignment (method password network : Option String) :
    Assignment ShadowsocksForm.slots fun f =>
      { method := method.getD f.method
        password := password.getD f.password
        network := network.getD f.network } := by
  simp only [ShadowsocksForm.slots, Assignment.cons_iff]
  refine ⟨.getD method ?_, .getD password ?_, .getD network ?_, .nil⟩ <;> exact fun _ => rfl

/-- The fields of SOCKS are assigned. -/
theorem socks_assignment (auth : Option String) (udp : Bool) (ip : Option String) :
    Assignment SocksForm.slots fun f =>
      { auth := auth.getD f.auth
        udp := udp
        ip := ip.getD f.ip } := by
  simp only [SocksForm.slots, Assignment.cons_iff]
  refine ⟨.getD auth ?_, .enters udp ?_, .getD ip ?_, .nil⟩ <;> exact fun _ => rfl

/-- A stored sniffing block assigns the fields that it holds. -/
theorem Sniffing.fillStored_assignment (v : Json) :
    Assignment SniffingForm.slots (Sniffing.fillStored v) := by
  simp only [SniffingForm.slots, Assignment.cons_iff]
  refine ⟨.getD (v.flagAt? "enabled") ?_, .getD (v.textsAt? "destOverride") ?_,
    .getD (v.flagAt? "routeOnly") ?_, .getD (v.flagAt? "metadataOnly") ?_, .nil⟩ <;>
    exact fun _ => rfl

/-- Socket options assign the fields that they hold and enable them. -/
theorem Sockopt.fill_assignment (s : Sockopt) : Assignment SockoptForm.slots s.fill := by
  simp only [SockoptForm.slots, Assignment.cons_iff]
  refine ⟨.enters true ?_, .getD s.acceptProxyProtocol ?_, .getD s.tcpFastOpen ?_,
    .getD (s.mark.map unsignedText) ?_, .getD s.tproxy ?_, .getD s.tcpMptcp ?_,
    .getD s.domainStrategy ?_, .getD (s.keepAliveInterval.map signedText) ?_,
    .getD (s.keepAliveIdle.map signedText) ?_, .getD (s.userTimeout.map signedText) ?_,
    .getD s.congestion ?_, .getD s.interface ?_, .nil⟩ <;> exact fun _ => rfl

/-! ## Securities -/

/-- Laying out certificates assigns the first one and the rows of the others. -/
theorem Tls.fillCertificates_assignment (rows : List CertificateRow) :
    Assignment TlsForm.slots (Tls.fillCertificates rows) := by
  simp only [TlsForm.slots, Assignment.cons_iff]
  cases rows with
  | nil =>
    refine ⟨.keeps ?_, .keeps ?_, .keeps ?_, .keeps ?_, .keeps ?_, .keeps ?_, .keeps ?_, .keeps ?_,
      .keeps ?_, .enters [] ?_, .nil⟩ <;> exact fun _ => rfl
  | cons first others =>
    refine ⟨.keeps ?_, .keeps ?_, .keeps ?_, .keeps ?_, .keeps ?_, .enters first.certificateFile ?_,
      .enters first.keyFile ?_, .enters first.certificate ?_, .enters first.key ?_,
      .enters others ?_, .nil⟩ <;> exact fun _ => rfl

/-- TLS assigns the fields that it holds. -/
theorem Tls.fill_assignment (s : Tls) : Assignment TlsForm.slots s.fill := by
  have hothers : Assignment TlsForm.slots fun f =>
      { f with
        serverName := s.serverName.getD f.serverName
        alpn := join s.alpn
        minVersion := s.minVersion.getD f.minVersion
        maxVersion := s.maxVersion.getD f.maxVersion
        rejectUnknownSni := s.rejectUnknownSni.getD f.rejectUnknownSni } := by
    simp only [TlsForm.slots, Assignment.cons_iff]
    refine ⟨.getD s.serverName ?_, .enters (join s.alpn) ?_, .getD s.minVersion ?_,
      .getD s.maxVersion ?_, .getD s.rejectUnknownSni ?_, .keeps ?_, .keeps ?_, .keeps ?_,
      .keeps ?_, .keeps ?_, .nil⟩ <;> exact fun _ => rfl
  exact (Tls.fillCertificates_assignment (s.certificates.map Certificate.toRow)).comp hothers

/-- The parameters of REALITY clients are assigned if there are any. -/
theorem Reality.fillClient_assignment (c : Option RealityClient) :
    Assignment RealityForm.slots (Reality.fillClient c) := by
  cases c with
  | none => exact Assignment.id RealityForm.slots
  | some c =>
    simp only [RealityForm.slots, Assignment.cons_iff]
    refine ⟨.keeps ?_, .keeps ?_, .keeps ?_, .keeps ?_, .keeps ?_, .keeps ?_, .keeps ?_, .keeps ?_,
      .keeps ?_, .getD c.publicKey ?_, .getD c.fingerprint ?_, .getD c.spiderX ?_, .nil⟩ <;>
      exact fun _ => rfl

/-- REALITY assigns the fields that it holds. -/
theorem Reality.fill_assignment (s : Reality) : Assignment RealityForm.slots s.fill := by
  have hserver : Assignment RealityForm.slots fun f =>
      { f with
        showDebug := s.showDebug.getD f.showDebug
        dest := s.dest.getD f.dest
        xver := wordText s.xver f.xver
        serverNames := join s.serverNames
        privateKey := s.privateKey.getD f.privateKey
        minClientVer := s.minClientVer.getD f.minClientVer
        maxClientVer := s.maxClientVer.getD f.maxClientVer
        maxTimeDiff := wordText s.maxTimeDiff f.maxTimeDiff
        shortIds := join s.shortIds } := by
    simp only [RealityForm.slots, Assignment.cons_iff]
    refine ⟨.getD s.showDebug ?_, .getD s.dest ?_, .getD (s.xver.map unsignedText) ?_,
      .enters (join s.serverNames) ?_, .getD s.privateKey ?_, .enters (join s.shortIds) ?_,
      .getD (s.maxTimeDiff.map unsignedText) ?_, .getD s.minClientVer ?_, .getD s.maxClientVer ?_,
      .keeps ?_, .keeps ?_, .keeps ?_, .nil⟩ <;> exact fun _ => rfl
  exact (Reality.fillClient_assignment s.client).comp hserver

/-! ## Networks -/

/-- The disguising request of TCP is assigned if there is one. -/
theorem TcpHeader.fillRequest_assignment (r : Option TcpRequest) :
    Assignment TcpForm.slots (TcpHeader.fillRequest r) := by
  cases r with
  | none => exact Assignment.id TcpForm.slots
  | some r =>
    simp only [TcpForm.slots, Assignment.cons_iff]
    refine ⟨.keeps ?_, .keeps ?_, .enters _ fun _ => rfl, .ite r.path.isEmpty (join r.path) ?_,
      .getD r.version ?_, .getD r.method ?_, .enters _ fun _ => rfl, .keeps ?_, .keeps ?_,
      .keeps ?_, .keeps ?_, .nil⟩ <;> exact fun _ => rfl

/-- The disguising response of TCP is assigned if there is one. -/
theorem TcpHeader.fillResponse_assignment (r : Option TcpResponse) :
    Assignment TcpForm.slots (TcpHeader.fillResponse r) := by
  cases r with
  | none => exact Assignment.id TcpForm.slots
  | some r =>
    simp only [TcpForm.slots, Assignment.cons_iff]
    refine ⟨.keeps ?_, .keeps ?_, .keeps ?_, .keeps ?_, .keeps ?_, .keeps ?_, .keeps ?_,
      .getD r.version ?_, .getD r.status ?_, .getD r.reason ?_,
      .enters (HeaderMap.editRows r.headers) ?_, .nil⟩ <;> exact fun _ => rfl

/-- The disguise of TCP is assigned if there is one. -/
theorem Tcp.fillHeader_assignment (h : Option TcpHeader) :
    Assignment TcpForm.slots (Tcp.fillHeader h) := by
  cases h with
  | none => exact Assignment.id TcpForm.slots
  | some h =>
    have hkind : Assignment TcpForm.slots fun f => { f with headerType := h.kind } := by
      simp only [TcpForm.slots, Assignment.cons_iff]
      refine ⟨.keeps ?_, .enters h.kind ?_, .keeps ?_, .keeps ?_, .keeps ?_, .keeps ?_, .keeps ?_,
        .keeps ?_, .keeps ?_, .keeps ?_, .keeps ?_, .nil⟩ <;> exact fun _ => rfl
    exact (TcpHeader.fillResponse_assignment h.response).comp
      ((TcpHeader.fillRequest_assignment h.request).comp hkind)

/-- TCP assigns the fields that it holds. -/
theorem Tcp.fill_assignment (s : Tcp) : Assignment TcpForm.slots s.fill := by
  have haccept : Assignment TcpForm.slots fun f =>
      { f with acceptProxyProtocol := s.acceptProxyProtocol.getD f.acceptProxyProtocol } := by
    simp only [TcpForm.slots, Assignment.cons_iff]
    refine ⟨.getD s.acceptProxyProtocol ?_, .keeps ?_, .keeps ?_, .keeps ?_, .keeps ?_, .keeps ?_,
      .keeps ?_, .keeps ?_, .keeps ?_, .keeps ?_, .keeps ?_, .nil⟩ <;> exact fun _ => rfl
  exact (Tcp.fillHeader_assignment s.header).comp haccept

/-- KCP assigns the fields that it holds. -/
theorem Kcp.fill_assignment (s : Kcp) : Assignment KcpForm.slots s.fill := by
  simp only [KcpForm.slots, Assignment.cons_iff]
  refine ⟨.getD (s.mtu.map unsignedText) ?_, .getD (s.tti.map unsignedText) ?_,
    .getD (s.uplinkCapacity.map unsignedText) ?_, .getD (s.downlinkCapacity.map unsignedText) ?_,
    .getD s.congestion ?_, .getD (s.readBufferSize.map unsignedText) ?_,
    .getD (s.writeBufferSize.map unsignedText) ?_, .getD s.headerKind ?_, .getD s.seed ?_, .nil⟩ <;>
    exact fun _ => rfl

/-- WebSocket assigns the fields that it holds. -/
theorem Ws.fill_assignment (s : Ws) : Assignment WsForm.slots s.fill := by
  simp only [WsForm.slots, Assignment.cons_iff]
  exact ⟨.getD s.path fun _ => rfl, .ite _ _ fun _ => rfl, .enters _ fun _ => rfl,
    .getD s.acceptProxyProtocol fun _ => rfl, .nil⟩

/-- HTTP/2 assigns the fields that it holds. -/
theorem Http.fill_assignment (s : Http) : Assignment HttpForm.slots s.fill := by
  simp only [HttpForm.slots, Assignment.cons_iff]
  refine ⟨.enters (join s.host) ?_, .getD s.path ?_, .getD s.method ?_,
    .enters (HeaderMap.editRows s.headers) ?_, .nil⟩ <;> exact fun _ => rfl

/-- QUIC assigns the fields that it holds. -/
theorem Quic.fill_assignment (s : Quic) : Assignment QuicForm.slots s.fill := by
  simp only [QuicForm.slots, Assignment.cons_iff]
  refine ⟨.getD s.security ?_, .getD s.key ?_, .getD s.headerKind ?_, .nil⟩ <;> exact fun _ => rfl

/-- The gRPC network assigns the fields that it holds. -/
theorem Grpc.fill_assignment (s : Grpc) : Assignment GrpcForm.slots s.fill := by
  simp only [GrpcForm.slots, Assignment.cons_iff]
  refine ⟨.getD s.serviceName ?_, .getD s.authority ?_, .getD s.multiMode ?_, .nil⟩ <;>
    exact fun _ => rfl

/-- HTTP upgrade assigns the fields that it holds. -/
theorem HttpUpgrade.fill_assignment (s : HttpUpgrade) :
    Assignment HttpUpgradeForm.slots s.fill := by
  simp only [HttpUpgradeForm.slots, Assignment.cons_iff]
  refine ⟨.getD s.path ?_, .getD s.host ?_, .enters (HeaderMap.editRows s.headers) ?_,
    .getD s.acceptProxyProtocol ?_, .nil⟩ <;> exact fun _ => rfl

/-- Split HTTP assigns the fields that it holds. -/
theorem SplitHttp.fill_assignment (s : SplitHttp) : Assignment SplitHttpForm.slots s.fill := by
  simp only [SplitHttpForm.slots, Assignment.cons_iff]
  refine ⟨.getD s.path ?_, .getD s.host ?_, .enters (HeaderMap.editRows s.headers) ?_,
    .getD s.maxConcurrentPosts ?_, .getD s.maxEachPostBytes ?_, .getD s.minPostsIntervalMs ?_,
    .getD s.paddingBytes ?_, .getD s.noSseHeader ?_, .nil⟩ <;> exact fun _ => rfl

/-- A domain socket assigns the fields that it holds. -/
theorem DomainSocket.fill_assignment (s : DomainSocket) :
    Assignment DomainSocketForm.slots s.fill := by
  simp only [DomainSocketForm.slots, Assignment.cons_iff]
  refine ⟨.getD s.path ?_, .getD s.abstractName ?_, .getD s.padding ?_, .nil⟩ <;> exact fun _ => rfl

end ProxyInbound.Wire
