import ProxyInbound.Form
import ProxyInbound.Proofs.Json.Fields

/-!
# Fields of the form

The fields of every group of a form are lawful: each holds what was stored into it and leaves the
others alone, and together they make up the group. The form consists of its groups and of the
fields that stand between them, so its own fields are lawful too: no two groups share a name, and a
form is read back from the object that it is written as.
-/

namespace ProxyInbound

open Json

/-- Protocols are read back from their names. -/
theorem Protocol.codec_lawful : (Strict.named Protocol).Lawful :=
  Strict.named_lawful ofName?_name

/-- Networks are read back from their names. -/
theorem Network.codec_lawful : (Strict.named Network).Lawful :=
  Strict.named_lawful ofName?_name

/-- Securities are read back from their names. -/
theorem Security.codec_lawful : (Strict.named Security).Lawful :=
  Strict.named_lawful ofName?_name

/-- The fields of a header row are lawful. -/
theorem HeaderRow.lawful : LawfulFields HeaderRow.shape.slots where
  names := by decide
  lawful := by simp [shape, slots]
  apart := by simp [shape, slots, Slot.apart_iff, Slot.text]
  determine a b h := by
    cases a
    cases b
    simpa [shape, slots, Slot.text] using h

/-- The fields of a fallback row are lawful. -/
theorem FallbackRow.lawful : LawfulFields FallbackRow.shape.slots where
  names := by decide
  lawful := by simp [shape, slots]
  apart := by simp [shape, slots, Slot.apart_iff, Slot.text]
  determine a b h := by
    cases a
    cases b
    simpa [shape, slots, Slot.text] using h

/-- The fields of a certificate row are lawful. -/
theorem CertificateRow.lawful : LawfulFields CertificateRow.shape.slots where
  names := by decide
  lawful := by simp [shape, slots]
  apart := by simp [shape, slots, Slot.apart_iff, Slot.text]
  determine a b h := by
    cases a
    cases b
    simpa [shape, slots, Slot.text] using h

/-- The fields of an account row are lawful. -/
theorem AccountRow.lawful : LawfulFields AccountRow.shape.slots where
  names := by decide
  lawful := by simp [shape, slots]
  apart := by simp [shape, slots, Slot.apart_iff, Slot.text]
  determine a b h := by
    cases a
    cases b
    simpa [shape, slots, Slot.text] using h

/-- The fields of Shadowsocks are lawful. -/
theorem ShadowsocksForm.lawful : LawfulFields ShadowsocksForm.slots where
  names := by decide
  lawful := by simp [slots]
  apart := by simp [slots, Slot.apart_iff, Slot.text]
  determine a b h := by
    cases a
    cases b
    simpa [slots, Slot.text] using h

/-- The fields of SOCKS are lawful. -/
theorem SocksForm.lawful : LawfulFields SocksForm.slots where
  names := by decide
  lawful := by simp [slots]
  apart := by simp [slots, Slot.apart_iff, Slot.text, Slot.flag]
  determine a b h := by
    cases a
    cases b
    simpa [slots, Slot.text, Slot.flag] using h

/-- The fields of sniffing are lawful. -/
theorem SniffingForm.lawful : LawfulFields SniffingForm.slots where
  names := by decide
  lawful := by simp [slots]
  apart := by simp [slots, Slot.apart_iff, Slot.flag, Slot.texts]
  determine a b h := by
    cases a
    cases b
    simpa [slots, Slot.flag, Slot.texts] using h

/-- The fields of the TCP network are lawful. -/
theorem TcpForm.lawful : LawfulFields TcpForm.slots where
  names := by decide
  lawful := by simp [slots, Slot.lawful_rows HeaderRow.lawful]
  apart := by simp [slots, Slot.apart_iff, Slot.text, Slot.flag, Slot.rows]
  determine a b h := by
    cases a
    cases b
    simpa [slots, Slot.text, Slot.flag, Slot.rows] using h

/-- The fields of the KCP network are lawful. -/
theorem KcpForm.lawful : LawfulFields KcpForm.slots where
  names := by decide
  lawful := by simp [slots]
  apart := by simp [slots, Slot.apart_iff, Slot.text, Slot.flag]
  determine a b h := by
    cases a
    cases b
    simpa [slots, Slot.text, Slot.flag] using h

/-- The fields of the WebSocket network are lawful. -/
theorem WsForm.lawful : LawfulFields WsForm.slots where
  names := by decide
  lawful := by simp [slots, Slot.lawful_rows HeaderRow.lawful]
  apart := by simp [slots, Slot.apart_iff, Slot.text, Slot.flag, Slot.rows]
  determine a b h := by
    cases a
    cases b
    simpa [slots, Slot.text, Slot.flag, Slot.rows] using h

/-- The fields of the HTTP/2 network are lawful. -/
theorem HttpForm.lawful : LawfulFields HttpForm.slots where
  names := by decide
  lawful := by simp [slots, Slot.lawful_rows HeaderRow.lawful]
  apart := by simp [slots, Slot.apart_iff, Slot.text, Slot.rows]
  determine a b h := by
    cases a
    cases b
    simpa [slots, Slot.text, Slot.rows] using h

/-- The fields of the QUIC network are lawful. -/
theorem QuicForm.lawful : LawfulFields QuicForm.slots where
  names := by decide
  lawful := by simp [slots]
  apart := by simp [slots, Slot.apart_iff, Slot.text]
  determine a b h := by
    cases a
    cases b
    simpa [slots, Slot.text] using h

/-- The fields of the gRPC network are lawful. -/
theorem GrpcForm.lawful : LawfulFields GrpcForm.slots where
  names := by decide
  lawful := by simp [slots]
  apart := by simp [slots, Slot.apart_iff, Slot.text, Slot.flag]
  determine a b h := by
    cases a
    cases b
    simpa [slots, Slot.text, Slot.flag] using h

/-- The fields of the HTTP upgrade network are lawful. -/
theorem HttpUpgradeForm.lawful : LawfulFields HttpUpgradeForm.slots where
  names := by decide
  lawful := by simp [slots, Slot.lawful_rows HeaderRow.lawful]
  apart := by simp [slots, Slot.apart_iff, Slot.text, Slot.flag, Slot.rows]
  determine a b h := by
    cases a
    cases b
    simpa [slots, Slot.text, Slot.flag, Slot.rows] using h

/-- The fields of the split HTTP network are lawful. -/
theorem SplitHttpForm.lawful : LawfulFields SplitHttpForm.slots where
  names := by decide
  lawful := by simp [slots, Slot.lawful_rows HeaderRow.lawful]
  apart := by simp [slots, Slot.apart_iff, Slot.text, Slot.flag, Slot.rows]
  determine a b h := by
    cases a
    cases b
    simpa [slots, Slot.text, Slot.flag, Slot.rows] using h

/-- The fields of the domain socket network are lawful. -/
theorem DomainSocketForm.lawful : LawfulFields DomainSocketForm.slots where
  names := by decide
  lawful := by simp [slots]
  apart := by simp [slots, Slot.apart_iff, Slot.text, Slot.flag]
  determine a b h := by
    cases a
    cases b
    simpa [slots, Slot.text, Slot.flag] using h

/-- The fields of TLS are lawful. -/
theorem TlsForm.lawful : LawfulFields TlsForm.slots where
  names := by decide
  lawful := by simp [slots, Slot.lawful_rows CertificateRow.lawful]
  apart := by simp [slots, Slot.apart_iff, Slot.text, Slot.flag, Slot.rows]
  determine a b h := by
    cases a
    cases b
    simpa [slots, Slot.text, Slot.flag, Slot.rows] using h

/-- The fields of REALITY are lawful. -/
theorem RealityForm.lawful : LawfulFields RealityForm.slots where
  names := by decide
  lawful := by simp [slots]
  apart := by simp [slots, Slot.apart_iff, Slot.text, Slot.flag]
  determine a b h := by
    cases a
    cases b
    simpa [slots, Slot.text, Slot.flag] using h

/-- The fields of the socket options are lawful. -/
theorem SockoptForm.lawful : LawfulFields SockoptForm.slots where
  names := by decide
  lawful := by simp [slots]
  apart := by simp [slots, Slot.apart_iff, Slot.text, Slot.flag]
  determine a b h := by
    cases a
    cases b
    simpa [slots, Slot.text, Slot.flag] using h

namespace Form

open FieldGroup Strict

/-- The groups of a form in the order of their fields. Each field that stands between them is a
group of its own. -/
def groups : List (FieldGroup Form) :=
  headSlots.map ofSlot ++
  [⟨ShadowsocksForm, (·.shadowsocks), fun v f => { f with shadowsocks := v },
    ShadowsocksForm.slots⟩] ++
  proxySlots.map ofSlot ++
  [ ⟨SocksForm, (·.socks), fun v f => { f with socks := v }, SocksForm.slots⟩,
    ⟨SniffingForm, (·.sniffing), fun v f => { f with sniffing := v }, SniffingForm.slots⟩ ] ++
  streamSlots.map ofSlot ++
  [ ⟨TcpForm, (·.tcp), fun v f => { f with tcp := v }, TcpForm.slots⟩,
    ⟨KcpForm, (·.kcp), fun v f => { f with kcp := v }, KcpForm.slots⟩,
    ⟨WsForm, (·.ws), fun v f => { f with ws := v }, WsForm.slots⟩,
    ⟨HttpForm, (·.http), fun v f => { f with http := v }, HttpForm.slots⟩,
    ⟨QuicForm, (·.quic), fun v f => { f with quic := v }, QuicForm.slots⟩,
    ⟨GrpcForm, (·.grpc), fun v f => { f with grpc := v }, GrpcForm.slots⟩,
    ⟨HttpUpgradeForm, (·.httpUpgrade), fun v f => { f with httpUpgrade := v },
      HttpUpgradeForm.slots⟩,
    ⟨SplitHttpForm, (·.splitHttp), fun v f => { f with splitHttp := v }, SplitHttpForm.slots⟩,
    ⟨DomainSocketForm, (·.domainSocket), fun v f => { f with domainSocket := v },
      DomainSocketForm.slots⟩,
    ⟨TlsForm, (·.tls), fun v f => { f with tls := v }, TlsForm.slots⟩,
    ⟨RealityForm, (·.reality), fun v f => { f with reality := v }, RealityForm.slots⟩,
    ⟨SockoptForm, (·.sockopt), fun v f => { f with sockopt := v }, SockoptForm.slots⟩ ]

/-- The fields of a form are those of its groups. -/
theorem slots_eq : slots = groups.flatMap fields := by
  simp only [groups, List.flatMap_append, flatMap_fields_ofSlot, List.flatMap_cons,
    List.flatMap_nil, List.append_nil, slots, fields, List.append_assoc]

/-- No two fields of a form share a name. -/
theorem nodup_names : (names slots).Nodup := by
  decide +kernel

/-- The fields of each group are lawful. -/
theorem lawful_of_mem_groups : ∀ p ∈ groups, LawfulFields p.slots := by
  have hhead : ∀ s ∈ headSlots, s.codec.Lawful := by
    simp only [headSlots, List.forall_mem_cons]
    exact ⟨text_lawful, text_lawful, text_lawful, Protocol.codec_lawful, text_lawful,
      listOf_lawful (Record.codec_lawful FallbackRow.lawful), nofun⟩
  have hproxy : ∀ s ∈ proxySlots, s.codec.Lawful := by
    simp only [proxySlots, List.forall_mem_cons]
    exact ⟨listOf_lawful (Record.codec_lawful AccountRow.lawful), flag_lawful, nofun⟩
  have hstream : ∀ s ∈ streamSlots, s.codec.Lawful := by
    simp only [streamSlots, List.forall_mem_cons]
    exact ⟨Network.codec_lawful, Security.codec_lawful, nofun⟩
  simp only [groups, List.forall_mem_append, List.forall_mem_map, List.forall_mem_cons]
  have single {s : Slot Form} := lawful_ofSlot (s := s)
  exact ⟨⟨⟨⟨⟨fun s hs => single (hhead s hs), ShadowsocksForm.lawful, nofun⟩,
    fun s hs => single (hproxy s hs)⟩, SocksForm.lawful, SniffingForm.lawful, nofun⟩,
    fun s hs => single (hstream s hs)⟩, TcpForm.lawful, KcpForm.lawful, WsForm.lawful,
    HttpForm.lawful, QuicForm.lawful, GrpcForm.lawful, HttpUpgradeForm.lawful,
    SplitHttpForm.lawful, DomainSocketForm.lawful, TlsForm.lawful, RealityForm.lawful,
    SockoptForm.lawful, nofun⟩

/-- A form consists of its groups. -/
theorem lawful_groups : LawfulGroups groups where
  lawful := lawful_of_mem_groups
  get_set := by
    simp only [groups, headSlots, proxySlots, streamSlots, ofSlot, Slot.text, Slot.flag,
      Slot.named, Slot.rows, List.map_cons, List.map_nil, List.cons_append, List.nil_append,
      List.forall_mem_cons, List.not_mem_nil, false_implies, implies_true, and_true]
  apart := by
    simp only [groups, headSlots, proxySlots, streamSlots, ofSlot, Slot.text, Slot.flag,
      Slot.named, Slot.rows, List.map_cons, List.map_nil, List.cons_append, List.nil_append,
      List.pairwise_cons, List.Pairwise.nil, List.forall_mem_cons, List.not_mem_nil, apart_iff,
      false_implies, implies_true, and_true]
  determine a b h := by
    cases a
    cases b
    simpa only [groups, headSlots, proxySlots, streamSlots, ofSlot, Slot.text, Slot.flag,
      Slot.named, Slot.rows, List.map_cons, List.map_nil, List.cons_append, List.nil_append,
      List.forall_mem_cons, List.not_mem_nil, mk.injEq, false_implies, implies_true,
      and_true] using h

/-- The fields of a form are lawful. -/
theorem lawful : LawfulFields slots := by
  rw [slots_eq]
  exact lawful_groups.lawfulFields (slots_eq ▸ nodup_names)

/-- A form is read back from the object that it is written as. -/
theorem ofJson_toJson (form : Form) : ofJson form.toJson = .ok form :=
  Record.read_write lawful form

end Form

end ProxyInbound
