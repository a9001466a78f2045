import Mathlib.Tactic.MkIffOfInductiveProp
import ProxyInbound.Proofs.Reopening.Fields
import ProxyInbound.Proofs.Wire.Transport

/-!
# Transport settings reopened

The fields of a network open as they were if their texts and numerals are settled and their headers
are in normal rows. A host header among the rows moves into the host field, so settled rows have
none, and a host that is given twice opens once, so settled hosts are different.
-/

namespace ProxyInbound

open Text.White Text.Parts Text.Numeral Wire HeaderMap

/-! ## Networks without headers -/

/-- The fields of the KCP network as they open. -/
def KcpForm.reopened (f : KcpForm) : KcpForm :=
  (Kcp.ofForm f).fill template

/-- Fields of the KCP network that open as they were. -/
@[mk_iff] structure KcpForm.Settled (f : KcpForm) : Prop where
  /-- The packet size is a numeral. -/
  mtu : SettledWord KcpForm.template.mtu f.mtu
  /-- The interval is a numeral. -/
  tti : SettledWord KcpForm.template.tti f.tti
  /-- The capacity upward is a numeral. -/
  uplinkCapacity : SettledWord KcpForm.template.uplinkCapacity f.uplinkCapacity
  /-- The capacity downward is a numeral. -/
  downlinkCapacity : SettledWord KcpForm.template.downlinkCapacity f.downlinkCapacity
  /-- The size of the read buffer is a numeral. -/
  readBufferSize : SettledWord KcpForm.template.readBufferSize f.readBufferSize
  /-- The size of the write buffer is a numeral. -/
  writeBufferSize : SettledWord KcpForm.template.writeBufferSize f.writeBufferSize
  /-- The kind of disguise is saved. -/
  headerType : SettledText KcpForm.template.headerType f.headerType
  /-- The seed is saved or empty. -/
  seed : SettledText KcpForm.template.seed f.seed

/-- The fields of the KCP network open as they were exactly when they are settled. -/
theorem KcpForm.reopened_eq_self_iff (f : KcpForm) : f.reopened = f ↔ f.Settled := by
  obtain ⟨_, _, _, _, _, _, _, _, _⟩ := f
  simp (disch := decide) only [reopened, Kcp.fill, Kcp.ofForm, mk.injEq, settled_iff,
    getD_nonBlank?_iff_settled, wordText_iff_settled, Option.getD_some, true_and]

/-- The fields of the QUIC network as they open. -/
def QuicForm.reopened (f : QuicForm) : QuicForm :=
  (Quic.ofForm f).fill template

/-- Fields of the QUIC network that open as they were. -/
@[mk_iff] structure QuicForm.Settled (f : QuicForm) : Prop where
  /-- The cipher is saved. -/
  security : SettledText QuicForm.template.security f.security
  /-- The key is saved or empty. -/
  key : SettledText QuicForm.template.key f.key
  /-- The kind of disguise is saved. -/
  headerType : SettledText QuicForm.template.headerType f.headerType

/-- The fields of the QUIC network open as they were exactly when they are settled. -/
theorem QuicForm.reopened_eq_self_iff (f : QuicForm) : f.reopened = f ↔ f.Settled := by
  obtain ⟨_, _, _⟩ := f
  simp (disch := decide) only [reopened, Quic.fill, Quic.ofForm, mk.injEq, settled_iff,
    getD_nonBlank?_iff_settled]

/-- The fields of the gRPC network as they open. -/
def GrpcForm.reopened (f : GrpcForm) : GrpcForm :=
  (Grpc.ofForm f).fill template

/-- Fields of the gRPC network that open as they were. -/
@[mk_iff] structure GrpcForm.Settled (f : GrpcForm) : Prop where
  /-- The name of the service is saved or empty. -/
  serviceName : SettledText GrpcForm.template.serviceName f.serviceName
  /-- The authority is saved or empty. -/
  authority : SettledText GrpcForm.template.authority f.authority

/-- The fields of the gRPC network open as they were exactly when they are settled. -/
theorem GrpcForm.reopened_eq_self_iff (f : GrpcForm) : f.reopened = f ↔ f.Settled := by
  obtain ⟨_, _, _⟩ := f
  simp (disch := decide) only [reopened, Grpc.fill, Grpc.ofForm, mk.injEq, settled_iff,
    getD_nonBlank?_iff_settled, Option.getD_some, and_true]

/-- The fields of the domain socket network as they open. -/
def DomainSocketForm.reopened (f : DomainSocketForm) : DomainSocketForm :=
  (DomainSocket.ofForm f).fill template

/-- Fields of the domain socket network that open as they were. -/
@[mk_iff] structure DomainSocketForm.Settled (f : DomainSocketForm) : Prop where
  /-- The path is saved or empty. -/
  path : SettledText DomainSocketForm.template.path f.path

/-- The fields of the domain socket network open as they were exactly when they are settled. -/
theorem DomainSocketForm.reopened_eq_self_iff (f : DomainSocketForm) :
    f.reopened = f ↔ f.Settled := by
  obtain ⟨_, _, _⟩ := f
  simp (disch := decide) only [reopened, DomainSocket.fill, DomainSocket.ofForm, mk.injEq,
    settled_iff, getD_nonBlank?_iff_settled, Option.getD_some, and_true]

/-! ## Rows of headers -/

/-- Rows open as they were exactly when they are normal. -/
theorem HeaderMap.editRows_ofRows?_eq_self_iff (rows : List HeaderRow) :
    editRows (ofRows? rows) = rows ↔ NormalRows rows := by
  rw [ofRows?_eq, editRows_nonEmpty?, editRows_ofRows_eq_self_iff]

/-- Normal rows have no host header exactly when their map has none. -/
theorem HeaderMap.NormalRows.hostFree_iff {rows : List HeaderRow} (h : NormalRows rows) :
    (ofRows rows).HostFree ↔ ∀ row ∈ rows, isHost row.name = false := by
  have hblank : isHost HeaderRow.blank.name = false := by decide
  have htrim : ∀ row ∈ rows, trim row.name = row.name := by
    intro row hrow
    rcases h with rfl | ⟨_, hnormal, _⟩
    · rw [List.mem_singleton.mp hrow]
      decide
    · exact (hnormal row hrow).named
  constructor
  · intro hfree row hrow
    rcases h with rfl | ⟨_, hnormal, _⟩
    · rwa [List.mem_singleton.mp hrow]
    · have hr := hnormal row hrow
      -- the value of a normal row is saved under its name
      have hvalue : row.value ∈ valuesOf row.name rows := by
        refine List.mem_flatMap.mpr ⟨row, hrow, ?_⟩
        rw [if_pos hr.named, commaParts, parts_of_isPart hr.parted]
        exact List.mem_singleton_self row.value
      have hfind : (ofRows rows).find? row.name =
          some (HeaderValue.ofValues (valuesOf row.name rows)) := by
        rw [find?_ofRows, if_neg]
        rw [not_or]
        exact ⟨hr.nonempty, List.ne_nil_of_mem hvalue⟩
      exact hfree _ (find?_eq_some_iff.mp hfind)
  · intro hrows e he
    obtain ⟨row, hrow, hname⟩ := exists_row_of_valuesOf (mem_entries_ofRows he).2.1
    rw [← hname, htrim row hrow]
    exact hrows row hrow

/-- The fields of the HTTP/2 network as they open. -/
def HttpForm.reopened (f : HttpForm) : HttpForm :=
  (Http.ofForm f).fill template

/-- Fields of the HTTP/2 network that open as they were. -/
@[mk_iff] structure HttpForm.Settled (f : HttpForm) : Prop where
  /-- The hosts have one value a line and nothing else. -/
  hosts : f.hosts = join (values f.hosts)
  /-- The path is saved. -/
  path : SettledText HttpForm.template.path f.path
  /-- The method is saved or empty. -/
  method : SettledText HttpForm.template.method f.method
  /-- The headers are in normal rows. -/
  headers : NormalRows f.headers

/-- The fields of the HTTP/2 network open as they were exactly when they are settled. -/
theorem HttpForm.reopened_eq_self_iff (f : HttpForm) : f.reopened = f ↔ f.Settled := by
  obtain ⟨hosts, _, _, _⟩ := f
  rw [settled_iff, eq_comm (a := hosts)]
  simp (disch := decide) only [reopened, Http.fill, Http.ofForm, mk.injEq,
    getD_nonBlank?_iff_settled, editRows_ofRows?_eq_self_iff]

/-! ## One host beside the headers -/

/-- A host and rows that open as they were: without a host no row holds one. -/
structure SettledHost (host : String) (rows : List HeaderRow) : Prop where
  /-- The headers are in normal rows. -/
  headers : NormalRows rows
  /-- There is a host, or neither the field nor a row holds one. -/
  host : blank host = false ∨ host = "" ∧ ∀ row ∈ rows, isHost row.name = false

/-- A host and rows open as they were exactly when they are settled. -/
theorem hostOfForm_iff_settled (host : String) (rows : List HeaderRow) :
    (hostOfForm host rows).1.getD "" = host ∧ editRows (hostOfForm host rows).2 = rows ↔
      SettledHost host rows := by
  have hfilled := (saved_ofRows rows).toParted.toFilled
  rw [hostOfForm_eq, editRows_nonEmpty?]
  cases hblank : blank host with
  | false =>
    rw [nonBlank?_of_not_blank hblank, liftedHeaders, Option.isSome_some, if_pos rfl,
      editRows_ofRows_eq_self_iff]
    constructor
    · rintro ⟨_, h⟩
      exact ⟨h, Or.inl hblank⟩
    · intro h
      exact ⟨rfl, h.headers⟩
  | true =>
    rw [nonBlank?_of_blank hblank, Option.none_or]
    cases hvs : (ofRows rows).firstHostValues with
    | nil =>
      have hfree := hfilled.populated.firstHostValues_eq_nil_iff.mp hvs
      have hleft : liftedHeaders none (ofRows rows) = ofRows rows := by
        simp [liftedHeaders, hvs, hfree.dropHost_eq]
      rw [hleft, editRows_ofRows_eq_self_iff, List.head?_nil, Option.getD_none]
      constructor
      · rintro ⟨hempty, h⟩
        exact ⟨h, Or.inr ⟨hempty.symm, h.hostFree_iff.mp hfree⟩⟩
      · intro h
        refine ⟨?_, h.headers⟩
        rcases h.host with hvisible | ⟨hempty, _⟩
        · rw [hblank] at hvisible
          cases hvisible
        · exact hempty.symm
    | cons v rest =>
      constructor
      · rintro ⟨hhost, _⟩
        -- the host would be the value of a header, which is not blank
        have hv := hfilled.not_blank_of_firstHostValues (hvs ▸ List.mem_cons_self)
        rw [List.head?_cons, Option.getD_some] at hhost
        rw [hhost, hblank] at hv
        cases hv
      · intro h
        rcases h.host with hvisible | ⟨_, hrows⟩
        · rw [hblank] at hvisible
          cases hvisible
        · have hfree := h.headers.hostFree_iff.mpr hrows
          rw [hfree.firstHostValues_eq] at hvs
          cases hvs

/-- The fields of the HTTP upgrade network as they open. -/
def HttpUpgradeForm.reopened (f : HttpUpgradeForm) : HttpUpgradeForm :=
  (HttpUpgrade.ofForm f).fill template

/-- Fields of the HTTP upgrade network that open as they were. -/
@[mk_iff] structure HttpUpgradeForm.Settled (f : HttpUpgradeForm) : Prop where
  /-- The path is saved. -/
  path : SettledText HttpUpgradeForm.template.path f.path
  /-- The host and the headers are settled. -/
  host : SettledHost f.host f.headers

/-- The fields of the HTTP upgrade network open as they were exactly when they are settled. -/
theorem HttpUpgradeForm.reopened_eq_self_iff (f : HttpUpgradeForm) :
    f.reopened = f ↔ f.Settled := by
  obtain ⟨_, _, _, _⟩ := f
  rw [settled_iff, ← hostOfForm_iff_settled]
  simp (disch := decide) only [reopened, HttpUpgrade.fill, HttpUpgrade.ofForm, mk.injEq,
    getD_nonBlank?_iff_settled, Option.getD_some, and_true]
  rfl

/-- The fields of the split HTTP network as they open. -/
def SplitHttpForm.reopened (f : SplitHttpForm) : SplitHttpForm :=
  (SplitHttp.ofForm f).fill template

/-- Fields of the split HTTP network that open as they were. -/
@[mk_iff] structure SplitHttpForm.Settled (f : SplitHttpForm) : Prop where
  /-- The path is saved. -/
  path : SettledText SplitHttpForm.template.path f.path
  /-- The host and the headers are settled. -/
  host : SettledHost f.host f.headers
  /-- The number of uploads is saved. -/
  maxConcurrentPosts :
    SettledText SplitHttpForm.template.maxConcurrentPosts f.maxConcurrentPosts
  /-- The size of an upload is saved. -/
  maxEachPostBytes : SettledText SplitHttpForm.template.maxEachPostBytes f.maxEachPostBytes
  /-- The time between uploads is saved. -/
  minPostsIntervalMs :
    SettledText SplitHttpForm.template.minPostsIntervalMs f.minPostsIntervalMs
  /-- The size of the padding is saved. -/
  paddingBytes : SettledText SplitHttpForm.template.paddingBytes f.paddingBytes

/-- The fields of the split HTTP network open as they were exactly when they are settled. -/
theorem SplitHttpForm.reopened_eq_self_iff (f : SplitHttpForm) : f.reopened = f ↔ f.Settled := by
  obtain ⟨_, _, _, _, _, _, _, _⟩ := f
  rw [settled_iff, ← hostOfForm_iff_settled]
  simp (disch := decide) only [reopened, SplitHttp.fill, SplitHttp.ofForm, mk.injEq,
    getD_nonBlank?_iff_settled, Option.getD_some, and_true, and_assoc]
  rfl

end ProxyInbound
