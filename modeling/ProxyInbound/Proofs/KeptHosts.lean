import ProxyInbound.Proofs.Wire.Request

/-!
# Hosts that are kept

What a form gives as hosts is sent, and what a stored request holds as hosts is held by the form
that it is read into, unless hosts are put in the place of a covered header whose values stand
nowhere else. Saving puts hosts there under TCP and WebSocket, and under the networks with one host
where one of several values is lifted; reading does so except under TCP.
-/

namespace ProxyInbound

open Json Text.White Text.Parts HeaderMap Wire

/-- Whether hosts are put under the usual spelling: always where the network takes several, and
where it takes one if values are left after it was lifted. -/
def Wire.PutsHosts (network : Network) (field : List String) (m : HeaderMap) : Prop :=
  match network with
  | .tcp | .ws => True
  | _ => LeavesHosts field.head? m

/-! ## Saving -/

/-- A form whose covered hosts are given elsewhere too where hosts take their place. -/
def Form.KeepsHosts (form : Form) : Prop :=
  PutsHosts form.network form.fieldHosts form.requestHeaders →
    form.requestHeaders.coveredValues ⊆ form.fieldHosts ++ form.requestHeaders.openValues

/-- Hosts that are put leave of the given ones those of the field and the open ones. -/
theorem Form.mem_sent_of_putsHosts {form : Form} (hnetwork : form.network.namesHost = true)
    (h : PutsHosts form.network form.fieldHosts form.requestHeaders) {v : String} :
    v ∈ form.sentHost.toList ++ form.sentHeaders.hostValues ↔
      v ∈ form.fieldHosts ++ form.requestHeaders.openValues := by
  have hfilled := form.filled_requestHeaders
  cases hn : form.network <;> rw [hn] at h hnetwork <;> simp only [sentHost, sentHeaders, hn]
  case tcp => exact mem_hostValues_mergeHosts hfilled.populated (fun _ => rfl) _
  case ws => exact mem_hostValues_mergeHosts hfilled.populated HeaderValue.values_ofValues _
  case httpUpgrade | splitHttp =>
    have hnone : form.fieldHosts = [] := List.head?_eq_none_iff.mp h.1
    rw [mem_liftedHeaders_of_leavesHosts h, hnone, List.nil_append]
  all_goals cases hnetwork

/-- If no hosts are put, all that are given are sent. -/
theorem Form.mem_sent_of_not_putsHosts {form : Form} (hnetwork : form.network.namesHost = true)
    (h : ¬ PutsHosts form.network form.fieldHosts form.requestHeaders) {v : String} :
    v ∈ form.sentHost.toList ++ form.sentHeaders.hostValues ↔ v ∈ form.givenHosts := by
  cases hn : form.network <;> rw [hn] at h hnetwork <;> simp only [sentHost, sentHeaders, hn]
  case tcp | ws => exact absurd trivial h
  case httpUpgrade | splitHttp =>
    have hfield : form.fieldHosts.head?.toList = form.fieldHosts := by
      simp only [fieldHosts, hn, Option.head?_toList]
    rw [mem_liftedHeaders_of_not_leavesHosts h, hfield, givenHosts]
  all_goals cases hnetwork

/-- The hosts that are sent are those that are given exactly when covered ones are given elsewhere
too. -/
theorem Form.sent_iff_keepsHosts {form : Form} (hnetwork : form.network.namesHost = true) :
    (∀ v, v ∈ form.sentHost.toList ++ form.sentHeaders.hostValues ↔ v ∈ form.givenHosts) ↔
      form.KeepsHosts := by
  by_cases h : PutsHosts form.network form.fieldHosts form.requestHeaders
  · -- given are the hosts of the field, the open and the covered ones, sent are the first two
    simp only [mem_sent_of_putsHosts hnetwork h, givenHosts, KeepsHosts, h, true_imp_iff]
    constructor
    · intro hsame v hv
      refine (hsame v).mpr (List.mem_append_right _ ?_)
      exact mem_hostValues_iff_open_or_covered.mpr (Or.inr hv)
    · intro hcovered v
      simp only [List.mem_append, mem_hostValues_iff_open_or_covered]
      constructor
      · exact Or.imp_right Or.inl
      · rintro (hv | hv | hv)
        · exact Or.inl hv
        · exact Or.inr hv
        · exact List.mem_append.mp (hcovered hv)
  · simp only [mem_sent_of_not_putsHosts hnetwork h, KeepsHosts, h, false_imp_iff, implies_true]

/-- Saving sends the headers that are no hosts as they are given. -/
theorem Form.find?_sentHeaders (form : Form) {name : String} (h : isHost name = false) :
    form.sentHeaders.find? name = form.requestHeaders.find? name := by
  unfold sentHeaders
  split
  · exact find?_mergeHosts _ _ h
  · exact find?_mergeHosts _ _ h
  · exact find?_liftedHeaders _ h

/-! ## Reading -/

/-- The headers of a stored request. -/
def Wire.storedHeaders (network : Network) (stream : Json) : HeaderMap :=
  (storedAt? (requestAt network stream) "headers").getD empty

/-- The host of a stored request that has a member of its own. -/
def Wire.storedHost? (network : Network) (stream : Json) : Option String :=
  keepNonBlank ((requestAt network stream).textAt? "host")

/-- The texts of a form that hold hosts: that of the host field and those of the rows of a host
header. -/
def Form.heldTexts (form : Form) : List String :=
  form.hostText :: (form.requestRows.filter fun row => isHost row.name).map (·.value)

/-- A form that holds a host. A field of several hosts keeps one a line, so that each line of the
host has to be a line of a text that holds hosts. -/
def Form.HoldsHost (form : Form) (v : String) : Prop :=
  plainLines v ⊆ form.heldTexts.flatMap plainLines

/-- A host of one line is held exactly when it is a line of a text that holds hosts. -/
theorem Form.holdsHost_iff_of_unbroken {form : Form} {v : String}
    (h : ∀ c ∈ v.toList, isLineSeparator c = false) :
    form.HoldsHost v ↔ ∃ text ∈ form.heldTexts, v ∈ plainLines text := by
  have hlines : plainLines v = [v] := by
    rw [plainLines, List.splitOnP_eq_singleton h, List.map_singleton, String.ofList_toList]
  rw [HoldsHost, hlines, List.cons_subset, and_iff_left (List.nil_subset _), List.mem_flatMap]

/-- A stored request of which each line of a covered host is stored elsewhere too where hosts take
its place. -/
def Wire.KeepsStoredHosts (network : Network) (stream : Json) : Prop :=
  network ≠ .tcp →
    PutsHosts network (storedHost? network stream).toList (storedHeaders network stream) →
      ∀ v ∈ (storedHeaders network stream).coveredValues,
        plainLines v ⊆ ((storedHost? network stream).toList ++
          (storedHeaders network stream).openValues).flatMap plainLines

/-- The headers of a stored request have a value under each name. -/
theorem Wire.populated_storedHeaders (network : Network) (stream : Json) :
    (storedHeaders network stream).Populated := by
  rw [storedHeaders, storedAt?]
  cases h : ((requestAt network stream).get? "headers").bind ofStored? with
  | none => exact filled_empty.populated
  | some m =>
    obtain ⟨headers, _, hheaders⟩ := Option.bind_eq_some_iff.mp h
    exact populated_of_ofStored? hheaders

/-- A form whose hosts stand in the lines of the field and in the rows of a map holds a host exactly
when these hosts have its lines. -/
theorem Form.holdsHost_iff {form : Form} {hosts all : List String} {m : HeaderMap}
    (htext : form.hostText = join hosts) (hrows : form.requestRows = editRows (some m))
    (hne : hosts ≠ []) (hall : ∀ v, v ∈ hosts ++ m.hostValues ↔ v ∈ all) (v : String) :
    form.HoldsHost v ↔ plainLines v ⊆ all.flatMap plainLines := by
  have hsame (line : String) :
      line ∈ form.heldTexts.flatMap plainLines ↔ line ∈ all.flatMap plainLines := by
    rw [heldTexts, htext, hrows, List.flatMap_cons, List.mem_append, plainLines_join hne]
    simp only [List.mem_flatMap, mem_editRows_isHost, ← hall, List.mem_append, or_and_right,
      exists_or]
  simp only [HoldsHost, List.subset_def, hsame]

/-- The lines of all hosts of a map are among those of other hosts and the open ones exactly when
those of the covered ones are. -/
theorem HeaderMap.forall_hostValues_iff (m : HeaderMap) (hosts : List String) :
    (∀ v ∈ m.hostValues, plainLines v ⊆ (hosts ++ m.openValues).flatMap plainLines) ↔
      ∀ v ∈ m.coveredValues, plainLines v ⊆ (hosts ++ m.openValues).flatMap plainLines := by
  constructor
  · intro h v hv
    exact h v (mem_hostValues_iff_open_or_covered.mpr (Or.inr hv))
  · intro h v hv
    rcases mem_hostValues_iff_open_or_covered.mp hv with hopen | hcovered
    · intro line hline
      exact List.mem_flatMap.mpr ⟨v, List.mem_append_right hosts hopen, hline⟩
    · exact h v hcovered

/-- A form into which the first host header was drained holds a host exactly when the hosts of the
map have its lines. -/
theorem Form.holdsHost_iff_of_drained (form : Form) {m : HeaderMap} {all : List String}
    (htext : form.hostText = join (appendMissing [] m.firstHostValues))
    (hrows : form.requestRows = editRows (some m.dropHost)) (hpopulated : m.Populated)
    (hhost : ¬ m.HostFree) (hall : ∀ v, v ∈ m.hostValues ↔ v ∈ all) (v : String) :
    form.HoldsHost v ↔ plainLines v ⊆ all.flatMap plainLines := by
  have hne : appendMissing [] m.firstHostValues ≠ [] := by
    rw [Ne, appendMissing_eq_nil_iff, hpopulated.firstHostValues_eq_nil_iff]
    exact fun h => hhost h.2
  refine holdsHost_iff htext hrows hne (fun v => ?_) v
  rw [← hall, List.mem_append, mem_appendMissing, mem_hostValues_iff_dropHost (m := m)]
  simp

/-- The form that a stored request is read into. -/
def Wire.openedForm (network : Network) (stream : Json) : Form :=
  (Transport.ofStored network stream).fill Form.template

/-- A response leaves the hosts and the headers of the request. -/
theorem Wire.TcpHeader.fillResponse_request (r : Option TcpResponse) (f : TcpForm) :
    (fillResponse r f).hosts = f.hosts ∧ (fillResponse r f).headers = f.headers := by
  cases r <;> exact ⟨rfl, rfl⟩

/-- A request under TCP that is there is the request object of a disguise object. -/
theorem Wire.exists_disguise {stream : Json} (h : requestAt .tcp stream ≠ .null) :
    ∃ header, (stream.objectAt (Network.settingsKey .tcp)).objectAt? "header" = some header ∧
      header.objectAt? "request" = some (requestAt .tcp stream) := by
  rw [requestAt] at h ⊢
  cases hheader : (stream.objectAt (Network.settingsKey .tcp)).objectAt? "header" with
  | none =>
    refine absurd ?_ h
    rw [objectAt, objectAt, hheader]
    rfl
  | some header =>
    have hdisguise : (stream.objectAt (Network.settingsKey .tcp)).objectAt "header" = header := by
      rw [objectAt, hheader, Option.getD_some]
    rw [hdisguise, objectAt] at h ⊢
    cases hrequest : header.objectAt? "request" with
    | none =>
      rw [hrequest] at h
      exact absurd rfl h
    | some request => exact ⟨header, rfl, hrequest⟩

/-- Under TCP the field and the rows are filled from the headers of the request, if these have
hosts. -/
theorem Wire.openedForm_tcp {stream : Json} (hhost : ¬ (storedHeaders .tcp stream).HostFree) :
    (openedForm .tcp stream).tcp.hosts =
        join (appendMissing [] (storedHeaders .tcp stream).firstHostValues) ∧
      (openedForm .tcp stream).tcp.headers =
        editRows (some (storedHeaders .tcp stream).dropHost) := by
  -- without a request the form keeps its fields, but then there are no headers either
  have hpresent : requestAt .tcp stream ≠ .null := by
    intro hnull
    refine hhost ?_
    rw [storedHeaders, hnull]
    exact fun _ he => nomatch he
  obtain ⟨header, hheader, hrequest⟩ := exists_disguise hpresent
  have hopened : (openedForm .tcp stream).tcp =
      (Tcp.ofStored (stream.objectAt (Network.settingsKey .tcp))).fill TcpForm.template := rfl
  have hfill := TcpHeader.fillResponse_request
    ((header.objectAt? "response").map TcpResponse.ofStored)
    ((TcpRequest.ofStored (requestAt .tcp stream)).fill
      { TcpForm.template with
        acceptProxyProtocol := ((stream.objectAt (Network.settingsKey .tcp)).flagAt?
          "acceptProxyProtocol").getD TcpForm.template.acceptProxyProtocol
        headerType := (header.textAt? "type").getD TcpHeader.noneKind })
  rw [hopened, Tcp.fill, Tcp.ofStored, hheader]
  simp only [Option.map_some, Tcp.fillHeader, TcpHeader.fill, TcpHeader.ofStored, hrequest,
    TcpHeader.fillRequest]
  rw [hfill.1, hfill.2, storedHeaders, TcpRequest.fill, drainHost_eq]
  exact ⟨rfl, rfl⟩

/-- Under TCP every stored host is held. -/
theorem Wire.holdsHost_tcp {stream : Json} (hhost : ¬ (storedHeaders .tcp stream).HostFree)
    {v : String} (hv : v ∈ (storedHeaders .tcp stream).hostValues) :
    (openedForm .tcp stream).HoldsHost v := by
  obtain ⟨htext, hrows⟩ := openedForm_tcp hhost
  have hlines := Form.holdsHost_iff_of_drained (openedForm .tcp stream) htext hrows
    (populated_storedHeaders .tcp stream) hhost (fun _ => Iff.rfl) v
  rw [hlines]
  intro line hline
  exact List.mem_flatMap.mpr ⟨v, hv, hline⟩

/-- Under WebSocket a stored host is held exactly when the host of the request and the open ones
have its lines. -/
theorem Wire.holdsHost_ws_iff {stream : Json} (hhost : ¬ (storedHeaders .ws stream).HostFree)
    (v : String) :
    (openedForm .ws stream).HoldsHost v ↔
      plainLines v ⊆ ((storedHost? .ws stream).toList ++
          (storedHeaders .ws stream).openValues).flatMap plainLines := by
  have hpopulated := populated_storedHeaders .ws stream
  have hmerged (v : String) := mem_hostValues_mergeHosts (v := v) hpopulated
    HeaderValue.values_ofValues (storedHost? .ws stream).toList
  have hread : (openedForm .ws stream).ws =
      (Ws.ofStored (requestAt .ws stream)).fill WsForm.template := rfl
  have hheaders : (Ws.ofStored (requestAt .ws stream)).headers.getD empty =
      mergeHosts HeaderValue.ofValues (storedHost? .ws stream).toList
        (storedHeaders .ws stream) := by
    rw [Ws.ofStored, Ws.withHosts_eq, getD_nonEmpty?]
    rfl
  rw [Ws.fill_template, hheaders] at hread
  -- the values of the first host header are among the merged hosts
  have hsome : ¬ (mergeHosts HeaderValue.ofValues (storedHost? .ws stream).toList
      (storedHeaders .ws stream)).HostFree := by
    intro hfree
    have hfirst : (storedHeaders .ws stream).firstHostValues ≠ [] :=
      fun hnil => hhost (hpopulated.firstHostValues_eq_nil_iff.mp hnil)
    obtain ⟨first, hmem⟩ := List.exists_mem_of_ne_nil _ hfirst
    have hin := (hmerged first).mpr
      (List.mem_append_right _ (List.mem_append_left _ hmem))
    rw [hfree.hostValues_eq] at hin
    cases hin
  exact Form.holdsHost_iff_of_drained (openedForm .ws stream) (congrArg WsForm.host hread)
    (congrArg WsForm.headers hread)
    (hpopulated.mergeHosts HeaderValue.values_ofValues _) hsome hmerged v

/-- Where one host was lifted, the stored hosts are held exactly when covered ones are stored
elsewhere too if values were put back. -/
theorem Form.forall_holdsHost_iff_of_lifted {form : Form} {host : Option String} {m : HeaderMap}
    (htext : form.hostText = (host.or m.firstHostValues.head?).getD "")
    (hrows : form.requestRows = editRows (some (liftedHeaders host m)))
    (hpopulated : m.Populated) (hhost : ¬ m.HostFree) :
    (∀ v ∈ m.hostValues, form.HoldsHost v) ↔
      (LeavesHosts host m → ∀ v ∈ m.coveredValues,
        plainLines v ⊆ (host.toList ++ m.openValues).flatMap plainLines) := by
  obtain ⟨sent, hsent⟩ : ∃ sent, host.or m.firstHostValues.head? = some sent := by
    cases hvalues : m.firstHostValues with
    | nil => exact absurd (hpopulated.firstHostValues_eq_nil_iff.mp hvalues) hhost
    | cons first rest => cases host <;> exact ⟨_, rfl⟩
  have hjoin : form.hostText = join [sent] := by
    rw [htext, hsent, Option.getD_some, join, String.intercalate_singleton]
  have hne : [sent] ≠ [] := List.cons_ne_nil sent []
  have hlist : (host.or m.firstHostValues.head?).toList = [sent] := by rw [hsent]; rfl
  -- only values that are put back can take the place of others
  by_cases hleaves : LeavesHosts host m
  · have hall (v : String) : v ∈ [sent] ++ (liftedHeaders host m).hostValues ↔
        v ∈ host.toList ++ m.openValues := by
      rw [← hlist, mem_liftedHeaders_of_leavesHosts hleaves, hleaves.1]
      rfl
    simp only [holdsHost_iff hjoin hrows hne hall, forall_hostValues_iff, hleaves, true_imp_iff]
  · have hall (v : String) : v ∈ [sent] ++ (liftedHeaders host m).hostValues ↔
        v ∈ host.toList ++ m.hostValues := by
      rw [← hlist, mem_liftedHeaders_of_not_leavesHosts hleaves]
    simp only [holdsHost_iff hjoin hrows hne hall, hleaves, false_imp_iff, iff_true]
    intro v hv line hline
    exact List.mem_flatMap.mpr ⟨v, List.mem_append_right _ hv, hline⟩

/-- Where the network takes one host, the field is filled with the given host or the lifted one, and
the rows with the headers that are left. -/
theorem Wire.openedForm_of_oneHost (network : Network) (stream : Json)
    (h : network = .httpUpgrade ∨ network = .splitHttp) :
    (openedForm network stream).hostText =
        ((storedHost? network stream).or
          (storedHeaders network stream).firstHostValues.head?).getD "" ∧
      (openedForm network stream).requestRows =
        editRows (some (liftedHeaders (storedHost? network stream)
          (storedHeaders network stream))) := by
  have hlifted : storedHost (requestAt network stream) =
      ((storedHost? network stream).or (storedHeaders network stream).firstHostValues.head?,
        (liftedHeaders (storedHost? network stream)
          (storedHeaders network stream)).nonEmpty?) := by
    rw [storedHost, storedAt?_eq, liftHost_nonEmpty?]
    rfl
  have hopened : (openedForm network stream).hostText =
        (storedHost (requestAt network stream)).1.getD "" ∧
      (openedForm network stream).requestRows =
        editRows (storedHost (requestAt network stream)).2 := by
    rcases h with rfl | rfl <;> exact ⟨rfl, rfl⟩
  rw [hopened.1, hopened.2, hlifted, editRows_nonEmpty?]
  exact ⟨rfl, rfl⟩

/-- The stored hosts are held exactly when covered ones are stored elsewhere too where hosts take
their place. -/
theorem Wire.forall_holdsHost_iff {network : Network} (hnetwork : network.namesHost = true)
    (stream : Json) :
    (∀ v ∈ (storedHeaders network stream).hostValues, (openedForm network stream).HoldsHost v) ↔
      KeepsStoredHosts network stream := by
  by_cases hhost : (storedHeaders network stream).HostFree
  · -- without host headers there is nothing to hold and nothing covered
    have hnone (v : String) : v ∉ (storedHeaders network stream).hostValues := by
      rw [hhost.hostValues_eq]
      exact List.not_mem_nil
    constructor
    · intro _ _ _ v hv
      exact absurd (mem_hostValues_iff_open_or_covered.mpr (Or.inr hv)) (hnone v)
    · intro _ v hv
      exact absurd hv (hnone v)
  · have hpopulated := populated_storedHeaders network stream
    have hopened := openedForm_of_oneHost network stream
    cases network
    case tcp =>
      have hheld := fun v => holdsHost_tcp hhost (v := v)
      simpa [KeepsStoredHosts] using hheld
    case ws =>
      simp only [holdsHost_ws_iff hhost, forall_hostValues_iff, KeepsStoredHosts, PutsHosts]
      simp
    case httpUpgrade | splitHttp =>
      obtain ⟨htext, hrows⟩ := hopened (by decide)
      rw [Form.forall_holdsHost_iff_of_lifted htext hrows hpopulated hhost]
      simp [KeepsStoredHosts, PutsHosts]
    all_goals cases hnetwork

/-! ## Both directions -/

/-- The saved request of a form has the hosts that the form gives if and only if covered ones are
given elsewhere too where hosts take their place, and it has the other headers as they are given.
The form that a stored request is read into holds all its hosts if and only if each line of a
covered one is stored elsewhere too where hosts take its place. -/
theorem Conversion.hosts_kept_iff {form : Form} (hform : form.HasRequest) (network : Network)
    (hnetwork : network.namesHost = true) (stream : Json) :
    ((∀ v, v ∈ hostsIn form.savedRequest ↔ v ∈ form.givenHosts) ↔ form.KeepsHosts) ∧
      (∀ name, isHost name = false →
        Entries.find? name (headersIn form.savedRequest) =
          (form.requestHeaders.find? name).map HeaderValue.toJson) ∧
      ((∀ v ∈ (storedHeaders network stream).hostValues,
          (openedForm network stream).HoldsHost v) ↔ KeepsStoredHosts network stream) := by
  obtain ⟨hsent, hheaders⟩ := Form.get?_savedRequest hform
  have hhosts := hostsIn_eq hsent form.keepNonBlank_sentHost hheaders
  have hothers (name : String) (h : isHost name = false) :
      Entries.find? name (headersIn form.savedRequest) =
        (form.requestHeaders.find? name).map HeaderValue.toJson := by
    rw [find?_headersIn hheaders, form.find?_sentHeaders h]
  rw [hhosts]
  exact ⟨Form.sent_iff_keepsHosts hform.network, hothers, forall_holdsHost_iff hnetwork stream⟩

/-- A form with a covered host in its rows and a host field. -/
def coveredForm (host : String) : Form :=
  { Form.template with
    network := .ws
    ws :=
      { WsForm.template with
        host
        headers := [⟨"HOST", "a.example"⟩, ⟨"Host", "b.example"⟩] } }

/-- Stream settings with a covered host in their headers and a host. -/
def coveredStream (host : String) : Json :=
  ofMembers [("wsSettings",
    ofMembers [
      ("host", .string host),
      ("headers", ofMembers [("HOST", .string "a.example"), ("Host", .string "b.example")])])]

/-- A covered host that is the host as well is saved and read. -/
theorem coveredForm_kept :
    (coveredForm "b.example").HasRequest ∧ Network.ws.namesHost = true ∧
      (∀ v, v ∈ hostsIn (coveredForm "b.example").savedRequest ↔
        v ∈ (coveredForm "b.example").givenHosts) ∧
      ∀ v ∈ (storedHeaders .ws (coveredStream "b.example")).hostValues,
        (openedForm .ws (coveredStream "b.example")).HoldsHost v := by
  have hrequest : (coveredForm "b.example").HasRequest := ⟨rfl, rfl, nofun⟩
  have hkeeps : (coveredForm "b.example").KeepsHosts := by
    intro _
    decide
  have hstored : KeepsStoredHosts .ws (coveredStream "b.example") := by
    intro _ _
    decide
  obtain ⟨hsaved, _, hread⟩ :=
    Conversion.hosts_kept_iff hrequest .ws rfl (coveredStream "b.example")
  exact ⟨hrequest, rfl, hsaved.mpr hkeeps, hread.mpr hstored⟩

/-- A covered host that stands nowhere else is neither saved nor read. -/
theorem coveredForm_lost :
    ¬ (∀ v, v ∈ hostsIn (coveredForm "").savedRequest ↔ v ∈ (coveredForm "").givenHosts) ∧
      ¬ ∀ v ∈ (storedHeaders .ws (coveredStream "")).hostValues,
        (openedForm .ws (coveredStream "")).HoldsHost v := by
  constructor
  · intro h
    exact absurd ((h "b.example").mpr (by decide)) (by decide)
  · intro h
    exact absurd (h "b.example" (by decide)) (by unfold Form.HoldsHost; decide)

end ProxyInbound
