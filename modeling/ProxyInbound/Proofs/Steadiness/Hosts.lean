import ProxyInbound.Proofs.Steadiness.Sections

/-!
# Hosts that are steady

Where several hosts are merged into the headers, opening and saving again merges once more. Each
merging that finds a host header in another spelling than the usual one loses that spelling, so the
headers are steady only if none but the first host header of the rows had another spelling. Then
they are steady exactly when the hosts are different and none holds a line feed.
-/

namespace ProxyInbound

open Text.White Text.Parts Wire HeaderMap

/-- Hosts and rows whose headers are saved again as they were. -/
@[mk_iff] structure SteadyHosts (hosts : String) (rows : List HeaderRow) : Prop where
  /-- Beside the first host header of the rows there is none but in the usual spelling. -/
  usual : (ofRows rows).dropHost.UsualHost
  /-- No host is given twice. -/
  nodup : (values hosts).Nodup
  /-- No value of the first host header breaks into lines. -/
  unbroken : ∀ v ∈ (ofRows rows).firstHostValues, ∀ c ∈ v.toList, isLineSeparator c = false

/-- Hosts that are taken once each, joined and taken apart are as they were exactly when they are
different and each is one value. -/
theorem values_join_appendMissing_iff (hosts : List String) :
    values (join (appendMissing [] hosts)) = hosts ↔
      hosts.Nodup ∧ ∀ v ∈ hosts, IsPart isValueSeparator v := by
  have honce (h : ∀ v ∈ hosts, IsPart isValueSeparator v) :
      values (join (appendMissing [] hosts)) = appendMissing [] hosts := by
    refine values_join_of_isPart fun v hv => ?_
    rcases mem_appendMissing.mp hv with hv | hv
    · cases hv
    · exact h v hv
  constructor
  · intro h
    have hparts : ∀ v ∈ hosts, IsPart isValueSeparator v := by
      intro v hv
      rw [← h] at hv
      exact isPart_of_mem_parts hv
    exact ⟨appendMissing_nil_left_iff.mp ((honce hparts).symm.trans h), hparts⟩
  · rintro ⟨hnodup, hparts⟩
    rw [honce hparts, appendMissing_nil_left_iff.mpr hnodup]

/-- The hosts that are merged are different and each one value exactly when those of the field are
different and those of the header do not break into lines. -/
theorem merged_hosts_iff (hosts : String) (rows : List HeaderRow) :
    ((appendMissing (values hosts) (ofRows rows).firstHostValues).Nodup ∧
      ∀ v ∈ appendMissing (values hosts) (ofRows rows).firstHostValues,
        IsPart isValueSeparator v) ↔
      (values hosts).Nodup ∧
        ∀ v ∈ (ofRows rows).firstHostValues, ∀ c ∈ v.toList, isLineSeparator c = false := by
  have hparted := (saved_ofRows rows).toParted
  rw [nodup_appendMissing_iff, and_congr_right_iff]
  intro _
  constructor
  · intro h v hv c hc
    have hbreak := (h v (mem_appendMissing.mpr (Or.inr hv))).unbroken c hc
    rw [isValueSeparator, Bool.or_eq_false_iff] at hbreak
    exact hbreak.1
  · intro h v hv
    rcases mem_appendMissing.mp hv with hv | hv
    · exact isPart_of_mem_parts hv
    · have hpart := hparted.isPart_of_firstHostValues hv
      refine hpart.of_unbroken fun c hc => ?_
      rw [isValueSeparator, Bool.or_eq_false_iff]
      exact ⟨h v hv c hc, hpart.unbroken c hc⟩

/-- Hosts and rows are merged again into the same headers exactly when they are steady, if they open
from a map that has no more other spellings than the headers and that, where there are none, holds
the same hosts and other headers. -/
theorem merged_again_iff {value : List String → HeaderValue}
    (hvalue : ∀ hosts, (value hosts).values = hosts) {hosts : String} {rows : List HeaderRow}
    {k : HeaderMap} (hk : k.Parted)
    (hodd : countNames isOddHost k ≤
      countNames isOddHost (mergeHosts value (values hosts) (ofRows rows)))
    (husual : (ofRows rows).dropHost.UsualHost →
      k.dropHost = (ofRows rows).dropHost.remove hostName ∧
        appendMissing [] k.firstHostValues =
          appendMissing [] (appendMissing (values hosts) (ofRows rows).firstHostValues)) :
    mergeHosts value (values (join (appendMissing [] k.firstHostValues)))
        (ofRows (editRows (some k.dropHost))) = mergeHosts value (values hosts) (ofRows rows) ↔
      SteadyHosts hosts rows := by
  have hsaved := saved_ofRows rows
  by_cases hspelling : (ofRows rows).dropHost.UsualHost
  · obtain ⟨hdrop, happend⟩ := husual hspelling
    have hrest : ofRows (editRows (some k.dropHost)) =
        (ofRows rows).dropHost.remove hostName := by
      rw [ofRows_editRows hk.dropHost, hdrop, (hsaved.dropHost.remove hostName).regroup_eq]
    have hfree := hspelling.hostFree_remove
    rw [hrest, hfree.mergeHosts_eq, mergeHosts_eq_putHosts hspelling hsaved.toParted.toFilled,
      hfree.putHosts_inj hvalue, happend, values_join_appendMissing_iff, merged_hosts_iff]
    exact ⟨fun h => ⟨hspelling, h.1, h.2⟩, fun h => ⟨h.nodup, h.unbroken⟩⟩
  · constructor
    · intro h
      have hwritten : ¬ (mergeHosts value (values hosts) (ofRows rows)).UsualHost :=
        mt UsualHost.of_putHosts hspelling
      rw [usualHost_iff_countNames] at hwritten
      have hagain := countNames_isOddHost_mergeHosts_le value
        (values (join (appendMissing [] k.firstHostValues)))
        (ofRows (editRows (some k.dropHost)))
      rw [h, ofRows_editRows hk.dropHost, dropHost_regroup, countNames_regroup] at hagain
      -- of the two host headers that were taken out one had another spelling
      by_cases hkusual : k.UsualHost
      · have hnone := usualHost_iff_countNames.mp hkusual
        have hle := countNames_dropHost_le isOddHost k
        have hle' := countNames_dropHost_le isOddHost k.dropHost
        omega
      · have hlt := countNames_isOddHost_dropHost_dropHost_lt hkusual
        omega
    · intro h
      exact absurd h.usual hspelling

/-! ## WebSocket -/

/-- Fields of the WebSocket network that are saved again as they were. -/
@[mk_iff] structure WsForm.Steady (f : WsForm) : Prop where
  /-- The path is given. -/
  path : blank f.path = false
  /-- The hosts and the headers are steady. -/
  hosts : SteadyHosts f.host f.headers

/-- The headers of a WebSocket are saved again as they were exactly when they are steady. -/
theorem WsForm.headersOfForm_reopened_iff (f : WsForm) :
    Ws.headersOfForm f.reopened = Ws.headersOfForm f ↔ SteadyHosts f.host f.headers := by
  have hsaved := saved_ofRows f.headers
  rw [Ws.headersOfForm, reopened_eq, Ws.headersOfForm]
  refine merged_again_iff HeaderValue.values_ofValues f.parted_openedHeaders ?_ fun husual => ?_
  · exact (countNames_isOddHost_mergeHosts_le _ _ _).trans (countNames_dropHost_le _ _)
  · have hfirst := firstHostValues_mergeHosts husual hsaved.toParted.toFilled
      HeaderValue.values_ofValues (values f.host)
    have hdrop := dropHost_mergeHosts husual HeaderValue.ofValues (values f.host)
    have hfree := husual.hostFree_remove
    rw [openedHeaders, mergeHosts, Ws.headersOfForm, hfirst, hdrop, hfree.dropHost_putHosts,
      hfree.firstHostValues_putHosts HeaderValue.values_ofValues]
    exact ⟨rfl, appendMissing_appendMissing_nil _⟩

/-- The fields of the WebSocket network are saved again as they were exactly when they are
steady. -/
theorem WsForm.ofForm_reopened_iff (f : WsForm) :
    Ws.ofForm f.reopened = Ws.ofForm f ↔ f.Steady := by
  rw [Ws.ofForm_eq f.reopened, Ws.ofForm_eq f, Ws.mk.injEq, nonEmpty?_inj,
    headersOfForm_reopened_iff, steady_iff, reopened_eq]
  simp (disch := decide) only [nonBlank?_getD_iff, true_and]

/-! ## TCP -/

/-- Fields of an HTTP disguise that are saved again as they were. -/
@[mk_iff] structure TcpForm.SteadyHttp (f : TcpForm) : Prop where
  /-- The hosts and the headers of the request are steady. -/
  hosts : SteadyHosts f.hosts f.headers
  /-- There is a path. -/
  somePath : values f.paths ≠ []
  /-- The version of the request is given. -/
  version : blank f.version = false
  /-- The method is given. -/
  method : blank f.method = false

/-- The headers of a request are saved again as they were exactly when they are steady. -/
theorem TcpForm.headersOfForm_reopened_iff {f : TcpForm}
    (h : f.headerType = TcpHeader.httpKind) :
    TcpRequest.headersOfForm f.reopened = TcpRequest.headersOfForm f ↔
      SteadyHosts f.hosts f.headers := by
  have hsaved := saved_ofRows f.headers
  rw [TcpRequest.headersOfForm_eq f.reopened, reopened_eq h, TcpRequest.headersOfForm_eq]
  have hparted : (mergeHosts .multi (values f.hosts) (ofRows f.headers)).Parted :=
    hsaved.toParted.mergeHosts (fun _ => rfl) fun _ => isPart_isComma_of_mem_values
  refine merged_again_iff (fun _ => rfl) hparted le_rfl fun husual => ?_
  rw [firstHostValues_mergeHosts husual hsaved.toParted.toFilled fun _ => rfl,
    dropHost_mergeHosts husual]
  exact ⟨rfl, rfl⟩

/-- The paths of a request are saved again as they were exactly when there is one. -/
theorem TcpForm.values_paths_iff (paths : String) :
    values (if values paths = [] then template.paths else join (values paths)) = values paths ↔
      values paths ≠ [] := by
  split <;> rename_i hnil
  · rw [hnil]
    constructor
    · intro h
      exact absurd h (by decide)
    · intro h
      exact absurd rfl h
  · exact ⟨fun _ => hnil, fun _ => values_join_values paths⟩

/-- The fields of the TCP network are saved again as they were exactly when an HTTP disguise is
steady. -/
theorem TcpForm.ofForm_reopened_iff (f : TcpForm) :
    Tcp.ofForm f.reopened = Tcp.ofForm f ↔
      (f.headerType = TcpHeader.httpKind → f.SteadyHttp) := by
  by_cases h : f.headerType = TcpHeader.httpKind
  · rw [forall_prop_of_true h]
    have hkind : f.reopened.headerType = TcpHeader.httpKind := by rw [reopened_eq h]
    have hresponse : TcpResponse.ofForm? f.reopened = TcpResponse.ofForm? f := by
      rw [TcpResponse.ofForm?, TcpResponse.ofForm?, reopened_eq h]
      simp (disch := decide) only [nonBlank?_getD_of_blank, ofRows?_editRows_ofRows?]
    have hrequest : TcpRequest.ofForm f.reopened = TcpRequest.ofForm f ↔ f.SteadyHttp := by
      rw [TcpRequest.ofForm, TcpRequest.ofForm, TcpRequest.mk.injEq, nonEmpty?_inj,
        headersOfForm_reopened_iff h, steadyHttp_iff, reopened_eq h]
      simp (disch := decide) only [nonBlank?_getD_iff, values_paths_iff]
      constructor
      · rintro ⟨hversion, hmethod, hpath, hhosts⟩
        exact ⟨hhosts, hpath, hversion, hmethod⟩
      · rintro ⟨hhosts, hpath, hversion, hmethod⟩
        exact ⟨hversion, hmethod, hpath, hhosts⟩
    have haccept : f.reopened.acceptProxyProtocol = f.acceptProxyProtocol := by
      rw [reopened_eq h]
    rw [Tcp.ofForm, Tcp.ofForm, TcpHeader.ofForm?, TcpHeader.ofForm?, if_pos h, if_pos hkind,
      hresponse, haccept, ← hrequest]
    simp
  · have hplain : f.reopened =
        { template with acceptProxyProtocol := f.acceptProxyProtocol } := by
      rw [reopened, Tcp.fill, Tcp.ofForm, TcpHeader.ofForm?, if_neg h]
      rfl
    have hnone : template.headerType ≠ TcpHeader.httpKind := by decide
    rw [hplain, Tcp.ofForm, Tcp.ofForm, TcpHeader.ofForm?, TcpHeader.ofForm?, if_neg h,
      if_neg hnone]
    exact ⟨fun _ hcontra => absurd hcontra h, fun _ => rfl⟩

end ProxyInbound
