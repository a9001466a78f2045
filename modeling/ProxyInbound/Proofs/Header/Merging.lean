import ProxyInbound.Proofs.Header.Hosts

/-!
# Merging hosts into a map and lifting one out of it

Merging puts hosts in the place of the first host header, together with its values. A map with
another spelling than the usual one never comes back: each time two host headers are taken out and
one is put in, another spelling is gone for good. Lifting takes one host out and leaves the values
behind it under the usual spelling.
-/

namespace ProxyInbound.HeaderMap

open Json Text.Ascii Text.White Text.Parts

/-! ## Merging hosts into a map -/

/-- The map with the first host header replaced by the hosts and those of its values that are not
among them. -/
def mergeHosts (value : List String → HeaderValue) (hosts : List String) (m : HeaderMap) :
    HeaderMap :=
  m.dropHost.putHosts value (appendMissing hosts m.firstHostValues)

/-- Into a map without host headers hosts are put as they are. -/
theorem HostFree.mergeHosts_eq {m : HeaderMap} (h : HostFree m)
    (value : List String → HeaderValue) (hosts : List String) :
    mergeHosts value hosts m = m.putHosts value hosts := by
  rw [mergeHosts, h.firstHostValues_eq, h.dropHost_eq, appendMissing_nil]

/-- If no other spelling is left, the hosts that were merged are found again. -/
theorem firstHostValues_mergeHosts {m : HeaderMap} (h : UsualHost m.dropHost) (hm : Filled m)
    {value : List String → HeaderValue} (hvalue : ∀ hosts, (value hosts).values = hosts)
    (hosts : List String) :
    (mergeHosts value hosts m).firstHostValues = appendMissing hosts m.firstHostValues := by
  by_cases hnil : appendMissing hosts m.firstHostValues = []
  · have hfree := hm.populated.firstHostValues_eq_nil_iff.mp (appendMissing_eq_nil_iff.mp hnil).2
    rw [mergeHosts, hnil, putHosts_nil, hfree.dropHost_eq, hfree.firstHostValues_eq]
  · rw [mergeHosts, h.firstHostValues_putHosts hvalue hnil]

/-- If no other spelling is left, merging once more leaves the other headers alone. -/
theorem dropHost_mergeHosts {m : HeaderMap} (h : UsualHost m.dropHost)
    (value : List String → HeaderValue) (hosts : List String) :
    (mergeHosts value hosts m).dropHost = m.dropHost.remove hostName := by
  rw [mergeHosts, h.dropHost_putHosts]

/-- If no other spelling is left, the hosts can be put beside the headers that are no hosts. -/
theorem mergeHosts_eq_putHosts {m : HeaderMap} (h : UsualHost m.dropHost) (hm : Filled m)
    (value : List String → HeaderValue) (hosts : List String) :
    mergeHosts value hosts m =
      (m.dropHost.remove hostName).putHosts value (appendMissing hosts m.firstHostValues) := by
  rw [mergeHosts]
  by_cases hnil : appendMissing hosts m.firstHostValues = []
  · have hfree := hm.populated.firstHostValues_eq_nil_iff.mp (appendMissing_eq_nil_iff.mp hnil).2
    rw [hnil, putHosts_nil, putHosts_nil, ← h.dropHost_eq, hfree.dropHost_eq, hfree.dropHost_eq]
  · rw [putHosts_of_ne_nil _ value hnil, putHosts_of_ne_nil _ value hnil, remove_insert]

/-- A map that can stand in rows can do so without its first host header. -/
theorem Parted.dropHost {m : HeaderMap} (h : Parted m) : Parted m.dropHost := by
  unfold HeaderMap.dropHost
  split
  · exact h
  · exact h.remove _

/-- The values of the first host header are parts between commas. -/
theorem Parted.isPart_of_firstHostValues {m : HeaderMap} (h : Parted m) {v : String}
    (hv : v ∈ m.firstHostValues) : IsPart isComma v := by
  rw [firstHostValues] at hv
  cases hf : m.firstHost? with
  | none =>
    rw [hf] at hv
    cases hv
  | some e =>
    rw [hf] at hv
    exact h.parted e (mem_of_firstHost? hf).1 v hv

/-- A map that can stand in rows can do so with hosts put into it. -/
theorem Parted.putHosts {m : HeaderMap} (h : Parted m) {value : List String → HeaderValue}
    (hvalue : ∀ hosts, (value hosts).values = hosts) {hosts : List String}
    (hhosts : ∀ v ∈ hosts, IsPart isComma v) : Parted (m.putHosts value hosts) := by
  by_cases hnil : hosts = []
  · rwa [hnil, putHosts_nil]
  · rw [putHosts_of_ne_nil _ value hnil]
    exact h.insert (by decide) (by rwa [hvalue]) (by rwa [hvalue])

/-- A map that can stand in rows can do so with hosts merged into it. -/
theorem Parted.mergeHosts {m : HeaderMap} (h : Parted m) {value : List String → HeaderValue}
    (hvalue : ∀ hosts, (value hosts).values = hosts) {hosts : List String}
    (hhosts : ∀ v ∈ hosts, IsPart isComma v) : Parted (HeaderMap.mergeHosts value hosts m) := by
  refine h.dropHost.putHosts hvalue fun v hv => ?_
  rcases mem_appendMissing.mp hv with hv | hv
  · exact hhosts v hv
  · exact h.isPart_of_firstHostValues hv

/-- A saved map is saved without its first host header. -/
theorem Saved.dropHost {m : HeaderMap} (h : Saved m) : Saved m.dropHost := by
  unfold HeaderMap.dropHost
  split
  · exact h
  · exact h.remove _

/-- A saved map is saved with hosts put into it. -/
theorem Saved.putHosts {m : HeaderMap} (h : Saved m) {hosts : List String}
    (hhosts : ∀ v ∈ hosts, IsPart isComma v) : Saved (m.putHosts HeaderValue.ofValues hosts) := by
  have hparted := h.toParted.putHosts HeaderValue.values_ofValues hhosts
  by_cases hnil : hosts = []
  · rwa [hnil, putHosts_nil]
  · rw [putHosts_of_ne_nil _ _ hnil] at hparted ⊢
    exact h.insert hparted

/-- Regrouping values and dropping the first host header can be done in either order. -/
theorem dropHost_regroup (m : HeaderMap) : m.regroup.dropHost = m.dropHost.regroup := by
  have hfirst : m.regroup.firstHost? =
      m.firstHost?.map fun e => (e.1, HeaderValue.ofValues e.2.values) :=
    List.find?_map
  rw [HeaderMap.dropHost, HeaderMap.dropHost, hfirst]
  cases m.firstHost? with
  | none => rfl
  | some e =>
    apply ext
    exact List.filter_map

/-! ## Lifting one host out of the headers -/

/-- The headers that are left beside a host: all of them if it was given, else those without the
value that took its place. -/
def liftedHeaders (host : Option String) (m : HeaderMap) : HeaderMap :=
  if host.isSome then m
  else m.dropHost.putHosts HeaderValue.ofValues m.firstHostValues.tail

/-- A map that can stand in rows can do so after a host was lifted out of it. -/
theorem Parted.liftedHeaders {m : HeaderMap} (h : Parted m) (host : Option String) :
    Parted (HeaderMap.liftedHeaders host m) := by
  unfold HeaderMap.liftedHeaders
  split
  · exact h
  · exact h.dropHost.putHosts HeaderValue.values_ofValues fun v hv =>
      h.isPart_of_firstHostValues (List.mem_of_mem_tail hv)

/-- Lifting gives the host, else the first value of the first host header. -/
theorem liftHost_nonEmpty? (host : Option String) (m : HeaderMap) :
    liftHost host m.nonEmpty? =
      (host.or m.firstHostValues.head?, (liftedHeaders host m).nonEmpty?) := by
  cases host with
  | some s => rfl
  | none =>
    cases hm : m.nonEmpty? with
    | none =>
      rw [nonEmpty?_eq_none_iff.mp hm]
      rfl
    | some k =>
      have hk : k = m := by rw [← getD_nonEmpty? m, hm, Option.getD_some]
      rw [liftHost, take_hostName, hk]
      simp only [firstHostValues_eq]
      rfl

/-- Lifting a host once more changes nothing. -/
theorem liftHost_liftHost {m : HeaderMap} (h : Filled m) (host : Option String) :
    liftHost (host.or m.firstHostValues.head?) (liftedHeaders host m).nonEmpty? =
      (host.or m.firstHostValues.head?, (liftedHeaders host m).nonEmpty?) := by
  rw [liftHost_nonEmpty?]
  cases host with
  | some s => rfl
  | none =>
    cases hvs : m.firstHostValues with
    | cons v r => rfl
    | nil =>
      have hfree := h.populated.firstHostValues_eq_nil_iff.mp hvs
      have hleft : liftedHeaders none m = m := by
        simp [liftedHeaders, hvs, hfree.dropHost_eq]
      simp [hleft, hvs]

/-- The values of the first host header of a filled map are not blank. -/
theorem Filled.not_blank_of_firstHostValues {m : HeaderMap} (h : Filled m) {v : String}
    (hv : v ∈ m.firstHostValues) : blank v = false := by
  rw [firstHostValues] at hv
  cases hf : m.firstHost? with
  | none =>
    rw [hf] at hv
    cases hv
  | some e =>
    rw [hf] at hv
    exact (h e (mem_of_firstHost? hf).1).visible v hv

/-- A filled map is filled without its first host header. -/
theorem Filled.dropHost {m : HeaderMap} (h : Filled m) : Filled m.dropHost :=
  fun e he => h e (mem_of_mem_dropHost he)

/-- A filled map is filled with hosts that are not blank. -/
theorem Filled.putHosts {m : HeaderMap} (h : Filled m) {value : List String → HeaderValue}
    (hvalue : ∀ hosts, (value hosts).values = hosts) {hosts : List String}
    (hhosts : ∀ v ∈ hosts, blank v = false) : Filled (m.putHosts value hosts) := by
  by_cases hnil : hosts = []
  · rwa [hnil, putHosts_nil]
  · rw [putHosts_of_ne_nil m value hnil]
    exact h.insert hostName ⟨by rwa [hvalue], by rwa [hvalue]⟩

/-- A filled map is filled with hosts merged into it that are not blank. -/
theorem Filled.mergeHosts {m : HeaderMap} (h : Filled m) {value : List String → HeaderValue}
    (hvalue : ∀ hosts, (value hosts).values = hosts) {hosts : List String}
    (hhosts : ∀ v ∈ hosts, blank v = false) : Filled (HeaderMap.mergeHosts value hosts m) := by
  refine h.dropHost.putHosts hvalue fun v hv => ?_
  rcases mem_appendMissing.mp hv with hv | hv
  · exact hhosts v hv
  · exact h.not_blank_of_firstHostValues hv

/-- A filled map is filled after a host was lifted out of it. -/
theorem Filled.liftedHeaders {m : HeaderMap} (h : Filled m) (host : Option String) :
    Filled (HeaderMap.liftedHeaders host m) := by
  unfold HeaderMap.liftedHeaders
  split
  · exact h
  · exact h.dropHost.putHosts HeaderValue.values_ofValues fun v hv =>
      h.not_blank_of_firstHostValues (List.mem_of_mem_tail hv)

/-! ## A host that is entered -/

/-- A host is merged into the headers alike if it is given and if it is the only host header. -/
theorem HostFree.mergeHosts_insert {m : HeaderMap} (h : HostFree m) {name : String}
    (hname : isHost name = true) (host : String) :
    mergeHosts HeaderValue.ofValues [] (m.insert name (.single host)) =
      mergeHosts HeaderValue.ofValues [host] m := by
  rw [h.mergeHosts_eq, mergeHosts, h.dropHost_insert hname, h.firstHostValues_insert hname]
  rfl

/-- A host beside the headers is the same if it is given and if it is lifted out of the only host
header. -/
theorem HostFree.liftHost_insert {m : HeaderMap} (h : HostFree m) {name : String}
    (hname : isHost name = true) (host : String) :
    liftHost none (m.insert name (.single host)).nonEmpty? =
      liftHost (some host) m.nonEmpty? := by
  rw [liftHost_nonEmpty?, liftHost_some, h.firstHostValues_insert hname, liftedHeaders,
    h.dropHost_insert hname, h.firstHostValues_insert hname]
  rfl

/-! ## Counting spellings -/

/-- Whether a name is that of the host header in another spelling than the usual one. -/
def isOddHost (name : String) : Bool :=
  isHost name && name != hostName

/-- The number of names of a kind. -/
def countNames (p : String → Bool) (m : HeaderMap) : Nat :=
  m.entries.countP fun e => p e.1

/-- There are no host headers exactly when none is counted. -/
theorem hostFree_iff_countNames {m : HeaderMap} : HostFree m ↔ countNames isHost m = 0 := by
  simp only [HostFree, countNames, List.countP_eq_zero, Bool.not_eq_true]

/-- There is no other spelling exactly when none is counted. -/
theorem usualHost_iff_countNames {m : HeaderMap} : UsualHost m ↔ countNames isOddHost m = 0 := by
  simp only [UsualHost, countNames, List.countP_eq_zero, isOddHost, Bool.and_eq_true,
    bne_iff_ne, not_and, not_not]

/-- Without the first host header one name less is counted, if that one was. -/
theorem countNames_dropHost {m : HeaderMap} {e : String × HeaderValue}
    (h : m.firstHost? = some e) (p : String → Bool) :
    countNames p m.dropHost + (if p e.1 then 1 else 0) = countNames p m := by
  rw [dropHost, h]
  exact m.ascending.countP_remove (mem_of_firstHost? h).1 p

/-- Without the first host header no more names are counted. -/
theorem countNames_dropHost_le (p : String → Bool) (m : HeaderMap) :
    countNames p m.dropHost ≤ countNames p m := by
  cases h : m.firstHost? with
  | none => rw [(firstHost?_eq_none_iff.mp h).dropHost_eq]
  | some e =>
    have hcount := countNames_dropHost h p
    omega

/-- With hosts put in at most the usual spelling is counted beside what was. -/
theorem countNames_putHosts_le (p : String → Bool) (m : HeaderMap)
    (value : List String → HeaderValue) (hosts : List String) :
    countNames p (m.putHosts value hosts) ≤ countNames p m + if p hostName then 1 else 0 := by
  by_cases hnil : hosts = []
  · rw [hnil, putHosts_nil]
    omega
  · rw [putHosts_of_ne_nil m value hnil]
    exact Entries.countP_insert_le hostName (value hosts) m.entries p

/-- Regrouping values leaves the names. -/
@[simp] theorem countNames_regroup (p : String → Bool) (m : HeaderMap) :
    countNames p m.regroup = countNames p m := by
  rw [countNames, regroup, List.countP_map]
  rfl

/-- Dropping the first host header leaves one host header less. -/
theorem countNames_isHost_dropHost {m : HeaderMap} (h : ¬ HostFree m) :
    countNames isHost m.dropHost + 1 = countNames isHost m := by
  cases hf : m.firstHost? with
  | none => exact absurd (firstHost?_eq_none_iff.mp hf) h
  | some e =>
    have hcount := countNames_dropHost hf isHost
    rwa [if_pos (mem_of_firstHost? hf).2] at hcount

/-- Merging hosts leaves no more host headers, unless it puts in the first. -/
theorem countNames_isHost_mergeHosts_le {m : HeaderMap} (h : ¬ HostFree m)
    (value : List String → HeaderValue) (hosts : List String) :
    countNames isHost (mergeHosts value hosts m) ≤ countNames isHost m := by
  have hdrop := countNames_isHost_dropHost h
  have hput := countNames_putHosts_le isHost m.dropHost value
    (appendMissing hosts m.firstHostValues)
  rw [isHost_hostName, if_pos rfl] at hput
  rw [mergeHosts]
  omega

/-- Merging hosts adds no other spelling. -/
theorem countNames_isOddHost_mergeHosts_le (value : List String → HeaderValue)
    (hosts : List String) (m : HeaderMap) :
    countNames isOddHost (mergeHosts value hosts m) ≤ countNames isOddHost m.dropHost := by
  have hput := countNames_putHosts_le isOddHost m.dropHost value
    (appendMissing hosts m.firstHostValues)
  rwa [show isOddHost hostName = false by simp [isOddHost], if_neg Bool.false_ne_true,
    Nat.add_zero] at hput

/-- Of two host headers that are taken out one has another spelling, if there is one. -/
theorem countNames_isOddHost_dropHost_dropHost_lt {m : HeaderMap} (h : ¬ UsualHost m) :
    countNames isOddHost m.dropHost.dropHost < countNames isOddHost m := by
  rw [usualHost_iff_countNames] at h
  have hle := countNames_dropHost_le isOddHost m.dropHost
  cases hf : m.firstHost? with
  | none =>
    have hfree := (firstHost?_eq_none_iff.mp hf).usualHost
    exact absurd (usualHost_iff_countNames.mp hfree) h
  | some e =>
    have hfirst := countNames_dropHost hf isOddHost
    by_cases hodd : isOddHost e.1 = true
    · rw [if_pos hodd] at hfirst
      omega
    · -- the first has the usual spelling, so the second has another
      have husual : e.1 = hostName := by
        simpa [isOddHost, (mem_of_firstHost? hf).2] using hodd
      rw [if_neg hodd, Nat.add_zero] at hfirst
      cases hs : m.dropHost.firstHost? with
      | none =>
        have hfree := (firstHost?_eq_none_iff.mp hs).usualHost
        rw [usualHost_iff_countNames] at hfree
        omega
      | some d =>
        obtain ⟨hd, hhost⟩ := mem_of_firstHost? hs
        rw [dropHost, hf] at hd
        have hne : d.1 ≠ hostName := husual ▸ (Entries.mem_remove_iff.mp hd).2
        have hsecond := countNames_dropHost hs isOddHost
        rw [if_pos (by simp [isOddHost, hhost, hne])] at hsecond
        omega

end ProxyInbound.HeaderMap
