import Mathlib.Tactic.MkIffOfInductiveProp
import ProxyInbound.Proofs.Reopening.Fields
import ProxyInbound.Proofs.Wire.Settings
import ProxyInbound.Wire.Settings

/-!
# Protocol settings, sniffing and socket options reopened

Each group of fields is reopened from the template with what was saved of it. A group is settled if
it is reopened as it was. Rows of fallbacks and accounts that are unfinished are left out on the
way, so settled rows are finished, and where no account is left a single blank row takes the place
of all.
-/

namespace ProxyInbound

open Text.White Text.Parts Text.Numeral Wire

/-! ## Fallbacks -/

/-- A fallback row that is finished and settled in its fields. -/
@[mk_iff] structure FallbackRow.Settled (row : FallbackRow) : Prop where
  /-- The destination is given, as the text of the port it names. -/
  dest : (Port.ofText? row.dest).map Port.toText = some row.dest
  /-- The path is saved or empty. -/
  path : SettledText FallbackRow.blank.path row.path
  /-- The kind of destination is saved or empty. -/
  kind : SettledText FallbackRow.blank.kind row.kind
  /-- The negotiated protocols stand between commas and nothing else does. -/
  alpn : row.alpn = joinCommas (commaParts row.alpn)
  /-- The version is a numeral or empty. -/
  xver : SettledWord FallbackRow.blank.xver row.xver

/-- The fallback of a row, if the row is finished. -/
def Wire.Fallback.ofRow? (row : FallbackRow) : Option Fallback :=
  if (ofRow row).dest.isSome then some (ofRow row) else none

/-- The fallbacks of rows are those of the finished rows. -/
theorem Wire.Fallback.ofRows_eq (rows : List FallbackRow) :
    ofRows rows = rows.filterMap ofRow? := by
  rw [ofRows, List.filter_map, ← List.filterMap_eq_map, ← List.filterMap_eq_filter,
    List.filterMap_filterMap]
  refine List.filterMap_congr fun row _ => ?_
  by_cases h : (ofRow row).dest.isSome = true <;> simp [ofRow?, Option.guard, h]

/-- A fallback row is laid out as it was exactly when it is settled. -/
theorem FallbackRow.map_toRow_iff (row : FallbackRow) :
    (Fallback.ofRow? row).map Fallback.toRow = some row ↔ row.Settled := by
  obtain ⟨dest, path, kind, alpn, xver⟩ := row
  have hpath := getD_nonBlank?_iff_settled blank.path path (by decide)
  have hkind := getD_nonBlank?_iff_settled blank.kind kind (by decide)
  have hxver := wordText_iff_settled blank.xver xver (by decide)
  rw [settled_iff, ← hpath, ← hkind, ← hxver]
  cases hdest : Port.ofText? dest with
  | none => simp [Fallback.ofRow?, Fallback.ofRow, hdest]
  | some port =>
    simp only [Fallback.ofRow?, Fallback.ofRow, hdest, Option.isSome_some, if_true,
      Option.map_some, Fallback.toRow, wordText, blank, Option.some.injEq, mk.injEq,
      Option.getD_some]
    rw [eq_comm (a := alpn)]

/-! ## Accounts -/

/-- An account row that names a user and is settled in its fields. -/
@[mk_iff] structure AccountRow.Settled (row : AccountRow) : Prop where
  /-- The user is named and trimmed. -/
  user : trim row.user = row.user ∧ row.user ≠ ""
  /-- The password is saved or empty. -/
  pass : SettledText AccountRow.blank.pass row.pass

/-- An account row is laid out as it was exactly when it is settled. -/
theorem AccountRow.map_toRow_iff (row : AccountRow) :
    (Account.ofRow? row).map Account.toRow = some row ↔ row.Settled := by
  obtain ⟨user, pass⟩ := row
  have hpass := getD_nonBlank?_iff_settled blank.pass pass (by decide)
  rw [settled_iff, ← hpass]
  by_cases huser : ProxyInbound.Text.White.blank user = true
  · have hnot : ¬(trim user = user ∧ user ≠ "") := by
      rintro ⟨htrim, hne⟩
      exact hne (htrim.symm.trans ((blank_iff_trim user).mp huser))
    simp [Account.ofRow?, huser, hnot]
  · have hne : trim user = user → user ≠ "" := by
      rintro _ rfl
      exact huser blank_empty
    simp [Account.ofRow?, huser, Account.toRow, blank]
    exact fun _ => hne

/-- The rows of accounts as they open: a blank row if no row names a user. -/
def AccountRow.reopened (rows : List AccountRow) : List AccountRow :=
  Account.fillRows (rows.filterMap Account.ofRow?) Form.template.accounts

/-- Account rows that open as they were: a single blank row, or rows that are settled. -/
def AccountRow.SettledRows (rows : List AccountRow) : Prop :=
  rows = [AccountRow.blank] ∨ rows ≠ [] ∧ ∀ row ∈ rows, row.Settled

/-- Account rows open as they were exactly when they are settled. -/
theorem AccountRow.reopened_eq_self_iff (rows : List AccountRow) :
    reopened rows = rows ↔ SettledRows rows := by
  have hrows := map_filterMap_eq_self_iff Account.ofRow? Account.toRow rows
  simp only [map_toRow_iff] at hrows
  rw [SettledRows, ← hrows, reopened, Account.fillRows]
  split <;> rename_i hempty
  · have hnil := List.isEmpty_iff.mp hempty
    rw [hnil]
    constructor
    · exact fun h => Or.inl h.symm
    · rintro (h | ⟨hne, h⟩)
      · exact h.symm
      · exact absurd h.symm hne
  · constructor
    · intro h
      refine Or.inr ⟨?_, h⟩
      rintro rfl
      exact hempty rfl
    · rintro (rfl | ⟨_, h⟩)
      · exact absurd rfl hempty
      · exact h

/-- Fallback rows as they open. -/
def FallbackRow.reopened (rows : List FallbackRow) : List FallbackRow :=
  (Fallback.ofRows rows).map Fallback.toRow

/-- Fallback rows open as they were exactly when each of them is settled. -/
theorem FallbackRow.reopened_eq_self_iff (rows : List FallbackRow) :
    reopened rows = rows ↔ ∀ row ∈ rows, row.Settled := by
  rw [reopened, Fallback.ofRows_eq, map_filterMap_eq_self_iff]
  simp only [map_toRow_iff]

/-! ## Groups of fields -/

/-- The fields of a Shadowsocks inbound as they open. -/
def ShadowsocksForm.reopened (f : ShadowsocksForm) : ShadowsocksForm where
  method := (nonBlank? f.method).getD template.method
  password := (nonBlank? f.password).getD template.password
  network := (nonBlank? f.network).getD template.network

/-- Fields of a Shadowsocks inbound that open as they were. -/
@[mk_iff] structure ShadowsocksForm.Settled (f : ShadowsocksForm) : Prop where
  /-- The cipher is saved. -/
  method : SettledText ShadowsocksForm.template.method f.method
  /-- The password is saved or empty. -/
  password : SettledText ShadowsocksForm.template.password f.password
  /-- The networks are saved. -/
  network : SettledText ShadowsocksForm.template.network f.network

/-- The fields of a Shadowsocks inbound open as they were exactly when they are settled. -/
theorem ShadowsocksForm.reopened_eq_self_iff (f : ShadowsocksForm) :
    f.reopened = f ↔ f.Settled := by
  obtain ⟨method, password, network⟩ := f
  simp (disch := decide) only [reopened, mk.injEq, settled_iff, getD_nonBlank?_iff_settled]

/-- The fields of a SOCKS inbound as they open. -/
def SocksForm.reopened (f : SocksForm) : SocksForm where
  auth := (nonBlank? f.auth).getD template.auth
  udp := f.udp
  ip := (nonBlank? f.ip).getD template.ip

/-- Fields of a SOCKS inbound that open as they were. -/
@[mk_iff] structure SocksForm.Settled (f : SocksForm) : Prop where
  /-- The authentication is saved. -/
  auth : SettledText SocksForm.template.auth f.auth
  /-- The address is saved or empty. -/
  ip : SettledText SocksForm.template.ip f.ip

/-- The fields of a SOCKS inbound open as they were exactly when they are settled. -/
theorem SocksForm.reopened_eq_self_iff (f : SocksForm) : f.reopened = f ↔ f.Settled := by
  obtain ⟨auth, udp, ip⟩ := f
  simp (disch := decide) only [reopened, mk.injEq, settled_iff, getD_nonBlank?_iff_settled,
    true_and]

/-- The kinds of traffic that are saved. -/
def SniffingForm.saved (f : SniffingForm) : List String :=
  (f.destinations.map trim).filter (· ≠ "")

/-- The fields of sniffing as they open. Without a kind of traffic those of a new form return. -/
def SniffingForm.reopened (f : SniffingForm) : SniffingForm :=
  if f.enabled then
    { f with destinations := if f.saved = [] then template.destinations else f.saved }
  else { template with enabled := false }

/-- The fields of sniffing that count: no other while it is disabled. -/
def SniffingForm.active (f : SniffingForm) : SniffingForm :=
  if f.enabled then f else { template with enabled := false }

/-- Fields of sniffing that open as they were. -/
@[mk_iff] structure SniffingForm.Settled (f : SniffingForm) : Prop where
  /-- There is a kind of traffic. -/
  nonempty : f.destinations ≠ []
  /-- Each kind is named and trimmed. -/
  named : ∀ d ∈ f.destinations, trim d = d ∧ d ≠ ""

/-- The kinds of traffic are saved as they are exactly when each is named and trimmed. -/
theorem SniffingForm.saved_eq_iff (f : SniffingForm) :
    f.saved = f.destinations ↔ ∀ d ∈ f.destinations, trim d = d ∧ d ≠ "" := by
  constructor
  · intro h d hd
    rw [← h] at hd
    obtain ⟨hmem, hne⟩ := List.mem_filter.mp hd
    obtain ⟨given, _, rfl⟩ := List.mem_map.mp hmem
    exact ⟨trim_trim given, by simpa using hne⟩
  · intro h
    have htrim : f.destinations.map trim = f.destinations :=
      (List.map_congr_left fun d hd => (h d hd).1).trans (List.map_id _)
    rw [saved, htrim, List.filter_eq_self]
    exact fun d hd => by simpa using (h d hd).2

/-- The fields of sniffing open as they were exactly when they are settled or disabled. -/
theorem SniffingForm.reopened_eq_active_iff (f : SniffingForm) :
    f.reopened = f.active ↔ (f.enabled = true → f.Settled) := by
  rw [reopened, active]
  split <;> rename_i henabled
  · have hopen : ({ f with destinations := if f.saved = [] then template.destinations
        else f.saved } : SniffingForm) = f ↔
        (if f.saved = [] then template.destinations else f.saved) = f.destinations := by
      obtain ⟨enabled, destinations, routeOnly, metadataOnly⟩ := f
      simp
    rw [hopen, settled_iff, ← saved_eq_iff, forall_prop_of_true henabled]
    split <;> rename_i hsaved
    · constructor
      · intro h
        rw [saved, ← h] at hsaved
        exact absurd hsaved (by decide)
      · rintro ⟨hne, h⟩
        exact absurd (h.symm.trans hsaved) hne
    · exact ⟨fun h => ⟨h ▸ hsaved, h⟩, And.right⟩
  · simp [henabled]

/-- The socket options as they open. -/
def SockoptForm.reopened (f : SockoptForm) : SockoptForm :=
  if f.enabled then (Sockopt.ofForm f).fill template else template

/-- The socket options that count: none while they are disabled. -/
def SockoptForm.active (f : SockoptForm) : SockoptForm :=
  if f.enabled then f else template

/-- Socket options that open as they were. -/
@[mk_iff] structure SockoptForm.Settled (f : SockoptForm) : Prop where
  /-- The mark is a numeral or empty. -/
  mark : SettledWord SockoptForm.template.mark f.mark
  /-- The mode is saved. -/
  tproxy : SettledText SockoptForm.template.tproxy f.tproxy
  /-- The strategy is saved. -/
  domainStrategy : SettledText SockoptForm.template.domainStrategy f.domainStrategy
  /-- The time between probes is a signed numeral or empty. -/
  keepAliveInterval : SettledSignedWord SockoptForm.template.keepAliveInterval f.keepAliveInterval
  /-- The idle time is a signed numeral or empty. -/
  keepAliveIdle : SettledSignedWord SockoptForm.template.keepAliveIdle f.keepAliveIdle
  /-- The time for unacknowledged data is a signed numeral or empty. -/
  userTimeout : SettledSignedWord SockoptForm.template.userTimeout f.userTimeout
  /-- The algorithm is saved or empty. -/
  congestion : SettledText SockoptForm.template.congestion f.congestion
  /-- The network interface is saved or empty. -/
  interface : SettledText SockoptForm.template.interface f.interface

/-- The socket options open as they were exactly when they are settled or disabled. -/
theorem SockoptForm.reopened_eq_active_iff (f : SockoptForm) :
    f.reopened = f.active ↔ (f.enabled = true → f.Settled) := by
  rw [reopened, active]
  split <;> rename_i henabled
  · rw [forall_prop_of_true henabled]
    obtain ⟨enabled, _, _, mark, tproxy, _, domainStrategy, interval, idle, timeout, congestion,
      interface⟩ := f
    obtain rfl : enabled = true := henabled
    simp (disch := decide) only [Sockopt.fill, Sockopt.ofForm, mk.injEq, settled_iff,
      getD_nonBlank?_iff_settled, wordText_iff_settled, signedWordText_iff_settled,
      Option.getD_some, true_and]
  · simp [henabled]

end ProxyInbound
