import ProxyInbound.Proofs.Ports
import ProxyInbound.Proofs.Wire.Keys

/-!
# Numbers

Numbers are edited as texts. A text that denotes a number that fits its word is stored as this
number, any other text is not stored, and the stored number opens as its canonical text. A stored
text that denotes a number is read as this number too, so the form, the stored numbers and the
stored texts agree.
-/

namespace ProxyInbound

open Json Text.White Text.Numeral Wire

/-! ## Members that hold numbers -/

namespace Text.Numeral.Kind

/-- The number that a value holds. -/
def numberOf? : Kind → Json → Option Int
  | unsigned, v => v.toWord?.map fun w => w.toNat
  | signed, v => v.toSignedWord?.map Int64.toInt

/-- The number that a member holds. -/
def numberAt? : Kind → Json → String → Option Int
  | unsigned, v, key => (v.wordAt? key).map fun w => w.toNat
  | signed, v, key => (v.signedWordAt? key).map Int64.toInt

/-- The number of a member is the number of the value that stands there. -/
theorem numberAt?_eq_bind (kind : Kind) (v : Json) (key : String) :
    kind.numberAt? v key = (v.get? key).bind kind.numberOf? := by
  cases kind with
  | unsigned =>
    rw [numberAt?, wordAt?, Option.map_bind]
    rfl
  | signed =>
    rw [numberAt?, signedWordAt?, Option.map_bind]
    rfl

/-- A number is read from an integer exactly if it is the integer and fits a word. -/
theorem numberOf?_integer {kind : Kind} {i n : Int} :
    kind.numberOf? (integer i) = some n ↔ i = n ∧ kind.Fits n := by
  cases kind with
  | unsigned =>
    have hword : (integer i).toWord? = if 0 ≤ i then word? i.toNat else none := rfl
    rw [numberOf?, hword, fits_unsigned_iff, Option.map_eq_some_iff]
    constructor
    · rintro ⟨w, hw, rfl⟩
      split at hw <;> rename_i hi
      · rw [toNat_of_word? hw]
        exact ⟨(Int.toNat_of_nonneg hi).symm, w, by rw [toNat_of_word? hw]⟩
      · cases hw
    · rintro ⟨rfl, w, rfl⟩
      exact ⟨w, by rw [if_pos (Int.natCast_nonneg _), Int.toNat_natCast, word?_toNat], rfl⟩
  | signed =>
    have hword : (integer i).toSignedWord? = signedWord? i := rfl
    rw [numberOf?, hword, fits_signed_iff, Option.map_eq_some_iff]
    constructor
    · rintro ⟨w, hw, rfl⟩
      exact ⟨(toInt_of_signedWord? hw).symm, w, rfl⟩
    · rintro ⟨rfl, w, rfl⟩
      exact ⟨w, signedWord?_toInt w, rfl⟩

/-- A number is read from a value exactly if the value is this number, and it fits a word, or is a
text that denotes it. -/
theorem numberOf?_eq_some_iff {kind : Kind} {m : Json} {n : Int} :
    kind.numberOf? m = some n ↔
      (m = integer n ∧ kind.Fits n) ∨ ∃ s, m = string s ∧ kind.Denotes s n := by
  cases m with
  | string s =>
    have hread : kind.numberOf? (string s) = kind.read? s := by cases kind <;> rfl
    rw [hread, read?_eq_some_iff]
    simp [integer]
  | number x =>
    cases x with
    | integer i =>
      have hinteger : kind.numberOf? (integer i) = some n ↔ i = n ∧ kind.Fits n :=
        numberOf?_integer
      simpa [integer] using hinteger
    | double d => cases kind <;> simp [numberOf?, toWord?, toSignedWord?, Number.toWord?,
        Number.toSignedWord?, integer]
  | null | bool | array | object =>
    cases kind <;> simp [numberOf?, toWord?, toSignedWord?, integer]

/-- A number is read from a member exactly if the member is this number, and it fits a word, or is
a text that denotes it. -/
theorem numberAt?_eq_some_iff {kind : Kind} {v : Json} {key : String} {n : Int} :
    kind.numberAt? v key = some n ↔
      (v.get? key = some (integer n) ∧ kind.Fits n) ∨
        ∃ s, v.get? key = some (string s) ∧ kind.Denotes s n := by
  rw [numberAt?_eq_bind]
  cases v.get? key with
  | none => simp
  | some m => simp only [Option.bind_some, numberOf?_eq_some_iff, Option.some.injEq]

end Text.Numeral.Kind

/-! ## Fields that hold numbers -/

/-- A field of a group that holds a number as text. -/
structure NumberField (R : Type) where
  /-- How the number is written. -/
  kind : Kind
  /-- The key that the number is stored under. -/
  key : String
  /-- The text of the field. -/
  text : R → String

/-- The sizes, the interval and the capacities of the KCP network. -/
def KcpForm.numbers : List (NumberField KcpForm) :=
  [ ⟨.unsigned, "mtu", mtu⟩,
    ⟨.unsigned, "tti", tti⟩,
    ⟨.unsigned, "uplinkCapacity", uplinkCapacity⟩,
    ⟨.unsigned, "downlinkCapacity", downlinkCapacity⟩,
    ⟨.unsigned, "readBufferSize", readBufferSize⟩,
    ⟨.unsigned, "writeBufferSize", writeBufferSize⟩ ]

/-- The version of the proxy protocol and the time difference of REALITY. -/
def RealityForm.numbers : List (NumberField RealityForm) :=
  [ ⟨.unsigned, "xver", xver⟩,
    ⟨.unsigned, "maxTimeDiff", maxTimeDiff⟩ ]

/-- The mark and the times of the socket options. -/
def SockoptForm.numbers : List (NumberField SockoptForm) :=
  [ ⟨.unsigned, "mark", mark⟩,
    ⟨.signed, "tcpKeepAliveInterval", keepAliveInterval⟩,
    ⟨.signed, "tcpKeepAliveIdle", keepAliveIdle⟩,
    ⟨.signed, "tcpUserTimeout", userTimeout⟩ ]

/-- The version of the proxy protocol of a fallback. -/
def FallbackRow.numbers : List (NumberField FallbackRow) :=
  [⟨.unsigned, "xver", xver⟩]

variable {R : Type}

/-- A section has a member for a field exactly if the text of the field denotes a number, and the
member is this number. -/
def StoresNumbers (numbers : List (NumberField R)) (r : R) (v : Json) : Prop :=
  ∀ field ∈ numbers, ∀ m,
    v.get? field.key = some m ↔ ∃ n, m = integer n ∧ field.kind.Denotes (field.text r) n

/-- A field whose text denotes a number opens with the canonical text of this number. -/
def ReopensNumbers (numbers : List (NumberField R)) (r opened : R) : Prop :=
  ∀ field ∈ numbers, ∀ n, field.kind.Denotes (field.text r) n → field.text opened = decimalInt n

/-- A group of a form keeps its numbers if its section stores them and they open again, provided
that the group is used. A group that is not used has no section. -/
structure KeepsNumbers (numbers : List (NumberField R)) (used : Prop) (r : R) (stored : Json)
    (opened : R) : Prop where
  /-- The section stores the numbers. -/
  stores : used → StoresNumbers numbers r stored
  /-- The numbers open again. -/
  reopens : used → ReopensNumbers numbers r opened
  /-- There is no section. -/
  absent : ¬ used → stored = null

/-! ## Groups that are stored and opened -/

/-- An unsigned word that is read from a text is stored as the number that is read. -/
theorem wordField_unsigned? (s : String) :
    wordField (unsigned? s) = (Kind.unsigned.read? s).map integer := by
  rw [wordField, Kind.read?, Option.map_map]
  rfl

/-- A signed word that is read from a text is stored as the number that is read. -/
theorem signedWordField_signed? (s : String) :
    signedWordField (signed? s) = (Kind.signed.read? s).map integer := by
  rw [signedWordField, Kind.read?, Option.map_map]
  rfl

/-- An unsigned word that is read from a text is laid out as the number that is read. -/
theorem wordText_unsigned? (s held : String) :
    wordText (unsigned? s) held = ((Kind.unsigned.read? s).map decimalInt).getD held := by
  rw [wordText, Kind.read?, Option.map_map]
  rfl

/-- A signed word that is read from a text is laid out as the number that is read. -/
theorem signedWordText_signed? (s held : String) :
    signedWordText (signed? s) held = ((Kind.signed.read? s).map decimalInt).getD held := by
  rw [signedWordText, Kind.read?, Option.map_map]
  rfl

/-- A section that has for each field what is read from its text stores the numbers. -/
theorem StoresNumbers.of_read? {numbers : List (NumberField R)} {r : R} {v : Json}
    (h : ∀ field ∈ numbers, v.get? field.key = (field.kind.read? (field.text r)).map integer) :
    StoresNumbers numbers r v := by
  intro field hfield m
  rw [h field hfield, Option.map_eq_some_iff]
  constructor
  · rintro ⟨n, hn, rfl⟩
    exact ⟨n, rfl, Kind.read?_eq_some_iff.mp hn⟩
  · rintro ⟨n, rfl, hn⟩
    exact ⟨n, Kind.read?_eq_some_iff.mpr hn, rfl⟩

/-- Fields that open with what is read from their texts open with their numbers. -/
theorem ReopensNumbers.of_read? {numbers : List (NumberField R)} {r opened : R} (held : R)
    (h : ∀ field ∈ numbers, field.text opened =
      ((field.kind.read? (field.text r)).map decimalInt).getD (field.text held)) :
    ReopensNumbers numbers r opened := by
  intro field hfield n hn
  rw [h field hfield, Kind.read?_eq_some_iff.mpr hn, Option.map_some, Option.getD_some]

/-- The KCP network stores its numbers, and they open again. -/
theorem KcpForm.numbers_kept (f : KcpForm) :
    StoresNumbers numbers f (Kcp.ofForm f).toJson ∧ ReopensNumbers numbers f f.reopened := by
  constructor
  · refine .of_read? ?_
    simp only [numbers, List.forall_mem_cons, List.not_mem_nil, false_implies, implies_true,
      and_true, ← wordField_unsigned?]
    simp [Kcp.toJson, Kcp.ofForm, get?_ofFields]
  · refine .of_read? template ?_
    simp only [numbers, List.forall_mem_cons, List.not_mem_nil, false_implies, implies_true,
      and_true, ← wordText_unsigned?]
    simp only [reopened, Kcp.fill, Kcp.ofForm, and_true]

/-- REALITY stores its numbers, and they open again. -/
theorem RealityForm.numbers_kept (f : RealityForm) :
    StoresNumbers numbers f (Reality.ofForm f).toJson ∧ ReopensNumbers numbers f f.reopened := by
  constructor
  · refine .of_read? ?_
    simp only [numbers, List.forall_mem_cons, List.not_mem_nil, false_implies, implies_true,
      and_true, ← wordField_unsigned?]
    simp [Reality.toJson, Reality.ofForm, get?_ofFields]
  · refine .of_read? template ?_
    simp only [numbers, List.forall_mem_cons, List.not_mem_nil, false_implies, implies_true,
      and_true, ← wordText_unsigned?]
    simp only [reopened_eq, and_true]

/-- The socket options that are enabled store their numbers, and they open again. -/
theorem SockoptForm.numbers_kept {f : SockoptForm} (h : f.enabled = true) :
    StoresNumbers numbers f (Sockopt.ofForm f).toJson ∧ ReopensNumbers numbers f f.reopened := by
  constructor
  · refine .of_read? ?_
    simp only [numbers, List.forall_mem_cons, List.not_mem_nil, false_implies, implies_true,
      and_true, ← wordField_unsigned?, ← signedWordField_signed?]
    simp [Sockopt.toJson, Sockopt.ofForm, get?_ofFields]
  · refine .of_read? template ?_
    simp only [numbers, List.forall_mem_cons, List.not_mem_nil, false_implies, implies_true,
      and_true, ← wordText_unsigned?, ← signedWordText_signed?]
    simp only [reopened, h, if_true, Sockopt.fill, Sockopt.ofForm, and_true]

/-- A fallback stores its number, and it opens again. -/
theorem FallbackRow.numbers_kept (row : FallbackRow) :
    StoresNumbers numbers row (Fallback.ofRow row).toJson ∧
      ReopensNumbers numbers row (Fallback.ofRow row).toRow := by
  constructor
  · refine .of_read? ?_
    simp only [numbers, List.forall_mem_cons, List.not_mem_nil, false_implies, implies_true,
      and_true, ← wordField_unsigned?]
    simp [Fallback.toJson, Fallback.ofRow, get?_ofFields]
  · refine .of_read? blank ?_
    simp only [numbers, List.forall_mem_cons, List.not_mem_nil, false_implies, implies_true,
      and_true, ← wordText_unsigned?]
    rfl

/-! ## Sections of a stored form -/

/-- A value has no member under a key exactly if the key is none of its keys. -/
theorem Json.get?_eq_none_iff {v : Json} {key : String} : v.get? key = none ↔ key ∉ v.keys := by
  cases v with
  | object members => exact Entries.find?_eq_none_iff
  | null | bool | number | string | array => simp [get?, keys]

namespace Form

/-- The stream layer of a form has its network and its security, the settings of these, and the
socket options if they are enabled. -/
theorem mem_streamKeys_iff {form : Form} {key : String} :
    key ∈ form.streamKeys ↔
      key = "network" ∨ key = "security" ∨ key = form.network.settingsKey ∨
        form.security.settingsKey? = some key ∨
        (form.sockopt.enabled = true ∧ key = "sockopt") := by
  rw [streamKeys]
  cases form.sockopt.enabled <;> simp [Option.mem_toList]

/-- The settings of KCP are stored for the KCP network. -/
theorem kcpSettings_mem_streamKeys {form : Form} :
    "kcpSettings" ∈ form.streamKeys ↔ form.network = .kcp := by
  rw [mem_streamKeys_iff]
  cases form.network <;> cases form.security <;>
    simp [Network.settingsKey, Security.settingsKey?]

/-- The settings of REALITY are stored for REALITY. -/
theorem realitySettings_mem_streamKeys {form : Form} :
    "realitySettings" ∈ form.streamKeys ↔ form.security = .reality := by
  rw [mem_streamKeys_iff]
  cases form.network <;> cases form.security <;>
    simp [Network.settingsKey, Security.settingsKey?]

/-- The socket options are stored if they are enabled. -/
theorem sockopt_mem_streamKeys {form : Form} :
    "sockopt" ∈ form.streamKeys ↔ form.sockopt.enabled = true := by
  rw [mem_streamKeys_iff]
  cases form.network <;> cases form.security <;>
    simp [Network.settingsKey, Security.settingsKey?]

end Form

namespace Conversion

/-- A section of the stream layer of a stored inbound, null where there is none. -/
def streamSection (key : String) (w : Json) : Json :=
  (w.objectAt "streamSettings").objectAt key

/-- The stored inbound of a form has the sections of its stream layer, if it has one. -/
theorem streamSection_serialize (form : Form) (key : String) :
    streamSection key (serialize form) =
      if form.protocol.hasStream = true then (Stream.ofForm form).toJson.objectAt key
      else null := by
  rw [streamSection]
  split <;> rename_i hlayer
  · rw [objectAt_streamSettings_serialize hlayer]
  · have hnone : (serialize form).objectAt "streamSettings" = null := by
      rw [objectAt, objectAt?_streamSettings_serialize, if_neg hlayer, Option.getD_none]
    rw [hnone]
    rfl

/-- The stored inbound of a form has no section under what is no key of its stream layer. -/
theorem streamSection_of_not_mem {form : Form} {key : String} (h : key ∉ form.streamKeys) :
    streamSection key (serialize form) = null := by
  have hnone : (Stream.ofForm form).toJson.get? key = none :=
    get?_eq_none_iff.mpr (mt (Stream.mem_keys_toJson form key).mp h)
  rw [streamSection_serialize, objectAt, objectAt?, hnone]
  exact ite_self _

end Conversion

open Conversion

/-- A group keeps its numbers if it has a section of the stream layer that stores them exactly when
it counts, and opens again from this section. -/
theorem KeepsNumbers.of_section {form : Form} {key : String} {v : Json} {counts : Prop}
    {numbers : List (NumberField R)} {r opened reopened : R} (hobject : v.isObject = true)
    (hkey : key ∈ form.streamKeys ↔ counts)
    (hvalue : counts → (Stream.ofForm form).toJson.get? key = some v)
    (hopened : form.protocol.hasStream = true ∧ counts → opened = reopened)
    (hkept : counts → StoresNumbers numbers r v ∧ ReopensNumbers numbers r reopened) :
    KeepsNumbers numbers (form.protocol.hasStream = true ∧ counts) r
      (streamSection key (serialize form)) opened where
  stores hused := by
    rw [streamSection_serialize, if_pos hused.1, objectAt_of_get? (hvalue hused.2) hobject]
    exact (hkept hused.2).1
  reopens hused := by
    rw [hopened hused]
    exact (hkept hused.2).2
  absent hunused := by
    by_cases hlayer : form.protocol.hasStream = true
    · exact streamSection_of_not_mem fun hmem => hunused ⟨hlayer, hkey.mp hmem⟩
    · rw [streamSection_serialize, if_neg hlayer]

namespace Form

/-- A form keeps the numbers of the KCP network if it uses it. -/
theorem keepsNumbers_kcp (form : Form) :
    KeepsNumbers KcpForm.numbers (form.UsesNetwork .kcp) form.kcp
      (streamSection "kcpSettings" (serialize form)) (parse (serialize form)).kcp := by
  refine .of_section (v := (Kcp.ofForm form.kcp).toJson) (isObject_ofFields _)
    kcpSettings_mem_streamKeys (fun hkcp => Stream.get?_toJson ?_) (fun hused => ?_)
    fun _ => form.kcp.numbers_kept
  · simp [Stream.ofForm, Transport.ofForm, hkcp, Transport.network, Transport.toJson,
      Network.settingsKey]
  · rw [parse_serialize]
    exact if_pos hused

/-- A form keeps the numbers of REALITY if it uses it. -/
theorem keepsNumbers_reality (form : Form) :
    KeepsNumbers RealityForm.numbers (form.UsesSecurity .reality) form.reality
      (streamSection "realitySettings" (serialize form)) (parse (serialize form)).reality := by
  refine .of_section (v := (Reality.ofForm form.reality).toJson) (isObject_ofFields _)
    realitySettings_mem_streamKeys (fun hreality => Stream.get?_toJson ?_) (fun hused => ?_)
    fun _ => form.reality.numbers_kept
  · simp [Stream.ofForm, SecuritySettings.ofForm?, hreality, Stream.securityFields,
      SecuritySettings.key, SecuritySettings.toJson]
  · rw [parse_serialize]
    exact if_pos hused

/-- A form keeps the numbers of its socket options if they are enabled in a stream layer. -/
theorem keepsNumbers_sockopt (form : Form) :
    KeepsNumbers SockoptForm.numbers
      (form.protocol.hasStream = true ∧ form.sockopt.enabled = true) form.sockopt
      (streamSection "sockopt" (serialize form)) (parse (serialize form)).sockopt := by
  refine .of_section (v := (Sockopt.ofForm form.sockopt).toJson) (isObject_ofFields _)
    sockopt_mem_streamKeys (fun henabled => Stream.get?_toJson ?_) (fun hused => ?_)
    SockoptForm.numbers_kept
  · simp [Stream.ofForm, henabled]
  · rw [parse_serialize]
    exact if_pos hused.1

/-- The rows of fallbacks that are stored: those with a destination, if the protocol has
fallbacks. -/
def finishedFallbacks (form : Form) : List FallbackRow :=
  if form.protocol = .vless ∨ form.protocol = .trojan then
    form.fallbacks.filter fun row => !blank row.dest
  else []

end Form

/-- The fallbacks of rows are those of the rows that have a destination. -/
theorem Wire.Fallback.ofRows_eq_map (rows : List FallbackRow) :
    ofRows rows = (rows.filter fun row => !blank row.dest).map ofRow := by
  have hfinished (row : FallbackRow) : (ofRow row).dest.isSome = !blank row.dest := by
    have hnone := Port.ofText?_eq_none_iff row.dest
    rw [ofRow]
    cases hblank : blank row.dest with
    | true => simp [hnone.mpr hblank]
    | false =>
      rw [Bool.not_false, Option.isSome_iff_ne_none, ne_eq, hnone, hblank]
      decide
  rw [ofRows, List.filter_map]
  simp only [Function.comp_def, hfinished]

/-- The fallbacks of a form that are stored are those of its finished rows. -/
theorem Form.storedFallbacks_eq_map (form : Form) :
    storedFallbacks (serialize form) =
      form.finishedFallbacks.map fun row => (Fallback.ofRow row).toJson := by
  rw [storedFallbacks_serialize, finishedFallbacks]
  split
  · rw [Fallback.ofRows_eq_map, List.map_map]
    rfl
  · rfl

/-- The fallbacks of a form that open again are those of its finished rows. -/
theorem Form.openedFallbacks_eq_map (form : Form) :
    (parse (serialize form)).fallbacks =
      form.finishedFallbacks.map fun row => (Fallback.ofRow row).toRow := by
  have hopened : (parse (serialize form)).fallbacks =
      if form.protocol = .vless ∨ form.protocol = .trojan then FallbackRow.reopened form.fallbacks
      else [] := by
    rw [parse_serialize]
    rfl
  rw [hopened, finishedFallbacks]
  split
  · rw [FallbackRow.reopened, Fallback.ofRows_eq_map, List.map_map]
    rfl
  · rfl

/-- What is read from a text is exactly the number that it denotes, and the text of a number that
fits is read as the number. A member is read as the number that it is, if this fits, or that its
text denotes. A stored form has exactly the numbers that the texts of its number fields denote, and
each of them opens as its canonical text. -/
theorem number_codec :
    (∀ (kind : Kind) s n, kind.read? s = some n ↔ kind.Denotes s n) ∧
    (∀ (kind : Kind) n, kind.Fits n → kind.read? (decimalInt n) = some n) ∧
    (∀ (kind : Kind) v key n, kind.numberAt? v key = some n ↔
      (v.get? key = some (integer n) ∧ kind.Fits n) ∨
        ∃ s, v.get? key = some (string s) ∧ kind.Denotes s n) ∧
    ∀ form : Form,
      KeepsNumbers KcpForm.numbers (form.UsesNetwork .kcp) form.kcp
        (streamSection "kcpSettings" (serialize form)) (parse (serialize form)).kcp ∧
      KeepsNumbers RealityForm.numbers (form.UsesSecurity .reality) form.reality
        (streamSection "realitySettings" (serialize form)) (parse (serialize form)).reality ∧
      KeepsNumbers SockoptForm.numbers
        (form.protocol.hasStream = true ∧ form.sockopt.enabled = true) form.sockopt
        (streamSection "sockopt" (serialize form)) (parse (serialize form)).sockopt ∧
      List.Forall₂ (StoresNumbers FallbackRow.numbers) form.finishedFallbacks
        (storedFallbacks (serialize form)) ∧
      List.Forall₂ (ReopensNumbers FallbackRow.numbers) form.finishedFallbacks
        (parse (serialize form)).fallbacks := by
  refine ⟨fun kind s n => Kind.read?_eq_some_iff, fun kind n => Kind.read?_decimalInt,
    fun kind v key n => Kind.numberAt?_eq_some_iff, fun form => ⟨form.keepsNumbers_kcp,
      form.keepsNumbers_reality, form.keepsNumbers_sockopt, ?_, ?_⟩⟩
  · rw [form.storedFallbacks_eq_map, List.forall₂_map_right_iff, List.forall₂_same]
    exact fun row _ => row.numbers_kept.1
  · rw [form.openedFallbacks_eq_map, List.forall₂_map_right_iff, List.forall₂_same]
    exact fun row _ => row.numbers_kept.2

/-- A form whose packet size is padded and has a sign and leading zeros. -/
def paddedForm : Form :=
  { Form.template with
    network := .kcp
    kcp := { KcpForm.template with mtu := "\u3000+001400 " } }

/-- The greatest unsigned word and the least signed one are read from their texts, and the packet
size is stored as a number and opens without its padding. -/
theorem number_codec_paddedForm :
    (Kind.unsigned.Fits (2 ^ 64 - 1) ∧
      Kind.unsigned.read? (decimalInt (2 ^ 64 - 1)) = some (2 ^ 64 - 1)) ∧
    (Kind.signed.Fits (-2 ^ 63) ∧ Kind.signed.read? (decimalInt (-2 ^ 63)) = some (-2 ^ 63)) ∧
    paddedForm.UsesNetwork .kcp ∧ Kind.unsigned.Denotes paddedForm.kcp.mtu 1400 ∧
      (streamSection "kcpSettings" (serialize paddedForm)).get? "mtu" = some (integer 1400) ∧
      (parse (serialize paddedForm)).kcp.mtu = decimalInt 1400 := by
  have hgreatest : Kind.unsigned.Fits (2 ^ 64 - 1) := ⟨by omega, by omega⟩
  have hleast : Kind.signed.Fits (-2 ^ 63) := ⟨by omega, by omega⟩
  have hused : paddedForm.UsesNetwork .kcp := ⟨rfl, rfl⟩
  have hmtu : Kind.unsigned.Denotes paddedForm.kcp.mtu 1400 :=
    Kind.read?_eq_some_iff.mp (by decide +kernel)
  have hfield : (⟨.unsigned, "mtu", KcpForm.mtu⟩ : NumberField KcpForm) ∈ KcpForm.numbers :=
    List.mem_cons_self
  obtain ⟨_, hread, _, hform⟩ := number_codec
  obtain ⟨hkcp, _⟩ := hform paddedForm
  exact ⟨⟨hgreatest, hread _ _ hgreatest⟩, ⟨hleast, hread _ _ hleast⟩, hused, hmtu,
    (hkcp.stores hused _ hfield _).mpr ⟨1400, rfl, hmtu⟩, hkcp.reopens hused _ hfield _ hmtu⟩

end ProxyInbound
