import ProxyInbound.Proofs.Reopening.Form
import ProxyInbound.Proofs.Sources
import ProxyInbound.Proofs.Text.Numerals

/-!
# Warnings about replaced names

The protocol of a stored inbound and, where its stream settings are read, the network and the
security are chosen by name. A name that is not known is replaced by the fallback. Opening warns of
the replacement, once for each field and of nothing else, if the member is a single value: a text
that names nothing, a number or a truth value. A sequence or an object in its place is replaced
as well, but it has no text and passes for a missing member, of which there is no warning. Either
way the form is that of the document with the fallback's name written in the place of the member,
for any of the three fields at once.
-/

namespace ProxyInbound

open Text.White

/-! ## Members in their places -/

/-- The value with another one in the place that a path of keys leads to, if it leads to one. -/
def Json.writeAt (v : Json) (path : List String) (new : Json) : Json :=
  match path, v with
  | [], _ => new
  | key :: rest, .object members =>
    .object (members.map fun m => (m.1, if m.1 = key then m.2.writeAt rest new else m.2))
  | _ :: _, v => v

/-- A key finds what it found, with the other value in it if the path starts with the key. -/
theorem Json.get?_writeAt (v new : Json) (first : String) (rest : List String) (key : String) :
    (v.writeAt (first :: rest) new).get? key =
      (v.get? key).map fun m => if key = first then m.writeAt rest new else m := by
  cases v with
  | object members =>
    exact Entries.find?_mapUnder key
      (fun key m => if key = first then m.writeAt rest new else m) members
  | _ => rfl

/-- The members outside the path stay. -/
theorem Json.get?_writeAt_of_ne {v new : Json} {first : String} {rest : List String} {key : String}
    (h : key ≠ first) : (v.writeAt (first :: rest) new).get? key = v.get? key := by
  rw [get?_writeAt]
  simp only [if_neg h, Option.map_id']

/-- An object with another value in it is an object. -/
theorem Json.objectAt?_writeAt (v new : Json) (first second : String) (rest : List String) :
    (v.writeAt (first :: second :: rest) new).objectAt? first =
      (v.objectAt? first).map fun m => m.writeAt (second :: rest) new := by
  rw [objectAt?, get?_writeAt, objectAt?]
  simp only [if_true]
  cases v.get? first with
  | none => rfl
  | some m => cases m <;> rfl

/-! ## Names -/

namespace Named

variable {α : Type} [Named α]

/-- The names of a type. -/
def names (α : Type) [Named α] : List String :=
  (all (α := α)).map name

/-- A text that is none of the names is an unknown name. -/
theorem read_of_not_mem {s : String} (h : trim s ∉ names α) :
    read (α := α) s = .error ⟨kind α, s⟩ := by
  have hnone : ofName? (α := α) (trim s) = none := by
    rw [ofName?, List.find?_eq_none]
    intro a ha heq
    exact h (List.mem_map.mpr ⟨a, ha, beq_iff_eq.mp heq⟩)
  rw [read, hnone]

/-- A text that is one of the names is read. -/
theorem exists_read_of_mem {s : String} (h : trim s ∈ names α) :
    ∃ a : α, read s = .ok a := by
  obtain ⟨a, ha, hname⟩ := List.mem_map.mp h
  have hsome : (ofName? (α := α) (trim s)).isSome := by
    rw [ofName?, List.find?_isSome]
    exact ⟨a, ha, beq_iff_eq.mpr hname⟩
  obtain ⟨b, hb⟩ := Option.isSome_iff_exists.mp hsome
  exact ⟨b, by rw [read, hb]⟩

end Named

namespace Conversion

open Json Wire

section Choices

variable {α : Type} [Named α]

/-- A choice warns of the text that names nothing, if there is a text, and of nothing else. -/
theorem warnings_choose (v : Json) (field : String) (fallback : α) :
    (choose v field fallback).events.filter (·.level = .warn) =
      (((v.textAt? field).filter fun given => trim given ∉ Named.names α).map fun given =>
        Event.replaced ⟨Named.kind α, given⟩ field (Named.name fallback)).toList := by
  rw [choose]
  cases htext : v.textAt? field with
  | none => rfl
  | some given =>
    by_cases hnamed : trim given ∈ Named.names α
    · obtain ⟨a, ha⟩ := Named.exists_read_of_mem hnamed
      simp [ha, hnamed]
    · rw [Option.filter_some, if_pos (decide_eq_true hnamed)]
      simp [Named.read_of_not_mem hnamed, Event.level]

/-- A member that names nothing is replaced by the fallback. -/
theorem value_choose_of_not_mem {v : Json} {field : String} {fallback : α}
    (h : ∀ given, v.textAt? field = some given → trim given ∉ Named.names α) :
    (choose v field fallback).value = fallback := by
  rw [choose]
  cases htext : v.textAt? field with
  | none => rfl
  | some given => simp [Named.read_of_not_mem (h given htext)]

end Choices

/-! ## Fields -/

/-- The fields of a stored inbound that are chosen by name. -/
inductive NameField where
  /-- The protocol. -/
  | protocol
  /-- The network of the stream settings. -/
  | network
  /-- The security of the stream settings. -/
  | security
  deriving DecidableEq, Repr

namespace NameField

/-- The fields in the order in which they are chosen. -/
def all : List NameField :=
  [protocol, network, security]

/-- The key of the field. -/
def key : NameField → String
  | protocol => "protocol"
  | network => "network"
  | security => "security"

/-- Fields with one key are the same field. -/
theorem key_inj {a b : NameField} (h : a.key = b.key) : a = b := by
  revert h
  cases a <;> cases b <;> decide

/-- The keys that lead to the field from the inbound. -/
def path : NameField → List String
  | protocol => ["protocol"]
  | network => ["streamSettings", "network"]
  | security => ["streamSettings", "security"]

/-- What the field names, for messages. -/
def kind : NameField → String
  | protocol => Named.kind Protocol
  | network => Named.kind Network
  | security => Named.kind Security

/-- The names that are known. -/
def names : NameField → List String
  | protocol => Named.names Protocol
  | network => Named.names Network
  | security => Named.names Security

/-- The name of the fallback. -/
def fallbackName : NameField → String
  | protocol => Named.name Protocol.fallback
  | network => Named.name Network.fallback
  | security => Named.name Security.fallback

/-- The value whose member the field is: the inbound itself or its stream settings if they are
read. -/
def holder? (w : Json) : NameField → Option Json
  | protocol => some w
  | network | security => streamOf? (protocolChoice w).value w

/-- The member that a field of an inbound is chosen by. -/
def member? (w : Json) (field : NameField) : Option Json :=
  (field.holder? w).bind fun v => v.get? field.key

/-- The warning about the member of a field, if it has a text that is none of the names. -/
def warning? (w : Json) (field : NameField) : Option Event :=
  (((field.member? w).bind scalarText?).filter fun given => trim given ∉ field.names).map
    fun given => .replaced ⟨field.kind, given⟩ field.key field.fallbackName

/-- A value other than a text of one of the names. -/
def NamesNone (field : NameField) (m : Json) : Prop :=
  ∀ s, m = string s → trim s ∉ field.names

/-- The inbound with the fallback's name in the place of the field. -/
def writeFallback (w : Json) (field : NameField) : Json :=
  w.writeAt field.path (string field.fallbackName)

/-- No name has a character that stands before the letters. -/
theorem toNat_of_mem_names {field : NameField} {name : String} (h : name ∈ field.names) :
    ∀ c ∈ name.toList, 'A'.toNat ≤ c.toNat := by
  have hnames : ∀ field : NameField, ∀ name ∈ field.names,
      (name.toList.all fun c => 'A'.toNat ≤ c.toNat) = true := by
    intro field
    cases field <;> decide
  intro c hc
  exact of_decide_eq_true (List.all_eq_true.mp (hnames field name h) c hc)

/-- The text of a number is no name. -/
theorem trim_numberText_not_mem (field : NameField) (n : Number) :
    trim n.text ∉ field.names := by
  intro hmem
  obtain ⟨c, hc, hbefore, hwhite⟩ := Text.Numeral.exists_mem_text n
  have htrim : c ∈ (trim n.text).toList := by
    rw [toList_trim]
    exact mem_trimChars_of_not_white hc hwhite
  exact absurd hbefore (Nat.not_lt.mpr (toNat_of_mem_names hmem c htrim))

/-- The text of a value that names nothing is no name. -/
theorem NamesNone.trim_not_mem {field : NameField} {m : Json} (h : field.NamesNone m)
    {given : String} (hgiven : m.scalarText? = some given) : trim given ∉ field.names := by
  cases m with
  | null => cases hgiven
  | bool b =>
    cases hgiven
    cases field <;> cases b <;> decide
  | number n =>
    -- a number has a text that could be a name, but a name consists of letters
    cases hgiven
    exact field.trim_numberText_not_mem n
  | string s =>
    cases hgiven
    exact h given rfl
  | array items => cases hgiven
  | object members => cases hgiven

/-- There is a warning about a member exactly if it is a single value that names nothing. -/
theorem warning?_eq_some_iff {w : Json} {field : NameField} {e : Event} :
    field.warning? w = some e ↔
      ∃ m given, field.member? w = some m ∧ field.NamesNone m ∧ m.scalarText? = some given ∧
        e = .replaced ⟨field.kind, given⟩ field.key field.fallbackName := by
  rw [warning?, Option.map_eq_some_iff]
  constructor
  · rintro ⟨given, hgiven, rfl⟩
    obtain ⟨htext, hnone⟩ := Option.filter_eq_some_iff.mp hgiven
    obtain ⟨m, hm, htext⟩ := Option.bind_eq_some_iff.mp htext
    refine ⟨m, given, hm, ?_, htext, rfl⟩
    rintro s rfl
    cases htext
    exact of_decide_eq_true hnone
  · rintro ⟨m, given, hm, hnone, htext, rfl⟩
    refine ⟨given, Option.filter_eq_some_iff.mpr ⟨?_, ?_⟩, rfl⟩
    · rw [hm, Option.bind_some, htext]
    · exact decide_eq_true (hnone.trim_not_mem htext)

/-! ## Fallbacks in the place of names -/

/-- A choice takes the fallback from its name as it does from a member that names nothing. -/
theorem value_choose_writeAt {α : Type} [Named α] {v m : Json} {field : String} {fallback : α}
    (hread : Named.read (Named.name fallback) = .ok fallback) (hm : v.get? field = some m)
    (hnone : ∀ given, m.scalarText? = some given → trim given ∉ Named.names α) :
    (choose (v.writeAt [field] (string (Named.name fallback))) field fallback).value =
      (choose v field fallback).value := by
  have hname : (v.writeAt [field] (string (Named.name fallback))).get? field =
      some (string (Named.name fallback)) := by
    rw [get?_writeAt, hm, Option.map_some, if_pos rfl]
    rfl
  rw [value_choose hname hread, value_choose_of_not_mem]
  intro given hgiven
  rw [textAt?_of_get? hm] at hgiven
  exact hnone given hgiven

/-- The protocol is not chosen by the stream settings. -/
theorem protocolChoice_writeAt (w new : Json) (rest : List String) :
    protocolChoice (w.writeAt ("streamSettings" :: rest) new) = protocolChoice w :=
  choose_congr (get?_writeAt_of_ne (by decide)) _

/-- The stream settings that a protocol reads have the other value in them. -/
theorem streamOf?_writeAt (p : Protocol) (w new : Json) (key : String) :
    streamOf? p (w.writeAt ["streamSettings", key] new) =
      (streamOf? p w).map fun stream => stream.writeAt [key] new := by
  rw [streamOf?, streamOf?, objectAt?_writeAt]
  split <;> rfl

/-- The stream settings stay when the protocol is written. -/
theorem streamOf?_writeFallback (p : Protocol) (w : Json) :
    streamOf? p (protocol.writeFallback w) = streamOf? p w := by
  have hget : (protocol.writeFallback w).get? "streamSettings" = w.get? "streamSettings" :=
    get?_writeAt_of_ne (by decide)
  rw [streamOf?, streamOf?, objectAt?_congr hget]

/-- A form does not depend on a member of the stream settings if the stream layer does not. -/
theorem parse_writeStream {w stream new : Json} {key : String}
    (hstream : streamOf? (protocolChoice w).value w = some stream)
    (hfill : ∀ form,
      fillStream (some (stream.writeAt [key] new)) form = fillStream (some stream) form) :
    parse (w.writeAt ["streamSettings", key] new) = parse w := by
  have hprotocol := protocolChoice_writeAt w new [key]
  refine parse_congr_values (congrArg Choice.value hprotocol) ?_ ?_
  · intro read hread _
    have hne : read ≠ "streamSettings" := by
      rintro rfl
      revert hread
      decide
    exact get?_writeAt_of_ne hne
  · rw [hprotocol, streamOf?_writeAt, hstream]
    exact funext hfill

/-- The form is that of the inbound with the fallback's name in the place of a member that names
nothing. -/
theorem parse_writeFallback {w m : Json} {field : NameField} (hm : field.member? w = some m)
    (hnone : field.NamesNone m) : parse (field.writeFallback w) = parse w := by
  have hnames (given : String) (h : m.scalarText? = some given) : trim given ∉ field.names :=
    hnone.trim_not_mem h
  obtain ⟨v, hv, hmember⟩ := Option.bind_eq_some_iff.mp hm
  cases field with
  | protocol =>
    obtain rfl := Option.some.inj hv
    exact parse_congr_values (value_choose_writeAt (Protocol.read_name _) hmember hnames)
      (fun key _ hne => get?_writeAt_of_ne hne) (by rw [streamOf?_writeFallback])
  | network =>
    refine parse_writeStream hv (fillStream_congr_values ?_ ?_ ?_)
    · exact value_choose_writeAt (Network.read_name _) hmember hnames
    · exact congrArg Choice.value (choose_congr (get?_writeAt_of_ne (by decide)) _)
    · exact fun key _ hne _ => get?_writeAt_of_ne hne
  | security =>
    refine parse_writeStream hv (fillStream_congr_values ?_ ?_ ?_)
    · exact congrArg Choice.value (choose_congr (get?_writeAt_of_ne (by decide)) _)
    · exact value_choose_writeAt (Security.read_name _) hmember hnames
    · exact fun key _ _ hne => get?_writeAt_of_ne hne

/-- The other fields keep their members, and the same of them are chosen. -/
theorem member?_writeFallback {w m : Json} {field other : NameField}
    (hm : field.member? w = some m) (hnone : field.NamesNone m) (hne : other ≠ field) :
    other.member? (field.writeFallback w) = other.member? w := by
  have hkey : other.key ≠ field.key := fun heq => hne (key_inj heq)
  obtain ⟨v, hv, hmember⟩ := Option.bind_eq_some_iff.mp hm
  cases field with
  | protocol =>
    obtain rfl := Option.some.inj hv
    have hvalue : (protocolChoice (protocol.writeFallback w)).value = (protocolChoice w).value :=
      value_choose_writeAt (Protocol.read_name _) hmember fun _ => hnone.trim_not_mem
    cases other with
    | protocol => exact absurd rfl hne
    | network | security =>
      rw [member?, holder?, hvalue, streamOf?_writeFallback]
      rfl
  | network | security =>
    cases other with
    | protocol => exact get?_writeAt_of_ne (by decide)
    | network | security =>
      rw [member?, holder?, writeFallback, path, protocolChoice_writeAt, streamOf?_writeAt,
        Option.bind_map]
      exact congrArg (Option.bind _) (funext fun v => get?_writeAt_of_ne hkey)

/-- The form is that of the inbound with the names of the fallbacks in the places of any of the
members that name nothing. -/
theorem parse_foldl_writeFallback {fields : List NameField} (hnodup : fields.Nodup) {w : Json}
    (h : ∀ field ∈ fields, ∃ m, field.member? w = some m ∧ field.NamesNone m) :
    parse (fields.foldl writeFallback w) = parse w := by
  induction fields generalizing w with
  | nil => rfl
  | cons field rest ih =>
    obtain ⟨hfirst, hrest⟩ := List.nodup_cons.mp hnodup
    obtain ⟨⟨m, hm, hnone⟩, hothers⟩ := List.forall_mem_cons.mp h
    rw [List.foldl_cons, ih hrest, parse_writeFallback hm hnone]
    -- the fields that are left are others, so their members are still there and name nothing
    intro other hother
    have hne : other ≠ field := by
      rintro rfl
      exact hfirst hother
    rw [member?_writeFallback hm hnone hne]
    exact hothers other hother

end NameField

/-! ## Warnings -/

/-- The warnings are those about the three fields, in their order. -/
theorem warnings_parseEvents (w : Json) :
    (parseEvents w).filter (·.level = .warn) =
      NameField.all.filterMap (NameField.warning? w) := by
  have hclients (p : Protocol) : (clientEvents p w).filter (·.level = .warn) = [] := by
    rw [clientEvents]
    split <;> rfl
  have hstream : (streamEvents (streamOf? (protocolChoice w).value w)).filter (·.level = .warn) =
      (NameField.network.warning? w).toList ++ (NameField.security.warning? w).toList := by
    rw [NameField.warning?, NameField.warning?, NameField.member?, NameField.member?,
      NameField.holder?, NameField.holder?]
    -- neither is chosen where no stream settings are read
    cases streamOf? (protocolChoice w).value w with
    | none => rfl
    | some stream =>
      rw [streamEvents, List.filter_append, networkChoice, securityChoice, warnings_choose,
        warnings_choose]
      rfl
  have hprotocol : (protocolChoice w).events.filter (·.level = .warn) =
      (NameField.protocol.warning? w).toList := by
    rw [protocolChoice, warnings_choose]
    rfl
  rw [parseEvents, List.filter_append, List.filter_append, List.filter_append, hclients, hstream,
    hprotocol, NameField.all, List.filterMap_eq_flatMap_toList]
  simp [Event.level]

/-- Opening an inbound warns of each field whose member is a single value that names nothing, once
and in order, and of nothing else. Whatever members name nothing, sequences, objects and null among
them, the form is that of the inbound with the names of the fallbacks in their places. -/
theorem parse_warnings (w : Json) :
    (parseEvents w).filter (·.level = .warn) = NameField.all.filterMap (NameField.warning? w) ∧
      (∀ (field : NameField) e, field.warning? w = some e ↔
        ∃ m given, field.member? w = some m ∧ field.NamesNone m ∧ m.scalarText? = some given ∧
          e = .replaced ⟨field.kind, given⟩ field.key field.fallbackName) ∧
      ∀ fields : List NameField, fields.Nodup →
        (∀ field ∈ fields, ∃ m, field.member? w = some m ∧ field.NamesNone m) →
        parse (fields.foldl NameField.writeFallback w) = parse w :=
  ⟨warnings_parseEvents w, fun _ _ => NameField.warning?_eq_some_iff,
    fun _ hnodup h => NameField.parse_foldl_writeFallback hnodup h⟩

/-- An inbound whose protocol is a text, whose network is a number and whose security is a sequence,
none of which is a name. -/
def misnamedInbound : Json :=
  object
    [ ("protocol", string "wireguard"),
      ("streamSettings", object [("network", integer 5), ("security", array [string "tls"])]) ]

/-- Two warnings are given about it, and it opens with the names of all three fallbacks in it as the
same form. -/
theorem parse_warnings_misnamedInbound :
    (parseEvents misnamedInbound).filter (·.level = .warn) =
        [ .replaced ⟨"protocol", "wireguard"⟩ "protocol" "vless",
          .replaced ⟨"network", "5"⟩ "network" "tcp" ] ∧
      NameField.all.foldl NameField.writeFallback misnamedInbound =
        object
          [ ("protocol", string "vless"),
            ("streamSettings",
              object [("network", string "tcp"), ("security", string "none")]) ] ∧
      parse (NameField.all.foldl NameField.writeFallback misnamedInbound) =
        parse misnamedInbound := by
  obtain ⟨hwarnings, -, hparse⟩ := parse_warnings misnamedInbound
  refine ⟨hwarnings.trans (by decide +kernel), by decide +kernel, hparse _ (by decide) ?_⟩
  intro field _
  cases field with
  | protocol => exact ⟨string "wireguard", rfl, fun s hs => by cases hs; decide⟩
  | network => exact ⟨integer 5, rfl, fun _ hs => nomatch hs⟩
  | security => exact ⟨array [string "tls"], rfl, fun _ hs => nomatch hs⟩

/-- An inbound whose protocol is a sequence. -/
def listedProtocol : Json :=
  object [("protocol", array [string "vmess"])]

/-- Its protocol is there, is not null and is no text that names a protocol, yet no warning is given
when it is replaced. -/
theorem no_warning_listedProtocol :
    (∃ m, listedProtocol.get? "protocol" = some m ∧ m ≠ null ∧
      ∀ s, m = string s → trim s ∉ NameField.protocol.names) ∧
      (parse listedProtocol).protocol = Protocol.fallback ∧
      ¬ ∃ e ∈ parseEvents listedProtocol, e.level = .warn := by
  refine ⟨⟨array [string "vmess"], rfl, nofun, nofun⟩, by decide +kernel, ?_⟩
  rintro ⟨e, he, hlevel⟩
  have hnone : (parseEvents listedProtocol).filter (·.level = .warn) = [] := by decide +kernel
  exact List.filter_eq_nil_iff.mp hnone e he (decide_eq_true hlevel)

end Conversion

end ProxyInbound
