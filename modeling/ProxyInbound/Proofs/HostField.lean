import ProxyInbound.Proofs.Wire.Transport

/-!
# A host in a field of its own or in a header

The host of a network that speaks HTTP may be stored in a field of its own or as one more header
with any ASCII case of its name. As long as no other host header is stored both documents are read
as the same settings: where hosts are merged into the headers the one value is put in either way,
and where a host is lifted out of them nothing is left of the header that it comes from.
-/

namespace ProxyInbound.Wire

open Json Text.White HeaderMap

/-- Stored settings with a host in a field of its own and with headers, among other members. -/
def withHostField (host : Json) (headers others : List (String × Json)) : Json :=
  object (Entries.insert "host" host (Entries.insert "headers" (object headers) others))

/-- The same settings with the host as one more header under some name, and without the field. -/
def withHostHeader (name : String) (host : Json) (headers others : List (String × Json)) : Json :=
  object (Entries.remove "host"
    (Entries.insert "headers" (object (Entries.insert name host headers)) others))

/-- A host that can be read, beside stored headers without any, and a name of the host header. -/
structure HostBeside (name : String) (host : Json) (headers : List (String × Json)) : Prop where
  /-- The host is a single value whose text is not blank. -/
  given : ∃ text, host.scalarText? = some text ∧ blank text = false
  /-- No header is stored twice. -/
  distinct : (headers.map (·.1)).Nodup
  /-- No stored header is a host header, whatever its ASCII case. -/
  free : ∀ m ∈ headers, isHost m.1 = false
  /-- The name is that of the host header in some ASCII case. -/
  named : isHost name = true

section Members

variable (name : String) (host : Json) (headers others : List (String × Json))

/-- Both documents have the same members but for the host and the headers. -/
theorem get?_withHost {key : String} (hhost : key ≠ "host") (hheaders : key ≠ "headers") :
    (withHostHeader name host headers others).get? key =
      (withHostField host headers others).get? key := by
  rw [withHostHeader, withHostField, get?_object, get?_object, Entries.find?_remove_ne hhost,
    Entries.find?_insert_ne hhost, Entries.find?_insert_ne hheaders,
    Entries.find?_insert_ne hheaders]

/-- The field holds the host. -/
theorem textAt?_withHostField :
    (withHostField host headers others).textAt? "host" = host.scalarText? := by
  rw [textAt?, withHostField, get?_object, Entries.find?_insert_self, Option.bind_some]

/-- There is no field beside the header. -/
theorem textAt?_withHostHeader :
    (withHostHeader name host headers others).textAt? "host" = none := by
  rw [textAt?, withHostHeader, get?_object, Entries.find?_remove_self, Option.bind_none]

/-- Beside the field the headers are those that are stored. -/
theorem storedAt?_withHostField :
    storedAt? (withHostField host headers others) "headers" = ofStored? (object headers) := by
  rw [storedAt?, withHostField, get?_object, Entries.find?_insert_ne (by decide),
    Entries.find?_insert_self, Option.bind_some]

/-- Without the field there is one more header. -/
theorem storedAt?_withHostHeader :
    storedAt? (withHostHeader name host headers others) "headers" =
      ofStored? (object (Entries.insert name host headers)) := by
  rw [storedAt?, withHostHeader, get?_object, Entries.find?_remove_ne (by decide),
    Entries.find?_insert_self, Option.bind_some]

end Members

section HostBeside

variable {name : String} {host : Json} {headers : List (String × Json)}
  (h : HostBeside name host headers)

include h

/-- The host is not a host header yet. -/
theorem HostBeside.not_mem : name ∉ headers.map (·.1) := by
  intro hmem
  obtain ⟨m, hm, hname⟩ := List.mem_map.mp hmem
  have hother := h.free m hm
  rw [hname, h.named] at hother
  cases hother

/-- As a header the host is a single value with the text that it has as a field. -/
theorem HostBeside.exists_text :
    ∃ text, keepNonBlank host.scalarText? = some text ∧
      HeaderValue.ofStored? host = some (.single text) := by
  obtain ⟨text, htext, hblank⟩ := h.given
  have hfield : keepNonBlank host.scalarText? = some text := by
    rw [htext]
    exact nonBlank?_eq_some_iff.mpr ⟨hblank, rfl⟩
  refine ⟨text, hfield, ?_⟩
  -- only a text can hold nothing, and this one is not blank
  cases host with
  | string s =>
    obtain rfl := Option.some.inj htext
    simp [HeaderValue.ofStored?, isVoid, hblank, scalarText?]
  | number n => simp [HeaderValue.ofStored?, isVoid, htext]
  | bool b => simp [HeaderValue.ofStored?, isVoid, htext]
  | null | array items | object members => cases htext

/-- The stored headers are those of a map without host headers, into which the host is entered if it
is stored as one more. -/
theorem HostBeside.exists_map :
    ∃ text m, keepNonBlank host.scalarText? = some text ∧ HostFree m ∧
      ofStored? (object headers) = m.nonEmpty? ∧
      ofStored? (object (Entries.insert name host headers)) =
        (m.insert name (.single text)).nonEmpty? := by
  obtain ⟨text, hfield, hheader⟩ := h.exists_text
  refine ⟨text, (ofStored? (object headers)).getD empty, hfield,
    hostFree_ofStored? h.distinct h.free, HeaderMap.ofStored?_eq _, ?_⟩
  rw [HeaderMap.ofStored?_eq, ofStored?_insert h.distinct h.not_mem hheader]

/-- The headers of a WebSocket have the host among them in either case. -/
theorem HostBeside.withHosts_eq (others : List (String × Json)) :
    Ws.withHosts (keepNonBlank ((withHostHeader name host headers others).textAt? "host")).toList
        (storedAt? (withHostHeader name host headers others) "headers") =
      Ws.withHosts (keepNonBlank ((withHostField host headers others).textAt? "host")).toList
        (storedAt? (withHostField host headers others) "headers") := by
  obtain ⟨text, m, hfield, hfree, hstored, hentered⟩ := h.exists_map
  rw [textAt?_withHostHeader, textAt?_withHostField, storedAt?_withHostHeader,
    storedAt?_withHostField, hfield, hstored, hentered, Ws.withHosts_eq, Ws.withHosts_eq,
    getD_nonEmpty?, getD_nonEmpty?, keepNonBlank_none]
  exact congrArg nonEmpty? (hfree.mergeHosts_insert h.named text)

/-- The host beside the headers is the same in either case. -/
theorem HostBeside.storedHost_eq (others : List (String × Json)) :
    storedHost (withHostHeader name host headers others) =
      storedHost (withHostField host headers others) := by
  obtain ⟨text, m, hfield, hfree, hstored, hentered⟩ := h.exists_map
  rw [storedHost, storedHost, textAt?_withHostHeader, textAt?_withHostField,
    storedAt?_withHostHeader, storedAt?_withHostField, hfield, hstored, hentered,
    keepNonBlank_none]
  exact hfree.liftHost_insert h.named text

/-- The settings of a network with such hosts are the same in either case. -/
theorem HostBeside.ofObject_eq {n : Network} (hn : n = .ws ∨ n = .httpUpgrade ∨ n = .splitHttp)
    (others : List (String × Json)) :
    Transport.ofObject n (withHostHeader name host headers others) =
      Transport.ofObject n (withHostField host headers others) := by
  have hget {key : String} (hhost : key ≠ "host") (hheaders : key ≠ "headers") :=
    get?_withHost name host headers others hhost hheaders
  have htext {key : String} (hhost : key ≠ "host") (hheaders : key ≠ "headers") :
      (withHostHeader name host headers others).textAt? key =
        (withHostField host headers others).textAt? key := by
    rw [textAt?, textAt?, hget hhost hheaders]
  rcases hn with rfl | rfl | rfl
  · simp (disch := decide) only [Transport.ofObject, Ws.ofStored, flagAt?, hget, htext,
      h.withHosts_eq others]
  · simp (disch := decide) only [Transport.ofObject, HttpUpgrade.ofStored, flagAt?, hget, htext,
      h.storedHost_eq others]
  · simp (disch := decide) only [Transport.ofObject, SplitHttp.ofStored, flagAt?, rangeAt?, hget,
      htext, h.storedHost_eq others]

end HostBeside

/-- A WebSocket, an HTTP upgrade and a split HTTP stream open alike with a host in a field of its
own and with the same host as one more header, in any form and whatever else is stored. -/
theorem Transport.fill_hostField_eq_hostHeader {n : Network}
    (hn : n = .ws ∨ n = .httpUpgrade ∨ n = .splitHttp) {name : String} {host : Json}
    {headers : List (String × Json)} (h : HostBeside name host headers)
    (others stream : List (String × Json)) (form : Form) :
    (Transport.ofStored n (object (Entries.insert n.settingsKey
        (withHostField host headers others) stream))).fill form =
      (Transport.ofStored n (object (Entries.insert n.settingsKey
        (withHostHeader name host headers others) stream))).fill form := by
  have hsettings {v : Json} (hv : v.isObject = true) :
      (object (Entries.insert n.settingsKey v stream)).objectAt n.settingsKey = v := by
    rw [objectAt, objectAt?, get?_object, Entries.find?_insert_self, Option.filter_some, if_pos hv,
      Option.getD_some]
  rw [Transport.ofStored, Transport.ofStored, hsettings rfl, hsettings rfl, h.ofObject_eq hn]

/-- Headers without a host: one that sorts before it and a blank one that sorts behind it. -/
def hostlessHeaders : List (String × Json) :=
  [("Accept", string "text/html"), ("x-blank", string " ")]

/-- A number can be the host beside these headers, and its name can be written in an unusual way. -/
theorem hostBeside_hostlessHeaders : HostBeside "hOST" (integer 7) hostlessHeaders where
  given := ⟨"7", by decide +kernel, by decide +kernel⟩
  distinct := by decide
  free := by decide
  named := by decide

/-- A split HTTP stream opens alike with a number as its host and with the number as a header. -/
theorem Transport.fill_hostlessHeaders :
    HostBeside "hOST" (integer 7) hostlessHeaders ∧
      (Transport.ofStored .splitHttp (object [("splithttpSettings", object
        [ ("headers", object hostlessHeaders), ("host", integer 7),
          ("path", string "/up") ])])).fill (Form.defaults .vless) =
      (Transport.ofStored .splitHttp (object [("splithttpSettings", object
        [ ("headers", object
            [("Accept", string "text/html"), ("hOST", integer 7), ("x-blank", string " ")]),
          ("path", string "/up") ])])).fill (Form.defaults .vless) :=
  ⟨hostBeside_hostlessHeaders,
    Transport.fill_hostField_eq_hostHeader (Or.inr (Or.inr rfl)) hostBeside_hostlessHeaders
      [("path", string "/up")] [] (Form.defaults .vless)⟩

end ProxyInbound.Wire
