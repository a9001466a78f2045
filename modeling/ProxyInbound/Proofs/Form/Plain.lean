import ProxyInbound.Form
import ProxyInbound.Proofs.Json.Written

/-!
# Forms as plain documents

The fields of a form hold texts, truth values, names, lists of texts and lists of rows, and the
fields of rows hold texts. So a form is written as a document without numbers that nests three
levels deep.
-/

namespace ProxyInbound

namespace Json

variable {R S : Type}

/-- Whatever a field holds is written as a plain document. -/
def Slot.Plain (depth : Nat) (slot : Slot R) : Prop :=
  ∀ a, Json.Plain depth (slot.codec.write a)

/-- A text is plain. -/
@[simp] theorem Slot.plain_text (depth : Nat) (name : String) (get : R → String)
    (set : String → R → R) : (Slot.text name get set).Plain depth :=
  fun s => .string s

/-- A truth value is plain. -/
@[simp] theorem Slot.plain_flag (depth : Nat) (name : String) (get : R → Bool)
    (set : Bool → R → R) : (Slot.flag name get set).Plain depth :=
  fun b => .bool b

/-- A name is plain. -/
@[simp] theorem Slot.plain_named [Named α] (depth : Nat) (name : String) (get : R → α)
    (set : α → R → R) : (Slot.named name get set).Plain depth :=
  fun a : α => .string (Named.name a)

/-- A list of texts is plain. -/
@[simp] theorem Slot.plain_texts (depth : Nat) (name : String) (get : R → List String)
    (set : List String → R → R) : (Slot.texts name get set).Plain (depth + 1) := by
  intro texts
  refine .array fun v hv => ?_
  obtain ⟨s, _, rfl⟩ := List.mem_map.mp hv
  exact .string s

/-- A record whose fields are plain is plain. -/
theorem Record.plain_write {shape : Record R} {depth : Nat}
    (h : ∀ slot ∈ shape.slots, slot.Plain depth) (r : R) :
    Json.Plain (depth + 1) (shape.write r) := by
  refine .object (Entries.ascending_ofList _) fun m hm => ?_
  obtain ⟨slot, hslot, rfl⟩ := List.mem_map.mp (Entries.mem_of_mem_ofList hm)
  exact h slot hslot (slot.get r)

/-- Rows whose fields are plain are plain. -/
theorem Slot.plain_rows {shape : Record S} {depth : Nat}
    (h : ∀ slot ∈ shape.slots, slot.Plain depth) (name : String) (get : R → List S)
    (set : List S → R → R) : (Slot.rows shape name get set).Plain (depth + 2) := by
  intro rows
  refine .array fun v hv => ?_
  obtain ⟨row, _, rfl⟩ := List.mem_map.mp hv
  exact Record.plain_write h row

/-- A field of a part is plain in the whole. -/
@[simp] theorem Slot.plain_within {depth : Nat} {slot : Slot S} {part : R → S} {put : S → R → R} :
    (Slot.within part put slot).Plain depth ↔ slot.Plain depth :=
  Iff.rfl

end Json

open Json

/-- The fields of a header row are plain. -/
theorem HeaderRow.plain (depth : Nat) : ∀ slot ∈ shape.slots, slot.Plain depth := by
  simp [shape, slots]

/-- The fields of a fallback are plain. -/
theorem FallbackRow.plain (depth : Nat) : ∀ slot ∈ shape.slots, slot.Plain depth := by
  simp [shape, slots]

/-- The fields of a certificate are plain. -/
theorem CertificateRow.plain (depth : Nat) : ∀ slot ∈ shape.slots, slot.Plain depth := by
  simp [shape, slots]

/-- The fields of an account are plain. -/
theorem AccountRow.plain (depth : Nat) : ∀ slot ∈ shape.slots, slot.Plain depth := by
  simp [shape, slots]

/-- The fields of a form are plain. -/
theorem Form.plain (depth : Nat) : ∀ slot ∈ slots, slot.Plain (depth + 2) := by
  simp only [slots, List.forall_mem_append, List.forall_mem_map, Slot.plain_within]
  simp [headSlots, proxySlots, streamSlots, ShadowsocksForm.slots, SocksForm.slots,
    SniffingForm.slots, TcpForm.slots, KcpForm.slots, WsForm.slots, HttpForm.slots,
    QuicForm.slots, GrpcForm.slots, HttpUpgradeForm.slots, SplitHttpForm.slots,
    DomainSocketForm.slots, TlsForm.slots, RealityForm.slots, SockoptForm.slots,
    Slot.plain_rows (HeaderRow.plain _), Slot.plain_rows (FallbackRow.plain _),
    Slot.plain_rows (CertificateRow.plain _), Slot.plain_rows (AccountRow.plain _)]

/-- A form is written as a plain document of three levels. -/
theorem Form.plain_toJson (depth : Nat) (form : Form) : Json.Plain (depth + 3) form.toJson :=
  Record.plain_write (Form.plain depth) form

end ProxyInbound
