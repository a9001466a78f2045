import Mathlib.Data.List.Basic

/-!
# The order of texts by their bytes

Texts are compared character by character, which is how their UTF-8 bytes compare. The bytes of a
smaller code point are smaller at the first place where those of two code points differ, and neither
list of bytes ends before that place, so the order carries over to texts.
-/

namespace ProxyInbound.Text.Utf8

/-- The bytes of a text. -/
def bytes (s : String) : List UInt8 :=
  s.toByteArray.data.toList

/-- The bytes of a code point as numbers. -/
def codes (v : Nat) : List Nat :=
  if v ≤ 0x7F then [v]
  else if v ≤ 0x7FF then [v / 64 % 32 + 192, v % 64 + 128]
  else if v ≤ 0xFFFF then [v / 4096 % 16 + 224, v / 64 % 64 + 128, v % 64 + 128]
  else [v / 262144 % 8 + 240, v / 4096 % 64 + 128, v / 64 % 64 + 128, v % 64 + 128]

/-- The first list is smaller at the first place where the two differ, and there is such a place. -/
def Before : List Nat → List Nat → Prop
  | x :: xs, y :: ys => x < y ∨ x = y ∧ Before xs ys
  | _, _ => False

/-- The bytes of a text are those of its characters. -/
theorem bytes_eq (s : String) : bytes s = s.toList.flatMap String.utf8EncodeChar := by
  have hencode : s.toByteArray = (s.toList.flatMap String.utf8EncodeChar).toByteArray := by
    rw [← String.ofList_toList (s := s), String.toByteArray_ofList, String.toList_ofList]
    rfl
  rw [bytes, hencode, List.toList_data_toByteArray]

/-- The bytes of a character are those of its code point. -/
theorem utf8EncodeChar_eq (c : Char) :
    String.utf8EncodeChar c = (codes c.toNat).map UInt8.ofNat := by
  have hval : c.val.toNat = c.toNat := rfl
  unfold String.utf8EncodeChar codes
  rw [hval]
  dsimp only
  split_ifs <;> rfl

/-- The bytes of a code point fit into bytes. -/
theorem codes_lt {v : Nat} (h : v < 0x110000) : ∀ x ∈ codes v, x < 256 := by
  unfold codes
  split_ifs <;>
    simp only [List.forall_mem_cons, List.not_mem_nil, false_implies, implies_true, and_true] <;>
    omega

/-- The bytes of a smaller code point are smaller where they differ. -/
theorem before_codes {v w : Nat} (h : v < w) (hw : w < 0x110000) : Before (codes v) (codes w) := by
  -- the digits of four bytes, each from the one before it
  have hdigits (n : Nat) (hn : n < 0x110000) : n / 64 / 64 = n / 4096 ∧
      n / 4096 / 64 = n / 262144 ∧ n / 262144 % 8 = n / 262144 :=
    ⟨Nat.div_div_eq_div_mul n 64 64, Nat.div_div_eq_div_mul n 4096 64,
      Nat.mod_eq_of_lt (by omega)⟩
  obtain ⟨hv₁, hv₂, hv₃⟩ := hdigits v (by omega)
  obtain ⟨hw₁, hw₂, hw₃⟩ := hdigits w hw
  unfold codes
  split_ifs <;> simp only [Before] <;> omega

/-- Lists that differ in a smaller number are in the order of bytes, whatever follows. -/
theorem map_ofNat_lt {xs ys : List Nat} (h : Before xs ys) (hys : ∀ y ∈ ys, y < 256)
    (as bs : List UInt8) : xs.map UInt8.ofNat ++ as < ys.map UInt8.ofNat ++ bs := by
  induction xs generalizing ys with
  | nil => exact h.elim
  | cons x xs ih =>
    cases ys with
    | nil => exact h.elim
    | cons y ys =>
      have hy : y < 256 := hys y List.mem_cons_self
      rw [List.map_cons, List.map_cons, List.cons_append, List.cons_append, List.cons_lt_cons_iff]
      rcases h with hlt | ⟨rfl, hrest⟩
      · left
        rw [UInt8.lt_iff_toNat_lt, UInt8.toNat_ofNat', UInt8.toNat_ofNat']
        omega
      · exact Or.inr ⟨rfl, ih hrest fun z hz => hys z (List.mem_cons_of_mem x hz)⟩

/-- The bytes of a smaller character come before those of a greater one, whatever follows. -/
theorem utf8EncodeChar_lt {c d : Char} (h : c < d) (as bs : List UInt8) :
    String.utf8EncodeChar c ++ as < String.utf8EncodeChar d ++ bs := by
  have hcodes : c.toNat < d.toNat := h
  have hvalid : d.toNat < 0x110000 := by
    rcases d.valid with hd | ⟨_, hd⟩
    · exact Nat.lt_trans hd (by decide)
    · exact hd
  rw [utf8EncodeChar_eq, utf8EncodeChar_eq]
  exact map_ofNat_lt (before_codes hcodes hvalid) (codes_lt hvalid) as bs

/-- Smaller characters have smaller bytes. -/
theorem flatMap_utf8EncodeChar_lt {cs ds : List Char} (h : cs < ds) :
    cs.flatMap String.utf8EncodeChar < ds.flatMap String.utf8EncodeChar := by
  induction cs generalizing ds with
  | nil =>
    cases ds with
    | nil => exact absurd h (List.lt_irrefl [])
    | cons d ds =>
      obtain ⟨first, others, hbytes⟩ :=
        List.exists_cons_of_ne_nil (String.utf8EncodeChar_ne_nil (c := d))
      rw [List.flatMap_cons, hbytes, List.cons_append]
      exact List.nil_lt_cons first _
  | cons c cs ih =>
    cases ds with
    | nil => exact absurd h (List.not_lt_nil (c :: cs))
    | cons d ds =>
      rw [List.flatMap_cons, List.flatMap_cons]
      rcases List.cons_lt_cons_iff.mp h with hlt | ⟨rfl, hrest⟩
      · exact utf8EncodeChar_lt hlt _ _
      · exact List.append_left_lt (ih hrest)

/-- Texts are in the order of their bytes. -/
theorem bytes_lt_iff {a b : String} : bytes a < bytes b ↔ a < b := by
  have hlt {a b : String} (h : a < b) : bytes a < bytes b := by
    rw [bytes_eq, bytes_eq]
    exact flatMap_utf8EncodeChar_lt h
  refine ⟨fun h => ?_, hlt⟩
  rcases Std.lt_trichotomy a b with hab | hab | hab
  · exact hab
  · rw [hab] at h
    exact absurd h (List.lt_irrefl _)
  · exact absurd h (List.lt_asymm (hlt hab))

/-- A text is not after another exactly if its bytes are not. -/
theorem bytes_le_iff {a b : String} : bytes a ≤ bytes b ↔ a ≤ b := by
  rw [← List.not_lt, ← String.not_lt, bytes_lt_iff]

end ProxyInbound.Text.Utf8
