import ProxyInbound.Proofs.Json.Fields

/-!
# Steps that assign fields

A step on a record assigns its fields if each field either gets a value that does not depend on the
record or keeps the one it has. What a field holds after such a step depends on that field alone, so
records that agree on some fields agree on them afterwards, and taking the step twice is taking it
once. Two such steps in either order give records that differ at most in fields that both write.
-/

namespace ProxyInbound.Json

variable {R : Type} {α : Type}

/-- What a step does to one value of a record. -/
inductive Assigns (get : R → α) (step : R → R) : Prop where
  /-- It enters a value, the same for every record. -/
  | enters (value : α) (h : ∀ r, get (step r) = value)
  /-- It keeps the value that is there. -/
  | keeps (h : ∀ r, get (step r) = get r)

/-- An optional value in the stead of the one that is there is an assignment. -/
theorem Assigns.getD {get : R → α} {step : R → R} (value : Option α)
    (h : ∀ r, get (step r) = value.getD (get r)) : Assigns get step := by
  cases value with
  | none => exact .keeps h
  | some v => exact .enters v h

/-- A value that is replaced on a condition that the record has no part in is an assignment. -/
theorem Assigns.ite {get : R → α} {step : R → R} (kept : Prop) [Decidable kept] (value : α)
    (h : ∀ r, get (step r) = if kept then get r else value) :
    Assigns get step := by
  by_cases hkept : kept
  · exact .keeps fun r => (h r).trans (if_pos hkept)
  · exact .enters value fun r => (h r).trans (if_neg hkept)

/-- A step that assigns every one of some fields. -/
def Assignment (slots : List (Slot R)) (step : R → R) : Prop :=
  ∀ s ∈ slots, Assigns s.get step

/-- Every step assigns no fields. -/
theorem Assignment.nil {step : R → R} : Assignment [] step :=
  List.forall_mem_nil _

/-- The fields of a group are assigned if the first one is and the others are. -/
theorem Assignment.cons_iff {s : Slot R} {slots : List (Slot R)} {step : R → R} :
    Assignment (s :: slots) step ↔ Assigns s.get step ∧ Assignment slots step :=
  List.forall_mem_cons

/-- A step that does nothing is an assignment. -/
theorem Assignment.id (slots : List (Slot R)) : Assignment slots id :=
  fun _ _ => .keeps fun _ => rfl

/-- An assignment after an assignment is one. -/
theorem Assignment.comp {slots : List (Slot R)} {first second : R → R}
    (hs : Assignment slots second) (hf : Assignment slots first) :
    Assignment slots (second ∘ first) := by
  intro s hmem
  cases hs s hmem with
  | enters value h => exact .enters value fun r => h (first r)
  | keeps h =>
    cases hf s hmem with
    | enters value k => exact .enters value fun r => (h (first r)).trans (k r)
    | keeps k => exact .keeps fun r => (h (first r)).trans (k r)

section Assignment

variable {slots : List (Slot R)} {step : R → R} (h : Assignment slots step)

include h

/-- Records that agree on some fields agree on them after an assignment. -/
theorem Assignment.agreeOn {counts : String → Prop} {a b : R} (hab : AgreeOn slots counts a b) :
    AgreeOn slots counts (step a) (step b) := by
  intro s hs hcounts
  cases h s hs with
  | enters value hstep => rw [hstep, hstep]
  | keeps hstep => rw [hstep, hstep, hab s hs hcounts]

/-- An assignment that is made twice is made once. -/
theorem Assignment.again (hlawful : LawfulFields slots) (r : R) : step (step r) = step r := by
  refine hlawful.determine _ _ fun s hs => ?_
  cases h s hs with
  | enters value hstep => rw [hstep, hstep]
  | keeps hstep => exact hstep (step r)

end Assignment

/-! ## Steps that write a group of fields -/

/-- A step that writes fields of the given names only, each for itself, and once and for all. -/
structure Writes (slots : List (Slot R)) (written : List String) (step : R → R) : Prop where
  /-- The other fields are as they were. -/
  frame : ∀ r, AgreeOn slots (· ∉ written) (step r) r
  /-- What a field holds afterwards depends on that field alone. -/
  apart : ∀ {counts : String → Prop} {a b : R}, AgreeOn slots counts a b →
    AgreeOn slots counts (step a) (step b)
  /-- The step taken twice is the step taken once. -/
  again : ∀ r, step (step r) = step r

/-- Steps in either order give records that differ at most in fields that both write. -/
theorem Writes.swap {slots : List (Slot R)} {m n : List String} {a b : R → R}
    (ha : Writes slots m a) (hb : Writes slots n b) (r : R) :
    AgreeOn slots (fun name => name ∉ m ∨ name ∉ n) (a (b r)) (b (a r)) := by
  intro s hs hname
  rcases hname with hm | hn
  · -- the first step leaves the field alone, before the second one and after it
    have hafter : s.get (b (a r)) = s.get (b r) := hb.apart (ha.frame r) s hs hm
    exact (ha.frame (b r) s hs hm).trans hafter.symm
  · have hafter : s.get (a (b r)) = s.get (a r) := ha.apart (hb.frame r) s hs hn
    exact hafter.trans (hb.frame (a r) s hs hn).symm

/-- Steps that write no field in common can be taken in either order. -/
theorem Writes.comm {slots : List (Slot R)} {m n : List String} {a b : R → R}
    (ha : Writes slots m a) (hb : Writes slots n b) (hlawful : LawfulFields slots)
    (hdisjoint : m.Disjoint n) (r : R) : a (b r) = b (a r) :=
  (ha.swap hb r).eq hlawful fun _ _ => Decidable.not_and_iff_not_or_not.mp fun hboth =>
    hdisjoint hboth.1 hboth.2

end ProxyInbound.Json
