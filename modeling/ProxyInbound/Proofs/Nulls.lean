import ProxyInbound.Json.Printer
import ProxyInbound.Proofs.Json.Nulls
import ProxyInbound.Proofs.Wire.Readings

/-!
# Nulls in stored inbounds

A null says the same as nothing: a stored inbound opens as the same form when the null members and
the null items are taken out of it at every depth.
-/

namespace ProxyInbound.Conversion

open Json

/-- What is left of a member or an item is not null and holds no null. -/
theorem ne_null_of_stripped? {v w : Json} (h : stripped? v = some w) : w ≠ null ∧ w = v.strip := by
  cases v with
  | null => cases h
  | _ =>
    cases h
    refine ⟨fun hnull => ?_, rfl⟩
    simp [strip] at hnull

/-- Below its first place a value without its nulls holds what is left of some other value. -/
theorem exists_of_holds_strip {w v : Json} {first : Place} {rest : List Place}
    (h : w.strip.Holds (first :: rest) v) : ∃ u : Json, u.strip ≠ null ∧ u.strip.Holds rest v := by
  cases w with
  | array items =>
    rw [strip, stripItems_eq] at h
    cases h with
    | item hmem hinner =>
      obtain ⟨u, _, hu⟩ := List.mem_filterMap.mp hmem
      obtain ⟨hne, rfl⟩ := ne_null_of_stripped? hu
      exact ⟨u, hne, hinner⟩
  | object members =>
    rw [strip, stripMembers_eq] at h
    cases h with
    | member hmem hinner =>
      obtain ⟨m, _, hm⟩ := List.mem_filterMap.mp hmem
      obtain ⟨u, hu, heq⟩ := Option.map_eq_some_iff.mp hm
      cases heq
      obtain ⟨hne, rfl⟩ := ne_null_of_stripped? hu
      exact ⟨m.2, hne, hinner⟩
  | _ => cases h

/-- No null is at any place of a value without its nulls. -/
theorem ne_null_of_holds_strip {w v : Json} {path : List Place} {place : Place}
    (h : w.strip.Holds (path ++ [place]) v) : v ≠ null := by
  induction path generalizing w with
  | nil =>
    obtain ⟨u, hne, hv⟩ := exists_of_holds_strip h
    generalize u.strip = inner at hne hv
    cases hv
    exact hne
  | cons first rest ih =>
    obtain ⟨u, _, hv⟩ := exists_of_holds_strip h
    exact ih hv

/-- A document with distinct keys opens, without the nulls that it holds at any depth, as the form
that it opens as with them. -/
theorem parse_strip {w : Json} (h : w.DistinctKeys) :
    (∀ path place v, w.strip.Holds (path ++ [place]) v → v ≠ null) ∧
      parse w.strip = parse w :=
  ⟨fun _ _ _ => ne_null_of_holds_strip,
    parse_congr_readings (sameFields_strip Wire.inboundReadings h)⟩

/-- A document with nulls among its members, in lists, in a header and in a range. -/
def nullDocument : Json :=
  object
    [ ("port", null), ("protocol", string "vless"),
      ("settings", object [("fallbacks", array
        [null, object [("alpn", array [null, string "h2"]), ("dest", integer 80)]])]),
      ("sniffing", null),
      ("streamSettings", object
        [ ("network", string "splithttp"),
          ("splithttpSettings", object
            [ ("headers", object [("Host", array [null]), ("X-Id", array [null, string "1"])]),
              ("path", null),
              ("scMaxEachPostBytes", object [("from", null), ("to", integer 9)]) ]) ]) ]

/-- The document without its nulls opens as the same form. -/
theorem parse_strip_nullDocument :
    nullDocument.DistinctKeys ∧
      nullDocument.strip =
        object
          [ ("protocol", string "vless"),
            ("settings", object [("fallbacks", array
              [object [("alpn", array [string "h2"]), ("dest", integer 80)]])]),
            ("streamSettings", object
              [ ("network", string "splithttp"),
                ("splithttpSettings", object
                  [ ("headers", object [("Host", array []), ("X-Id", array [string "1"])]),
                    ("scMaxEachPostBytes", object [("to", integer 9)]) ]) ]) ] ∧
      parse nullDocument.strip = parse nullDocument := by
  have hkeys : nullDocument.DistinctKeys := by simp [nullDocument, integer, DistinctKeys.scalar]
  exact ⟨hkeys, by decide +kernel, (parse_strip hkeys).2⟩

end ProxyInbound.Conversion
