import GovernanceIndex.Json.Decode
import Mathlib.Data.List.Forall2
import Mathlib.Data.List.Nodup

/-!
Values without some of the fields of their objects, and decoders that read the same from them. A
field may be left out where it is `null` or holds the default of its name, however deep in a value
it stands. Whether a decoder of records reads the same is decided field by field.
-/
namespace GovernanceIndex

namespace Json

/-- A field may be left out: it is `null`, or holds the default of its name. -/
def MayLack (defaults : List (String × Json)) (name : String) (x : Json) : Prop :=
  x = .null ∨ defaults.lookup name = some x

/-- The fields of an object without some that may be left out; the others are in their order and
related to what they were. -/
inductive Leaves (defaults : List (String × Json)) (R : Json → Json → Prop) :
    List (Option String × Json) → List (Option String × Json) → Prop
  | nil : Leaves defaults R [] []
  | keep {name x y es fs} : R x y → Leaves defaults R es fs →
      Leaves defaults R ((name, x) :: es) ((name, y) :: fs)
  | leave {name x es fs} : MayLack defaults name x → Leaves defaults R es fs →
      Leaves defaults R ((some name, x) :: es) fs

/-- The second value is the first one without some of the fields that may be left out. -/
inductive Lighter (defaults : List (String × Json)) : Json → Json → Prop
  | same (x) : Lighter defaults x x
  | list {xs ys} : List.Forall₂ (Lighter defaults) xs ys →
      Lighter defaults (.list xs) (.list ys)
  | object {es fs} : Leaves defaults (Lighter defaults) es fs →
      Lighter defaults (.object es) (.object fs)

/-- Values that have no fields and no items, and are not `null`. -/
def isPlain : Json → Bool
  | .null | .list _ | .object _ => false
  | .bool _ | .int _ | .float _ | .text _ => true

variable {defaults : List (String × Json)} {x y : Json} {es : List (String × Json)}

namespace Lighter

theorem eq_of_plain (h : Lighter defaults x y) (hx : x.isPlain) : y = x := by
  cases h with
  | same => rfl
  | list => cases hx
  | object => cases hx

theorem ne_null (h : Lighter defaults x y) (hx : x ≠ .null) : y ≠ .null := by
  cases h with
  | same => exact hx
  | list => exact nofun
  | object => exact nofun

theorem items {xs : List Json} (h : Lighter defaults (.list xs) y) :
    ∃ ys, y = .list ys ∧ List.Forall₂ (Lighter defaults) xs ys := by
  cases h with
  | same => exact ⟨xs, rfl, List.forall₂_same.mpr fun x _ => .same x⟩
  | list hitems => exact ⟨_, rfl, hitems⟩

theorem leaves {es : List (Option String × Json)} (h : Lighter defaults (.object es) y) :
    ∃ fs, y = .object fs ∧ Leaves defaults (Lighter defaults) es fs := by
  cases h with
  | same =>
    refine ⟨es, rfl, ?_⟩
    induction es with
    | nil => exact .nil
    | cons e es ih => exact .keep (.same _) ih
  | object hleaves => exact ⟨_, rfl, hleaves⟩

end Lighter

/-- The known fields of a record that was an object with the given fields: each of them was kept,
maybe lighter, or left out where it may be. -/
structure Fields.Remain (defaults : List (String × Json)) (es : List (String × Json))
    (f : Fields) : Prop where
  named : f.positional = false
  remains : ∀ name x, es.lookup name = some x →
    (∃ y, f.entries.lookup name = some y ∧ Lighter defaults x y) ∨
      f.entries.lookup name = none ∧ MayLack defaults name x

theorem Leaves.exists_entries {R : Json → Json → Prop} {gs : List (Option String × Json)}
    (h : Leaves defaults R (es.map fun e => (some e.1, e.2)) gs) (hes : (es.map Prod.fst).Nodup) :
    ∃ fs : List (String × Json), gs = fs.map (fun e => (some e.1, e.2)) ∧
      (fs.map Prod.fst).Sublist (es.map Prod.fst) ∧
      ∀ name x, es.lookup name = some x →
        (∃ y, fs.lookup name = some y ∧ R x y) ∨
          fs.lookup name = none ∧ MayLack defaults name x := by
  induction es generalizing gs with
  | nil =>
    cases h
    exact ⟨[], rfl, .slnil, nofun⟩
  | cons e es ih =>
    rw [List.map_cons, List.nodup_cons] at hes
    rw [List.map_cons] at h
    cases h with
    | @keep _ _ y _ _ hxy hrest =>
      obtain ⟨fs, rfl, hsub, hremains⟩ := ih hrest hes.2
      refine ⟨(e.1, y) :: fs, rfl, hsub.cons_cons e.1, fun name x hx => ?_⟩
      rw [List.lookup_cons] at hx ⊢
      split at hx
      · cases hx
        exact .inl ⟨y, rfl, hxy⟩
      · exact hremains name x hx
    | leave hmay hrest =>
      obtain ⟨fs, rfl, hsub, hremains⟩ := ih hrest hes.2
      refine ⟨fs, rfl, hsub.cons e.1, fun name x hx => ?_⟩
      rw [List.lookup_cons] at hx
      split at hx
      · next hname =>
        cases hx
        cases eq_of_beq hname
        -- The names differ, so no other field is found in place of the one that is left out.
        refine .inr ⟨List.lookup_eq_none_iff.mpr fun entry hentry => bne_iff_ne.mpr ?_, hmay⟩
        intro hsame
        exact hes.1 (hsame ▸ hsub.subset (List.mem_map_of_mem hentry))
      · exact hremains name x hx

theorem fields_obj {names : List String} (hnames : es.map Prod.fst ⊆ names)
    (hes : (es.map Prod.fst).Nodup) : (obj es).fields names = .ok ⟨false, es⟩ := by
  have hknown : knownFields names (es.map fun e => (some e.1, e.2)) = es := by
    unfold knownFields
    rw [List.filterMap_map]
    refine (List.filterMap_congr fun e he => ?_).trans List.filterMap_some
    exact if_pos (hnames (List.mem_map_of_mem he))
  have hall : (es.map fun e => (some e.1, e.2)).all (fun f => f.1.isSome) = true := by simp
  unfold obj fields
  dsimp only
  rw [hknown, hall, Bool.true_and, if_pos (decide_eq_true hes)]

/-- Without some fields that may be left out, an object is still read as a record. -/
theorem Lighter.fields (h : Lighter defaults (obj es) y) (hes : (es.map Prod.fst).Nodup) :
    ∃ f, y.fields (es.map Prod.fst) = .ok f ∧ f.Remain defaults es := by
  obtain ⟨gs, rfl, hleaves⟩ := h.leaves
  obtain ⟨fs, rfl, hsub, hremains⟩ := hleaves.exists_entries hes
  exact ⟨⟨false, fs⟩, fields_obj hsub.subset (hes.sublist hsub), rfl, hremains⟩

/-- Decoding gives a value back from its encoding, and from every lighter one. The encoding is not
`null`. -/
structure Faithful {α : Type} (defaults : List (String × Json)) (decode : Json → Decoded α)
    (encode : α → Json) (a : α) : Prop where
  ne_null : encode a ≠ .null
  reads : ∀ y, Lighter defaults (encode a) y → decode y = .ok a

variable {α β : Type} {decode : Json → Decoded α} {encode : α → Json} {a : α} {name : String}
  {f : Fields}

namespace Faithful

theorem plain (hplain : (encode a).isPlain) (h : decode (encode a) = .ok a) :
    Faithful defaults decode encode a where
  ne_null hnull := by
    rw [hnull] at hplain
    cases hplain
  reads y hy := by rw [hy.eq_of_plain hplain, h]

theorem decodeItems {as : List α} {ys : List Json}
    (h : ∀ a ∈ as, Faithful defaults decode encode a)
    (hitems : List.Forall₂ (Lighter defaults) (as.map encode) ys) :
    decodeItems decode ys = .ok as := by
  induction as generalizing ys with
  | nil =>
    cases hitems
    rfl
  | cons a as ih =>
    obtain ⟨ha, has⟩ := List.forall_mem_cons.mp h
    cases hitems with
    | cons hitem hitems =>
      unfold Json.decodeItems
      rw [ha.reads _ hitem, ih has hitems]
      rfl

theorem list {as : List α} (h : ∀ a ∈ as, Faithful defaults decode encode a) :
    Faithful defaults (decodeList decode) (encodeList encode) as where
  ne_null := nofun
  reads y hy := by
    obtain ⟨ys, rfl, hitems⟩ := hy.items
    exact decodeItems h hitems

theorem decodeOption {o : Option α} (h : ∀ a ∈ o, Faithful defaults decode encode a)
    (hy : Lighter defaults (optional encode o) y) : decodeOption decode y = .ok o := by
  rcases o with _ | a
  · cases hy
    rfl
  · have ha := h a rfl
    have hnull : y ≠ .null := hy.ne_null ha.ne_null
    unfold Json.decodeOption
    split
    · next => exact absurd rfl hnull
    · next => rw [ha.reads y hy]; rfl

/-- A record is read from its form if its fields are, whichever of them remain. -/
theorem record {names : List String} {read : Fields → Decoded α} (hencode : encode a = obj es)
    (hdecode : ∀ x, decode x = x.fields names >>= read) (hnames : es.map Prod.fst = names)
    (hnodup : names.Nodup) (hread : ∀ f : Fields, f.Remain defaults es → read f = .ok a) :
    Faithful defaults decode encode a where
  ne_null := by
    rw [hencode]
    exact nofun
  reads y hy := by
    subst hnames
    rw [hencode] at hy
    obtain ⟨f, hf, hremain⟩ := hy.fields hnodup
    rw [hdecode, hf]
    exact hread f hremain

end Faithful

namespace Fields.Remain

theorem required (h : f.Remain defaults es) (ha : Faithful defaults decode encode a)
    (hes : es.lookup name = some (encode a)) (hname : defaults.lookup name = none) :
    f.required name decode = .ok a := by
  unfold Fields.required
  obtain ⟨y, hy, hlighter⟩ | ⟨-, hnull | hdefault⟩ := h.remains name _ hes
  · rw [hy]
    exact ha.reads y hlighter
  · exact absurd hnull ha.ne_null
  · cases hname.symm.trans hdefault

theorem withDefault (h : f.Remain defaults es) (ha : Faithful defaults decode encode a)
    {fallback : α} (hfallback : decode (encode fallback) = .ok fallback)
    (hes : es.lookup name = some (encode a))
    (hname : defaults.lookup name = some (encode fallback)) :
    f.withDefault name fallback decode = .ok a := by
  unfold Fields.withDefault
  obtain ⟨y, hy, hlighter⟩ | ⟨hnone, hnull | hdefault⟩ := h.remains name _ hes
  · rw [hy]
    exact ha.reads y hlighter
  · exact absurd hnull ha.ne_null
  · have hsame : decode (encode a) = .ok fallback := by
      rw [← Option.some.inj (hname.symm.trans hdefault), hfallback]
    rw [hnone, ← hsame]
    exact ha.reads _ (.same _)

theorem omittable {o : Option α} (h : f.Remain defaults es)
    (ho : ∀ a ∈ o, Faithful defaults decode encode a)
    (hes : es.lookup name = some (optional encode o)) (hname : defaults.lookup name = none) :
    f.omittable name decode = .ok o := by
  unfold Fields.omittable Fields.withDefault
  obtain ⟨y, hy, hlighter⟩ | ⟨hnone, hnull | hdefault⟩ := h.remains name _ hes
  · rw [hy]
    exact Faithful.decodeOption ho hlighter
  · rw [hnone]
    rcases o with _ | a
    · rfl
    · exact absurd hnull (ho a rfl).ne_null
  · cases hname.symm.trans hdefault

/-- In an object, fields that may be left out there are fields that may be left out everywhere. -/
theorem nullable {o : Option α} (h : f.Remain defaults es)
    (ho : ∀ a ∈ o, Faithful defaults decode encode a)
    (hes : es.lookup name = some (optional encode o)) (hname : defaults.lookup name = none) :
    f.nullable name decode = .ok o := by
  have hsame : f.nullable name decode = f.omittable name decode := by
    unfold Fields.nullable Fields.omittable Fields.withDefault
    rw [h.named]
    rfl
  rw [hsame]
  exact h.omittable ho hes hname

end Fields.Remain

theorem ok_bind {x : Decoded β} {k : β → Decoded α} {b : β} (hx : x = .ok b)
    (hk : k b = .ok a) : (x >>= k) = .ok a := by
  rw [hx]
  exact hk

end Json

end GovernanceIndex
