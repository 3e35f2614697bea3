import GovernanceIndex.Amount
import GovernanceIndex.Number.Word
import Mathlib.Data.List.Basic
import Mathlib.Data.List.Induction
import Mathlib.Data.List.TakeWhile
import Mathlib.Data.Nat.Digits.Defs

/-!
Numerals: rows of decimal digits with their values by place. Reading digits one behind the other
comes to the value of the row, and the digits in which a number is written are its only numeral
without leading zeros. Trimming finds what stands between the blanks at both ends of a text.
-/
namespace GovernanceIndex

namespace Text

/-- A row of decimal digits, at least one. -/
structure IsNumeral (cs : List Char) : Prop where
  ne_nil : cs ≠ []
  digits : ∀ c ∈ cs, '0' ≤ c ∧ c ≤ '9'

/-- The value of a row of digits by place: its last digit counts ones, the one before it tens. -/
def numeralValue (cs : List Char) : ℕ :=
  Nat.ofDigits 10 (cs.reverse.map fun c => c.toNat - '0'.toNat)

variable {cs : List Char} {c : Char} {n : ℕ}

theorem digit_iff : ('0' ≤ c ∧ c ≤ '9') ↔ 48 ≤ c.toNat ∧ c.toNat ≤ 57 := by
  rw [Char.le_def, Char.le_def, UInt32.le_iff_toNat_le, UInt32.le_iff_toNat_le]
  rfl

theorem numeralValue_append (cs : List Char) (c : Char) :
    numeralValue (cs ++ [c]) = 10 * numeralValue cs + (c.toNat - 48) := by
  unfold numeralValue
  rw [List.reverse_append, List.reverse_singleton, List.singleton_append, List.map_cons,
    Nat.ofDigits_cons, Nat.add_comm]
  rfl

theorem ofDigitChars_eq (cs : List Char) : Nat.ofDigitChars 10 cs 0 = numeralValue cs := by
  induction cs using List.reverseRecOn with
  | nil => rfl
  | append_singleton cs c ih =>
    rw [Nat.ofDigitChars_append, ih, numeralValue_append, Nat.ofDigitChars_cons,
      Nat.ofDigitChars_nil]
    rfl

theorem isNumeral_toDigits (n : ℕ) : IsNumeral (Nat.toDigits 10 n) where
  ne_nil := Nat.toDigits_ne_nil
  digits c hc := by
    have hdigit := Nat.isDigit_of_mem_toDigits (by decide) (by decide) hc
    rw [Char.isDigit, Bool.and_eq_true, decide_eq_true_iff, decide_eq_true_iff] at hdigit
    exact hdigit

theorem numeralValue_toDigits (n : ℕ) : numeralValue (Nat.toDigits 10 n) = n := by
  rw [← ofDigitChars_eq]
  exact Nat.ofDigitChars_ten_toDigits

theorem head?_toDigits (hn : 0 < n) : (Nat.toDigits 10 n).head? ≠ some '0' := by
  induction n using Nat.strong_induction_on with
  | _ n ih =>
    rw [Nat.toDigits_eq_if (by decide)]
    split
    · next hlt =>
      intro hzero
      have hchar := congrArg Char.toNat (Option.some.inj hzero)
      rw [Nat.toNat_digitChar_of_lt_ten hlt] at hchar
      change 48 + n = 48 at hchar
      omega
    · next hle =>
      have hpos : 0 < n / 10 := by omega
      rw [List.head?_append_of_ne_nil _ Nat.toDigits_ne_nil]
      exact ih (n / 10) (by omega) hpos

theorem IsNumeral.append_singleton (h : IsNumeral (cs ++ [c])) (hcs : cs ≠ []) : IsNumeral cs :=
  ⟨hcs, fun d hd => h.digits d (List.mem_append_left [c] hd)⟩

theorem IsNumeral.digitChar_last (h : IsNumeral (cs ++ [c])) :
    c.toNat - 48 < 10 ∧ (c.toNat - 48).digitChar = c := by
  obtain ⟨hlow, hhigh⟩ := digit_iff.mp (h.digits c (List.mem_append_right cs List.mem_cons_self))
  have hlt : c.toNat - 48 < 10 := by omega
  refine ⟨hlt, Char.toNat_inj.mp ?_⟩
  rw [Nat.toNat_digitChar_of_lt_ten hlt]
  omega

theorem IsNumeral.toDigits (h : IsNumeral cs) (hlead : cs.head? = some '0' → cs = ['0']) :
    Nat.toDigits 10 (numeralValue cs) = cs := by
  induction cs using List.reverseRecOn with
  | nil => exact absurd rfl h.ne_nil
  | append_singleton cs c ih =>
    obtain ⟨hlt, hchar⟩ := h.digitChar_last
    rw [numeralValue_append]
    rcases eq_or_ne cs [] with rfl | hcs
    · rw [List.nil_append, show numeralValue [] = 0 from rfl, Nat.mul_zero, Nat.zero_add,
        Nat.toDigits_of_lt_base hlt, hchar]
    · have hhead : cs.head? ≠ some '0' := by
        intro hzero
        have hfull := hlead (by rw [List.head?_append_of_ne_nil _ hcs, hzero])
        exact hcs (by simpa using congrArg List.length hfull)
      have hdigits := ih (h.append_singleton hcs) fun hzero => absurd hzero hhead
      have hpos : 0 < numeralValue cs := by
        apply Nat.pos_of_ne_zero
        intro hzero
        rw [hzero] at hdigits
        exact hhead (hdigits ▸ rfl)
      rw [← Nat.toDigits_append_toDigits (by decide) hpos hlt, hdigits,
        Nat.toDigits_of_lt_base hlt, hchar]

theorem eq_toDigits_iff : cs = Nat.toDigits 10 n ↔
    IsNumeral cs ∧ numeralValue cs = n ∧ (cs.head? = some '0' → cs = ['0']) := by
  constructor
  · rintro rfl
    refine ⟨isNumeral_toDigits n, numeralValue_toDigits n, fun hzero => ?_⟩
    rcases Nat.eq_zero_or_pos n with rfl | hn
    · rfl
    · exact absurd hzero (head?_toDigits hn)
  · rintro ⟨h, rfl, hlead⟩
    exact (h.toDigits hlead).symm

/-- A row of characters stands in a text, with nothing but blanks before and behind it. -/
def Encloses (s cs : List Char) : Prop :=
  ∃ before behind, s = before ++ cs ++ behind ∧ ∀ c ∈ before ++ behind, isBlank c

theorem encloses_trimBlanks (s : List Char) : Encloses s (trimBlanks s) := by
  refine ⟨s.takeWhile isBlank, ((s.dropWhile isBlank).reverse.takeWhile isBlank).reverse, ?_, ?_⟩
  · rw [List.append_assoc, trimBlanks, ← List.reverse_append, List.takeWhile_append_dropWhile,
      List.reverse_reverse, List.takeWhile_append_dropWhile]
  · intro c hc
    rcases List.mem_append.mp hc with hc | hc
    · exact List.mem_takeWhile_imp hc
    · exact List.mem_takeWhile_imp (List.mem_reverse.mp hc)

/-- What stands between blanks and has none itself is found by trimming. -/
theorem Encloses.trimBlanks {s : List Char} (h : Encloses s cs) (hcs : ∀ c ∈ cs, ¬ isBlank c) :
    trimBlanks s = cs := by
  obtain ⟨before, behind, rfl, hblank⟩ := h
  have hself (r : List Char) (hr : ∀ c ∈ r, ¬ isBlank c) : r.dropWhile isBlank = r := by
    rw [List.dropWhile_eq_self_iff]
    exact fun hpos => hr _ (List.getElem_mem hpos)
  unfold Text.trimBlanks
  rcases eq_or_ne cs [] with rfl | hne
  · rw [List.append_nil, List.dropWhile_eq_nil_iff.mpr hblank]
    rfl
  · have hfirst : (cs ++ behind).dropWhile isBlank = cs ++ behind := by
      rw [List.dropWhile_append, hself cs hcs, if_neg (mt List.isEmpty_iff.mp hne)]
    have hbefore : ∀ c ∈ before, isBlank c := fun c hc => hblank c (List.mem_append_left _ hc)
    have hbehind : ∀ c ∈ behind.reverse, isBlank c :=
      fun c hc => hblank c (List.mem_append_right _ (List.mem_reverse.mp hc))
    rw [List.append_assoc, List.dropWhile_append_of_pos hbefore, hfirst, List.reverse_append,
      List.dropWhile_append_of_pos hbehind, hself _ fun c hc => hcs c (List.mem_reverse.mp hc),
      List.reverse_reverse]

theorem Encloses.eq_trimBlanks_iff {s : List Char} (hcs : ∀ c ∈ cs, ¬ isBlank c) :
    Text.trimBlanks s = cs ↔ Encloses s cs :=
  ⟨fun h => h ▸ encloses_trimBlanks s, fun h => h.trimBlanks hcs⟩

theorem IsNumeral.not_blank (h : IsNumeral cs) : ∀ c ∈ cs, ¬ isBlank c := by
  intro c hc
  have hdigit := digit_iff.mp (h.digits c hc)
  unfold isBlank
  grind

/-- A text holds a number: it is a numeral of that value, behind a plus sign or without one, and has
blanks around it. -/
def HoldsNumber (text : String) (n : ℕ) : Prop :=
  ∃ cs, IsNumeral cs ∧ numeralValue cs = n ∧
    (Encloses text.toList cs ∨ Encloses text.toList ('+' :: cs))

end Text

theorem mapError_eq_ok_iff {α ε ε' : Type} {x : Except ε α} {f : ε → ε'} {a : α} :
    x.mapError f = .ok a ↔ x = .ok a := by
  rcases x with fault | b
  · exact iff_of_false nofun nofun
  · exact ⟨fun h => Except.ok.inj h ▸ rfl, fun h => Except.ok.inj h ▸ rfl⟩

namespace Word

open Text (IsNumeral numeralValue)

variable {bound m n : ℕ} {cs : List Char}

theorem le_ofDigitChars (cs : List Char) (m : ℕ) : m ≤ Nat.ofDigitChars 10 cs m := by
  rw [Nat.ofDigitChars_eq_ofDigitChars_zero]
  have hscaled : m ≤ 10 ^ cs.length * m := Nat.le_mul_of_pos_left m (Nat.pow_pos (by decide))
  exact Nat.le_add_right_of_le hscaled

theorem readDigits_eq_ok_iff (hm : m < bound) : readDigits bound m cs = .ok n ↔
    (∀ c ∈ cs, '0' ≤ c ∧ c ≤ '9') ∧ Nat.ofDigitChars 10 cs m = n ∧ n < bound := by
  induction cs generalizing m with
  | nil => grind [readDigits, Nat.ofDigitChars_nil]
  | cons c cs ih =>
    rw [readDigits, List.forall_mem_cons, Text.digit_iff, Nat.ofDigitChars_cons]
    change _ ↔ (_ ∧ _) ∧ Nat.ofDigitChars 10 cs (10 * m + (c.toNat - 48)) = n ∧ n < bound
    split
    · next hdigit =>
      dsimp only
      split
      · next hlt => rw [ih hlt, and_iff_right hdigit]
      · next hbig =>
        have hle := le_ofDigitChars cs (10 * m + (c.toNat - 48))
        exact iff_of_false nofun fun ⟨_, hn, hlt⟩ => by omega
    · next hdigit => exact iff_of_false nofun fun ⟨⟨h, _⟩, _⟩ => hdigit h

/-- A number is read from a numeral below the bound, behind a plus sign or without one. -/
theorem read_eq_ok_iff {text : String} (hbound : 0 < bound) : read bound text = .ok n ↔
    n < bound ∧ ∃ cs, IsNumeral cs ∧ numeralValue cs = n ∧
      (text.toList = cs ∨ text.toList = '+' :: cs) := by
  have hdigits (cs : List Char) (hcs : cs ≠ []) : readDigits bound 0 cs = .ok n ↔
      n < bound ∧ IsNumeral cs ∧ numeralValue cs = n := by
    rw [readDigits_eq_ok_iff hbound, Text.ofDigitChars_eq]
    exact ⟨fun ⟨h, hn, hlt⟩ => ⟨hlt, ⟨hcs, h⟩, hn⟩, fun ⟨hlt, h, hn⟩ => ⟨h.digits, hn, hlt⟩⟩
  have hplus (cs : List Char) : ¬ IsNumeral ('+' :: cs) := fun h =>
    absurd (h.digits '+' List.mem_cons_self) (by decide)
  unfold read
  split
  · next htext =>
    refine iff_of_false nofun ?_
    rintro ⟨-, cs, hcs, -, h | h⟩
    · exact hcs.ne_nil (h.symm.trans htext)
    · cases htext.symm.trans h
  · next htext =>
    refine iff_of_false nofun ?_
    rintro ⟨-, cs, hcs, -, h | h⟩
    · exact hplus [] (htext.symm.trans h ▸ hcs)
    · cases htext.symm.trans h
      exact hcs.ne_nil rfl
  · next cs hne htext =>
    rw [hdigits cs hne]
    refine and_congr_right fun _ => ⟨fun h => ⟨cs, h.1, h.2, .inr htext⟩, ?_⟩
    rintro ⟨cs', hcs', hn, h | h⟩
    · exact absurd (htext.symm.trans h ▸ hcs') (hplus cs)
    · cases htext.symm.trans h
      exact ⟨hcs', hn⟩
  · next hnil _ hsign =>
    rw [hdigits _ hnil]
    refine and_congr_right fun _ => ⟨fun h => ⟨_, h.1, h.2, .inl rfl⟩, ?_⟩
    rintro ⟨cs, hcs, hn, h | h⟩
    · exact h ▸ ⟨hcs, hn⟩
    · exact absurd h (hsign cs)

theorem read_trim_eq_ok_iff {text : String} (hbound : 0 < bound) :
    read bound (Text.trim text) = .ok n ↔ n < bound ∧ Text.HoldsNumber text n := by
  rw [read_eq_ok_iff hbound, Text.trim, String.toList_ofList]
  refine and_congr_right fun _ => exists_congr fun cs => and_congr_right fun hcs =>
    and_congr_right fun _ => ?_
  have hplus : ∀ c ∈ '+' :: cs, ¬ Text.isBlank c :=
    List.forall_mem_cons.mpr ⟨by decide, hcs.not_blank⟩
  rw [Text.Encloses.eq_trimBlanks_iff hcs.not_blank, Text.Encloses.eq_trimBlanks_iff hplus]

/-- From a trimmed text the words of 64 bits are read that it holds. -/
theorem read64_trim_eq_ok_iff {text : String} {n : UInt64} :
    read64 (Text.trim text) = .ok n ↔ Text.HoldsNumber text n.toNat := by
  have hread (k : ℕ) : read (2 ^ 64) (Text.trim text) = .ok k ↔ _ :=
    read_trim_eq_ok_iff (by decide)
  rw [← and_iff_right n.toNat_lt (b := Text.HoldsNumber text n.toNat), ← hread]
  unfold read64
  rw [show 18446744073709551616 = 2 ^ 64 from rfl]
  rcases hk : read (2 ^ 64) (Text.trim text) with fault | k
  · exact iff_of_false nofun nofun
  · have hfits : k < 2 ^ 64 := ((hread k).mp hk).1
    simp only [Except.map, Except.ok.injEq]
    constructor
    · rintro rfl
      exact (UInt64.toNat_ofNat_of_lt' hfits).symm
    · rintro rfl
      exact UInt64.ofNat_toNat

end Word

end GovernanceIndex
