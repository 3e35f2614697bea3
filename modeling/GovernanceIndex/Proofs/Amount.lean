import GovernanceIndex.Codec
import GovernanceIndex.Json.Reader
import GovernanceIndex.Proofs.Text.Numeral
import Mathlib.Logic.Basic

/-!
The texts and the JSON values that are read as amounts: numerals of any length with blanks around
them, and integers of 64 bits. Every amount is written as its only numeral without leading zeros.
-/
namespace GovernanceIndex

namespace Json

variable {s r : List Char} {n : ℤ} {fuel : ℕ}

theorem readNumber?_integer (h : readNumber? s = some (.int n, r)) : IsInteger n := by
  unfold readNumber? at h
  -- A sign changes which number is read, but not when it is read as an integer.
  split at h
  all_goals
    dsimp only at h
    split at h
    · exact absurd h nofun
    · obtain ⟨⟨fraction, _⟩, -, h⟩ := Option.bind_eq_some_iff.mp h
      obtain ⟨⟨exponent, _⟩, -, h⟩ := Option.bind_eq_some_iff.mp h
      rcases ite_eq_iff.mp h with ⟨hinteger, hn⟩ | ⟨-, hn⟩
      · cases hn
        rw [Bool.and_eq_true] at hinteger
        exact of_decide_eq_true hinteger.2
      · cases hn

theorem readValue?_integer (h : readValue? fuel s = some (.int n, r)) : IsInteger n := by
  cases fuel with
  | zero =>
    rw [readValue?] at h
    cases h
  | succ fuel =>
    rw [readValue?] at h
    split at h
    all_goals grind [Option.map_eq_some_iff, readNumber?_integer]

theorem parse?_integer {text : String} (h : parse? text = some (.int n)) : IsInteger n := by
  unfold parse? at h
  dsimp only at h
  split at h
  · next hread =>
    obtain ⟨-, hx⟩ := Option.ite_none_right_eq_some.mp h
    cases hx
    exact readValue?_integer hread
  · cases h

end Json

namespace Amount

open Text (Encloses IsNumeral numeralValue)

variable {text : String} {a : Amount}

/-- A text spells an amount: it is a numeral of that value, with blanks around it. -/
def Spells (text : String) (a : Amount) : Prop :=
  ∃ cs, Encloses text.toList cs ∧ IsNumeral cs ∧ numeralValue cs = a

theorem isNumeral_iff (cs : List Char) : cs ≠ [] ∧ cs.all isDigit ↔ IsNumeral cs := by
  have hdigit (c : Char) : isDigit c ↔ '0' ≤ c ∧ c ≤ '9' := by
    rw [Text.digit_iff, isDigit, Bool.and_eq_true, decide_eq_true_iff, decide_eq_true_iff]
  rw [List.all_eq_true]
  simp only [hdigit]
  exact ⟨fun ⟨hne, h⟩ => ⟨hne, h⟩, fun h => ⟨h.ne_nil, h.digits⟩⟩

theorem ofDigits_eq (cs : List Char) : ofDigits cs = numeralValue cs := by
  rw [← Text.ofDigitChars_eq, Nat.ofDigitChars_eq_foldl]
  rfl

theorem parse_of_numeral (h : IsNumeral (Text.trimBlanks text.toList)) :
    parse text = .ok (numeralValue (Text.trimBlanks text.toList)) := by
  rw [← ofDigits_eq]
  exact if_pos ((isNumeral_iff _).mpr h)

theorem parse_of_not_numeral (h : ¬ IsNumeral (Text.trimBlanks text.toList)) :
    parse text = .error (.invalidAmount text) :=
  if_neg fun hdigits => h ((isNumeral_iff _).mp hdigits)

/-- An amount is read from the texts that spell it, and from no others. -/
theorem parse_eq_ok_iff : parse text = .ok a ↔ Spells text a := by
  constructor
  · intro h
    by_cases hnumeral : IsNumeral (Text.trimBlanks text.toList)
    · rw [parse_of_numeral hnumeral] at h
      exact ⟨_, Text.encloses_trimBlanks _, hnumeral, Except.ok.inj h⟩
    · rw [parse_of_not_numeral hnumeral] at h
      cases h
  · rintro ⟨cs, hencloses, hnumeral, rfl⟩
    have htrim := hencloses.trimBlanks hnumeral.not_blank
    rw [parse_of_numeral (htrim ▸ hnumeral), htrim]

theorem parse_eq_error (h : ¬ ∃ b, Spells text b) :
    parse text = .error (.invalidAmount text) := by
  apply parse_of_not_numeral
  intro hnumeral
  exact h ⟨_, _, Text.encloses_trimBlanks _, hnumeral, rfl⟩

theorem spells_render (a : Amount) : Spells (render a) a := by
  refine ⟨Nat.toDigits 10 a, ⟨[], [], ?_, nofun⟩, Text.isNumeral_toDigits a,
    Text.numeralValue_toDigits a⟩
  rw [render, String.toList_ofList, List.nil_append, List.append_nil]

theorem decode_text {s : String} : decode (.str s) = .ok a ↔ Spells s a := by
  rw [← parse_eq_ok_iff]
  exact mapError_eq_ok_iff

theorem decode_integer {n : ℤ} : decode (.int n) = .ok a ↔ n = a := by
  change (if 0 ≤ n then .ok n.toNat else .error (.negativeAmount n) : Decoded Amount) = .ok a ↔ _
  split
  · next hn =>
    rw [Except.ok.injEq]
    constructor
    · rintro rfl
      exact (Int.toNat_of_nonneg hn).symm
    · rintro rfl
      exact Int.toNat_natCast a
  · next hn => exact iff_of_false nofun fun h => hn (h ▸ Int.natCast_nonneg a)

/-- Amounts are decoded from strings that spell them and from integers that are not negative. -/
theorem decode_eq_ok_iff {x : Json} :
    decode x = .ok a ↔ (∃ s, x = .str s ∧ Spells s a) ∨ x = .nat a := by
  cases x with
  | int n =>
    rw [decode_integer]
    grind [Json.str, Json.nat]
  | text s =>
    cases s with
    | none => exact iff_of_false nofun nofun
    | some s =>
      change decode (.str s) = .ok a ↔ _
      rw [decode_text]
      grind [Json.str, Json.nat]
  | _ => exact iff_of_false nofun nofun

/-- A text is read as an amount exactly if it is a numeral with blanks around it, whatever its
length and its leading zeros, and then as the value of the numeral; the error names any other text.
An amount is written as its only numeral without leading zeros, which is read back. In JSON an
amount is a string that spells it or an integer below 2^64, and both forms mean the same. -/
theorem spellings_exact (text : String) (a : Amount) :
    (parse text = .ok a ↔ Spells text a) ∧
      ((¬ ∃ b, Spells text b) → parse text = .error (.invalidAmount text)) ∧
      parse (render a) = .ok a ∧
      (∀ cs, cs = (render a).toList ↔
        IsNumeral cs ∧ numeralValue cs = a ∧ (cs.head? = some '0' → cs = ['0'])) ∧
      (∀ x, Json.parse? text = some x →
        (decode x = .ok a ↔ (∃ s, x = .str s ∧ Spells s a) ∨ x = .nat a ∧ a < 2 ^ 64)) ∧
      (a < 2 ^ 64 → Spells text a → decode (.str text) = decode (.nat a)) := by
  refine ⟨parse_eq_ok_iff, parse_eq_error, parse_eq_ok_iff.mpr (spells_render a), ?_, ?_, ?_⟩
  · intro cs
    rw [render, String.toList_ofList]
    exact Text.eq_toDigits_iff
  · intro x hread
    rw [decode_eq_ok_iff]
    apply or_congr_right
    rw [iff_self_and]
    rintro rfl
    exact_mod_cast (Json.parse?_integer hread).2
  · intro _ hspells
    rw [decode_text.mpr hspells]
    exact (decode_integer.mpr rfl).symm

end Amount

end GovernanceIndex
