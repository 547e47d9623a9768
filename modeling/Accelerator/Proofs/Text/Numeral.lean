import Accelerator.Proofs.Except
import Accelerator.Text.Number

/-! Numbers as they are written: which texts are read as a number, and as which one. -/

namespace Accelerator

/-- Digits that have the value `n`, possibly with zeros in front. -/
structure Decimal (n : Nat) (digits : List Char) : Prop where
  ne_nil : digits ≠ []
  isDigit : ∀ d ∈ digits, d.isDigit = true
  value : Nat.ofDigitChars 10 digits 0 = n

/-- A number up to `limit`, with or without a plus sign. -/
structure Numeral (limit n : Nat) (cs : List Char) : Prop where
  written : Decimal n cs ∨ ∃ digits, cs = '+' :: digits ∧ Decimal n digits
  le_limit : n ≤ limit

/-- A whole number from `-limit - 1` to `limit`, which one below zero has a minus sign for. -/
def IntNumeral (limit : Nat) (i : Int) (cs : List Char) : Prop :=
  (∃ n, Numeral limit n cs ∧ i = n) ∨
    ∃ n digits, cs = '-' :: digits ∧ Decimal n digits ∧ n ≤ limit + 1 ∧ i = -n

variable {limit n acc d : Nat} {past : NumberError} {c : Char} {cs : List Char}

theorem isDigit_iff : c.isDigit = true ↔ '0' ≤ c ∧ c ≤ '9' := by
  simp only [Char.isDigit, Bool.and_eq_true, decide_eq_true_eq]
  rfl

theorem digit?_eq_some_iff :
    digit? c = some d ↔ c.isDigit = true ∧ c.toNat - '0'.toNat = d := by
  unfold digit?
  rw [isDigit_iff]
  split
  · next h => simp [h]
  · next h => simp [h]

theorem digit?_eq_none_iff : digit? c = none ↔ c.isDigit = false := by
  unfold digit?
  rw [← Bool.not_eq_true, isDigit_iff]
  split
  · next h => simp [h]
  · next h => simp [h]

theorem le_ofDigitChars (acc : Nat) (cs : List Char) : acc ≤ Nat.ofDigitChars 10 cs acc := by
  rw [Nat.ofDigitChars_eq_ofDigitChars_zero]
  have hpos : 1 ≤ 10 ^ cs.length := Nat.one_le_pow _ _ (by decide)
  have hle : 1 * acc ≤ 10 ^ cs.length * acc := Nat.mul_le_mul_right acc hpos
  omega

/-- Digits are read to the end just where the number that they make is within the limit, as it
never gets smaller on the way. -/
theorem readDigits_eq_ok_iff (hacc : acc ≤ limit) :
    readDigits limit past acc cs = .ok n ↔
      (∀ c ∈ cs, c.isDigit = true) ∧ Nat.ofDigitChars 10 cs acc = n ∧ n ≤ limit := by
  induction cs generalizing acc with
  | nil =>
    simp only [readDigits, Except.ok.injEq, Nat.ofDigitChars_nil]
    constructor
    · rintro rfl
      exact ⟨fun _ hm => absurd hm List.not_mem_nil, rfl, hacc⟩
    · exact fun h => h.2.1
  | cons c cs ih =>
    rw [readDigits]
    cases hd : digit? c with
    | none =>
      have hc := digit?_eq_none_iff.mp hd
      simp [hc]
    | some d =>
      obtain ⟨hc, hvalue⟩ := digit?_eq_some_iff.mp hd
      rw [Nat.ofDigitChars_cons, hvalue, Nat.mul_comm 10 acc]
      by_cases hle : acc * 10 + d ≤ limit
      · simp only [if_pos hle, ih hle, List.mem_cons, forall_eq_or_imp, hc, true_and]
      · have hbeyond := le_ofDigitChars (acc * 10 + d) cs
        simp only [if_neg hle, reduceCtorEq, false_iff, not_and]
        omega

theorem readDigits_eq_ok_iff_decimal (hne : cs ≠ []) :
    readDigits limit past 0 cs = .ok n ↔ Decimal n cs ∧ n ≤ limit := by
  rw [readDigits_eq_ok_iff (Nat.zero_le limit)]
  constructor
  · rintro ⟨hdigits, hvalue, hle⟩
    exact ⟨⟨hne, hdigits, hvalue⟩, hle⟩
  · rintro ⟨h, hle⟩
    exact ⟨h.isDigit, h.value, hle⟩

theorem Decimal.not_sign (h : Decimal n (c :: cs)) : c ≠ '+' ∧ c ≠ '-' := by
  have hc := h.isDigit c List.mem_cons_self
  constructor <;>
    · rintro rfl
      revert hc
      decide

theorem readNat_of_ne_plus (hne : cs ≠ []) (h : ∀ digits, cs ≠ '+' :: digits) :
    readNat limit cs = readDigits limit .tooLarge 0 cs := by
  unfold readNat
  split
  · exact absurd rfl hne
  · exact absurd rfl (h _)
  · exact absurd rfl (h _)
  · rfl

theorem readNat_eq_ok_iff : readNat limit cs = .ok n ↔ Numeral limit n cs := by
  by_cases hplus : ∃ digits, cs = '+' :: digits
  · obtain ⟨digits, rfl⟩ := hplus
    have hsign : ¬ Decimal n ('+' :: digits) := fun h => h.not_sign.1 rfl
    cases digits with
    | nil =>
      refine ⟨nofun, fun h => ?_⟩
      rcases h.written with hd | ⟨digits, hcs, hd⟩
      · exact absurd hd hsign
      · exact absurd (List.cons.inj hcs).2.symm hd.ne_nil
    | cons d ds =>
      change readDigits limit .tooLarge 0 (d :: ds) = .ok n ↔ _
      rw [readDigits_eq_ok_iff_decimal (List.cons_ne_nil d ds)]
      constructor
      · rintro ⟨hd, hle⟩
        exact ⟨Or.inr ⟨_, rfl, hd⟩, hle⟩
      · rintro ⟨hd | ⟨digits, hcs, hd⟩, hle⟩
        · exact absurd hd hsign
        · rw [(List.cons.inj hcs).2]
          exact ⟨hd, hle⟩
  · have hnone := not_exists.mp hplus
    by_cases hne : cs = []
    · subst hne
      refine ⟨nofun, fun h => ?_⟩
      rcases h.written with hd | ⟨_, hcs, -⟩
      · exact absurd rfl hd.ne_nil
      · cases hcs
    · rw [readNat_of_ne_plus hne hnone, readDigits_eq_ok_iff_decimal hne]
      constructor
      · rintro ⟨hd, hle⟩
        exact ⟨Or.inl hd, hle⟩
      · rintro ⟨hd | ⟨digits, hcs, -⟩, hle⟩
        · exact ⟨hd, hle⟩
        · exact absurd hcs (hnone digits)

theorem Numeral.ne_minus (h : Numeral limit n cs) (digits : List Char) : cs ≠ '-' :: digits := by
  rintro rfl
  rcases h.written with hd | ⟨_, hcs, -⟩
  · exact hd.not_sign.2 rfl
  · exact absurd (List.cons.inj hcs).1 (by decide)

theorem readInt_of_ne_minus (h : ∀ digits, cs ≠ '-' :: digits) :
    readInt limit cs = (readNat limit cs).map Int.ofNat := by
  unfold readInt
  split
  · exact absurd rfl (h _)
  · exact absurd rfl (h _)
  · cases readNat limit cs <;> rfl

theorem readInt_minus_cons (d : Char) (ds : List Char) : readInt limit ('-' :: d :: ds) =
    (readDigits (limit + 1) .tooSmall 0 (d :: ds)).map fun n : Nat => -(n : Int) := by
  cases h : readDigits (limit + 1) .tooSmall 0 (d :: ds) <;> simp [readInt, h] <;> rfl

theorem readInt_eq_ok_iff {i : Int} : readInt limit cs = .ok i ↔ IntNumeral limit i cs := by
  by_cases hminus : ∃ digits, cs = '-' :: digits
  · obtain ⟨digits, rfl⟩ := hminus
    cases digits with
    | nil =>
      refine ⟨nofun, fun h => ?_⟩
      rcases h with ⟨n, hn, -⟩ | ⟨n, digits, hcs, hd, -⟩
      · exact absurd rfl (hn.ne_minus [])
      · exact absurd (List.cons.inj hcs).2.symm hd.ne_nil
    | cons d ds =>
      simp only [readInt_minus_cons, map_eq_ok_iff,
        readDigits_eq_ok_iff_decimal (List.cons_ne_nil d ds)]
      constructor
      · rintro ⟨n, ⟨hd, hle⟩, rfl⟩
        exact Or.inr ⟨n, _, rfl, hd, hle, rfl⟩
      · rintro (⟨n, hn, -⟩ | ⟨n, digits, hcs, hd, hle, rfl⟩)
        · exact absurd rfl (hn.ne_minus (d :: ds))
        · rw [(List.cons.inj hcs).2]
          exact ⟨n, ⟨hd, hle⟩, rfl⟩
  · have hnone := not_exists.mp hminus
    simp only [readInt_of_ne_minus hnone, map_eq_ok_iff, readNat_eq_ok_iff]
    constructor
    · rintro ⟨n, hn, rfl⟩
      exact Or.inl ⟨n, hn, rfl⟩
    · rintro (⟨n, hn, rfl⟩ | ⟨n, digits, hcs, -⟩)
      · exact ⟨n, hn, rfl⟩
      · exact absurd hcs (hnone digits)

theorem decimal_toDigits (n : Nat) : Decimal n (Nat.toDigits 10 n) :=
  ⟨Nat.toDigits_ne_nil, fun _ => Nat.isDigit_of_mem_toDigits (by decide) (by decide),
    Nat.ofDigitChars_ten_toDigits⟩

theorem Numeral.unique {m : Nat} (h : Numeral limit m cs) (h' : Numeral limit n cs) : m = n :=
  Except.ok.inj ((readNat_eq_ok_iff.mpr h).symm.trans (readNat_eq_ok_iff.mpr h'))

end Accelerator
