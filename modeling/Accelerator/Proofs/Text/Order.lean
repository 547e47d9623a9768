import Mathlib.Data.List.Infix

/-! Texts in order. Their characters put them in the order that their bytes do, and in it those
that begin alike stand side by side. -/

namespace Accelerator

/-- What is stored of a text. -/
def utf8 (s : String) : List UInt8 :=
  s.toByteArray.data.toList

theorem utf8_eq_flatMap (s : String) : utf8 s = s.toList.flatMap String.utf8EncodeChar := by
  rw [utf8, ← String.utf8Encode_toList, List.utf8Encode, List.toList_data_toByteArray]

theorem utf8EncodeChar_append_lt {c d : Char} (h : c < d) (bs bs' : List UInt8) :
    String.utf8EncodeChar c ++ bs < String.utf8EncodeChar d ++ bs' := by
  have hlt : c.val.toNat < d.val.toNat := h
  have hd : d.val.toNat < 0x110000 := by
    rcases d.valid with hd | ⟨-, hd⟩ <;> omega
  simp only [String.utf8EncodeChar]
  -- the two may take up different numbers of bytes, which shows in the first
  split_ifs <;>
    simp only [List.cons_append, List.nil_append, List.cons_lt_cons_iff, UInt8.lt_iff_toNat_lt,
      ← UInt8.toNat_inj, UInt8.toNat_ofNat'] <;>
    simp (disch := omega) only [Nat.mod_eq_of_lt] <;>
    omega

theorem flatMap_utf8EncodeChar_lt {cs ds : List Char} (h : cs < ds) :
    cs.flatMap String.utf8EncodeChar < ds.flatMap String.utf8EncodeChar := by
  induction cs generalizing ds with
  | nil =>
    rcases ds with _ | ⟨d, ds⟩
    · exact absurd h (List.not_lt_nil _)
    · rw [List.flatMap_nil, List.flatMap_cons]
      rcases hd : String.utf8EncodeChar d with _ | ⟨b, bs⟩
      · exact absurd hd String.utf8EncodeChar_ne_nil
      · exact List.nil_lt_cons _ _
  | cons c cs ih =>
    rcases ds with _ | ⟨d, ds⟩
    · exact absurd h (List.not_lt_nil _)
    · rw [List.flatMap_cons, List.flatMap_cons]
      rcases List.cons_lt_cons_iff.mp h with hc | ⟨rfl, hs⟩
      · exact utf8EncodeChar_append_lt hc _ _
      · exact List.append_left_lt (ih hs)

theorem utf8_lt {s t : String} (h : s < t) : utf8 s < utf8 t := by
  rw [utf8_eq_flatMap, utf8_eq_flatMap]
  exact flatMap_utf8EncodeChar_lt (String.lt_iff.mp h)

theorem prefix_of_between {p cs ds es : List Char} (hc : p <+: cs) (he : p <+: es) (hcd : cs < ds)
    (hde : ds < es) : p <+: ds := by
  induction p generalizing cs ds es with
  | nil => exact List.nil_prefix
  | cons x p ih =>
    obtain ⟨cs, rfl, hcs⟩ := List.cons_prefix_iff.mp hc
    obtain ⟨es, rfl, hes⟩ := List.cons_prefix_iff.mp he
    rcases ds with _ | ⟨y, ds⟩
    · exact absurd hcd (List.not_lt_nil _)
    · rcases List.cons_lt_cons_iff.mp hcd with hxy | ⟨rfl, hlt⟩
      · rcases List.cons_lt_cons_iff.mp hde with hyx | ⟨rfl, -⟩
        · exact absurd hyx (Nat.lt_asymm hxy)
        · exact absurd hxy (Nat.lt_irrefl _)
      · rcases List.cons_lt_cons_iff.mp hde with hxx | ⟨-, hlt'⟩
        · exact absurd hxx (Nat.lt_irrefl _)
        · exact List.cons_prefix_cons.mpr ⟨rfl, ih hcs hes hlt hlt'⟩

/-- In a sorted list, what lies between two elements that are chosen is chosen too. -/
theorem filter_block {α : Type} {before : α → α → Prop} (chosen : α → Bool) {l : List α}
    (hl : l.Pairwise before)
    (hc : ∀ a b c, before a b → before b c → chosen a → chosen c → chosen b) :
    ∃ front back, l = front ++ l.filter chosen ++ back ∧ ∀ a ∈ front ++ back, ¬ chosen a := by
  induction l with
  | nil => exact ⟨[], [], rfl, fun _ hm => by cases hm⟩
  | cons a l ih =>
    obtain ⟨ha, hl⟩ := List.pairwise_cons.mp hl
    obtain ⟨front, back, hparts, hout⟩ := ih hl
    by_cases hchosen : chosen a = true
    · rw [List.filter_cons_of_pos hchosen]
      rcases hfilter : l.filter chosen with _ | ⟨c, cs⟩
      · exact ⟨[], l, rfl, List.filter_eq_nil_iff.mp hfilter⟩
      · rw [hfilter] at hparts
        rcases front with _ | ⟨b, front⟩
        · exact ⟨[], back, congrArg (a :: ·) hparts, hout⟩
        · -- `b` would stand between `a` and `c`
          rw [hparts] at ha hl
          have hab : before a b := ha b (by simp)
          have hbc : before b c := (List.pairwise_cons.mp hl).1 c (by simp)
          have hlast : chosen c = true :=
            (List.mem_filter.mp (hfilter ▸ List.mem_cons_self : c ∈ l.filter chosen)).2
          exact absurd (hc a b c hab hbc hchosen hlast) (hout b (by simp))
    · rw [List.filter_cons_of_neg hchosen]
      refine ⟨a :: front, back, congrArg (a :: ·) hparts, fun b hm => ?_⟩
      rcases List.mem_cons.mp hm with rfl | hm
      · exact hchosen
      · exact hout b hm

end Accelerator
