/-! White space, trimming and cutting of texts, as lists of characters. -/

namespace Accelerator

/-- The characters with the property White_Space. -/
def isBlank (c : Char) : Bool :=
  let n := c.toNat
  (9 ≤ n && n ≤ 13) || n == 0x20 || n == 0x85 || n == 0xa0 || n == 0x1680 ||
    (0x2000 ≤ n && n ≤ 0x200a) || n == 0x2028 || n == 0x2029 || n == 0x202f ||
    n == 0x205f || n == 0x3000

def trimStart (cs : List Char) : List Char :=
  cs.dropWhile isBlank

def trimEnd (cs : List Char) : List Char :=
  (cs.reverse.dropWhile isBlank).reverse

def trim (cs : List Char) : List Char :=
  trimEnd (trimStart cs)

def trimText (s : String) : String :=
  String.ofList (trim s.toList)

/-- The pieces between the occurrences of `sep`: one more than there are of these. -/
def pieces (sep : Char) : List Char → List (List Char)
  | [] => [[]]
  | c :: cs =>
    if c = sep then [] :: pieces sep cs
    else match pieces sep cs with
      | [] => [[c]]
      | p :: ps => (c :: p) :: ps

/-- What stands before and after the first character that `p` accepts. -/
def cutAt? (p : Char → Bool) : List Char → Option (List Char × List Char)
  | [] => none
  | c :: cs => if p c then some ([], cs) else (cutAt? p cs).map fun r => (c :: r.1, r.2)

@[simp] theorem isBlank_newline : isBlank '\n' = true := rfl

theorem cutAt?_eq_none_iff {p : Char → Bool} {cs : List Char} :
    cutAt? p cs = none ↔ ∀ c ∈ cs, p c = false := by
  induction cs with
  | nil => simp [cutAt?]
  | cons c cs ih => by_cases h : p c <;> simp_all [cutAt?]

theorem eq_append_of_cutAt? {p : Char → Bool} {cs a b : List Char}
    (h : cutAt? p cs = some (a, b)) :
    (∀ c ∈ a, p c = false) ∧ ∃ s, p s = true ∧ cs = a ++ s :: b := by
  induction cs generalizing a with
  | nil => simp [cutAt?] at h
  | cons c cs ih =>
    by_cases hc : p c
    · simp only [cutAt?, if_pos hc, Option.some.injEq, Prod.mk.injEq] at h
      obtain ⟨rfl, rfl⟩ := h
      exact ⟨by simp, c, hc, rfl⟩
    · simp only [cutAt?, if_neg hc, Option.map_eq_some_iff, Prod.mk.injEq] at h
      obtain ⟨⟨a', b'⟩, h', rfl, rfl⟩ := h
      obtain ⟨ha, s, hs, rfl⟩ := ih h'
      exact ⟨by simp_all, s, hs, rfl⟩

end Accelerator
