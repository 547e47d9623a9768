import Accelerator.Proofs.Site.Lock
import Accelerator.Proofs.Text.Pieces

/-! The lock files of a directory stand side by side in it, and each device has its own. -/

namespace Accelerator

namespace Path

theorem named_append (ps qs : List (List Char)) : named (ps ++ qs) = named ps ++ named qs := by
  simp [named]

theorem parts_of_relative {path : String} {p : List Char} {ps : List (List Char)}
    (hr : path.toList.head? ≠ some '/') (h : pieces '/' path.toList = p :: ps) :
    parts path = if p = ['.'] then "." :: named ps else named (p :: ps) := by
  unfold parts
  split
  · next cs hcs =>
    rw [hcs] at hr
    exact absurd rfl hr
  · rw [h]
    split
    · next heq =>
      obtain ⟨rfl, rfl⟩ := List.cons.inj heq
      exact (if_pos rfl).symm
    · next hne =>
      have hp : p ≠ ['.'] := fun he => hne ps (by rw [he])
      exact (if_neg hp).symm

/-- What follows a separator is one more step, if it has a name at all. -/
theorem parts_append {path : String} {cs ds : List Char} (hp : path.toList = cs ++ '/' :: ds)
    (hc : cs ≠ []) (hd : '/' ∉ ds) : parts path = parts (String.ofList cs) ++ named [ds] := by
  have hpieces (cs : List Char) : pieces '/' (cs ++ '/' :: ds) = pieces '/' cs ++ [ds] := by
    rw [pieces_append, pieces_of_notMem hd]
  obtain ⟨c, cs, rfl⟩ := List.exists_cons_of_ne_nil hc
  by_cases hs : c = '/'
  · subst hs
    simp only [parts, hp, List.cons_append, String.toList_ofList, hpieces, named_append]
  · obtain ⟨p, ps, h⟩ := pieces_eq_cons '/' (c :: cs)
    have hall : pieces '/' path.toList = p :: (ps ++ [ds]) := by
      rw [hp, hpieces, h, List.cons_append]
    have hfirst : pieces '/' (String.ofList (c :: cs)).toList = p :: ps := by
      rw [String.toList_ofList, h]
    rw [parts_of_relative (by simp [hp, hs]) hall, parts_of_relative (by simp [hs]) hfirst]
    split
    · rw [named_append, List.cons_append]
    · rw [← List.cons_append, named_append]

theorem parts_join {directory name : String} (hne : name ≠ "") (hdot : name ≠ ".")
    (hs : '/' ∉ name.toList) : parts (join directory name) = parts directory ++ [name] := by
  have hnil : name.toList ≠ [] := fun h => hne (String.toList_inj.mp h)
  have hdots : name.toList ≠ ['.'] := fun h => hdot (String.toList_inj.mp h)
  have hname : named [name.toList] = [name] := by simp [named, hnil, hdots]
  have hhead : name.toList.head? ≠ some '/' := fun h => hs (List.mem_of_head? h)
  unfold join
  rw [if_neg hhead]
  by_cases hempty : directory = ""
  · subst hempty
    have hempty : parts "" = [] := by decide
    rw [if_pos rfl, parts_of_relative hhead (pieces_of_notMem hs), if_neg hdots, hname, hempty]
    rfl
  · rw [if_neg hempty]
    by_cases hlast : directory.toList.getLast? = some '/'
    · rw [if_pos hlast]
      obtain ⟨cs, hcs⟩ := List.getLast?_eq_some_iff.mp hlast
      by_cases hroot : cs = []
      · subst hroot
        obtain rfl : directory = "/" := String.toList_inj.mp hcs
        have hroot : ("/" ++ name).toList = '/' :: name.toList := by simp
        simp only [parts, hroot, pieces_of_notMem hs, hname]
        rfl
      · have hall : (directory ++ name).toList = cs ++ '/' :: name.toList := by
          simp [hcs]
        have hdir : parts directory = parts (String.ofList cs) ++ named [[]] :=
          parts_append hcs hroot (by simp)
        rw [parts_append hall hroot hs, hname, hdir]
        simp [named]
    · rw [if_neg hlast]
      have hall : (directory ++ "/" ++ name).toList = directory.toList ++ '/' :: name.toList := by
        simp
      rw [parts_append hall (fun h => hempty (String.toList_inj.mp h)) hs, hname,
        String.ofList_toList]

end Path

theorem Files.place_append {s : String} (h1 : s ≠ "/") (h2 : s ≠ ".") (h3 : s ≠ "..")
    (l : Location) (ss : List String) : place l (ss ++ [s]) = place l ss ++ [s] := by
  induction ss generalizing l with
  | nil => simp [place, h1, h2, h3]
  | cons t ss ih =>
    simp only [List.cons_append, place]
    split
    · exact ih []
    · split
      · exact ih l
      · split
        · exact ih l.dropLast
        · exact ih (l ++ [t])

namespace DeviceLock

/-- Where a directory is, whatever it is called. -/
def directoryPlace (directory : String) : Location :=
  Files.place [] (Path.parts directory)

theorem toList_fileNameFor (device : Nat) :
    (fileNameFor device).toList =
      'D' :: 'P' :: 'U' :: '_' :: (device.repr.toList ++ ['.', 'l', 'o', 'c', 'k']) := by
  have h : fileNameFor device = "DPU_" ++ device.repr ++ ".lock" := rfl
  simp only [h, String.toList_append, List.append_assoc]
  rfl

theorem separator_notMem_fileNameFor (device : Nat) : '/' ∉ (fileNameFor device).toList := by
  have hdigits : '/' ∉ device.repr.toList := by
    intro h
    rw [Nat.toList_repr] at h
    have hd := Nat.isDigit_of_mem_toDigits (by decide) (by decide) h
    exact absurd hd (by decide)
  rw [toList_fileNameFor]
  simp only [List.mem_cons, List.mem_append, hdigits]
  decide

theorem fileNameFor_ne (device : Nat) {s : String} (hs : s.toList.head? ≠ some 'D') :
    fileNameFor device ≠ s := by
  rintro rfl
  rw [toList_fileNameFor] at hs
  exact hs rfl

theorem fileNameFor_inj {device device' : Nat} (h : fileNameFor device = fileNameFor device') :
    device = device' := by
  have hl := congrArg String.toList h
  rw [toList_fileNameFor, toList_fileNameFor] at hl
  simp only [List.cons.injEq, true_and, List.append_cancel_right_eq, Nat.toList_repr] at hl
  have hd := congrArg (Nat.ofDigitChars 10 · 0) hl
  simpa only [Nat.ofDigitChars_ten_toDigits] using hd

theorem place_eq (directory : String) (device : Nat) :
    place directory device = directoryPlace directory ++ [fileNameFor device] := by
  rw [place, Path.parts_join (fileNameFor_ne device (by decide)) (fileNameFor_ne device (by decide))
    (separator_notMem_fileNameFor device)]
  exact Files.place_append (fileNameFor_ne device (by decide)) (fileNameFor_ne device (by decide))
    (fileNameFor_ne device (by decide)) _ _

/-- No two devices share a lock file, and neither do two directories. -/
theorem place_eq_iff {directory directory' : String} {device device' : Nat} :
    place directory device = place directory' device' ↔
      directoryPlace directory = directoryPlace directory' ∧ device = device' := by
  rw [place_eq, place_eq]
  constructor
  · intro h
    obtain ⟨hd, hn⟩ := List.append_inj' h rfl
    exact ⟨hd, fileNameFor_inj (List.cons.inj hn).1⟩
  · rintro ⟨hd, rfl⟩
    rw [hd]

end DeviceLock

end Accelerator
