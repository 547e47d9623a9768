import Accelerator.Proofs.Site.Action
import Accelerator.Site.Lock

/-! Which file the lock of a device is, and that it is taken only where nobody holds it. -/

namespace Accelerator

namespace Files

/-- Where a path leads, provided that it leads anywhere. What files there are plays no part. -/
def place : Location → List String → Location
  | l, [] => l
  | l, s :: ss =>
    if s = "/" then place [] ss
    else if s = "." then place l ss
    else if s = ".." then place l.dropLast ss
    else place (l ++ [s]) ss

theorem place_of_walk {f : Files} {l l' : Location} {ss : List String}
    (h : f.walk l ss = .ok l') : l' = place l ss := by
  induction ss generalizing l with
  | nil =>
    cases h
    rfl
  | cons s ss ih =>
    simp only [walk] at h
    rcases hn : f.node? l with _ | _ | content <;> simp only [hn] at h
    · cases h
    · rw [place]
      by_cases h1 : s = "/"
      · rw [if_pos h1] at h ⊢
        exact ih h
      · rw [if_neg h1] at h ⊢
        by_cases h2 : s = "."
        · rw [if_pos h2] at h ⊢
          exact ih h
        · rw [if_neg h2] at h ⊢
          by_cases h3 : s = ".."
          · rw [if_pos h3] at h ⊢
            exact ih h
          · rw [if_neg h3] at h ⊢
            split at h
            · cases h
            · exact ih h
    · cases h

theorem place_of_openFile {f f' : Files} {l : Location} {path : String}
    (h : f.openFile path = .ok (l, f')) : l = place [] (Path.parts path) := by
  simp only [openFile, locate] at h
  split at h
  · cases h
  · split at h
    · cases h
    · rcases hw : f.walk [] (Path.parts path) with e | l' <;> rw [hw] at h
      · cases h
      · rcases ho : f.openAt l' with e | f'' <;> simp only [bind, Except.bind, ho] at h
        · cases h
        · cases h
          exact place_of_walk hw

end Files

namespace DeviceLock

/-- The file that is locked for a device. -/
def place (directory : String) (device : Nat) : Location :=
  Files.place [] (Path.parts (Path.join directory (fileNameFor device)))

theorem run_prepare (directory : String) (device : Nat) (s : Site) :
    (prepare directory device).run s =
      match s.files.openFile (Path.join directory (fileNameFor device)) with
      | .error e => (.error (.error (.lock (nameFor device) e)), s)
      | .ok (file, files) =>
        (.ok ⟨nameFor device, Path.join directory (fileNameFor device), file⟩,
          { s with files }) := by
  rcases hf : s.files.openFile (Path.join directory (fileNameFor device)) with e | ⟨file, files⟩ <;>
    simp only [prepare, Action.run_bind, Action.run_get, hf] <;> rfl

theorem run_hold (lock : DeviceLock) (s : Site) :
    lock.hold.run s =
      if s.held.contains lock.file then (.ok false, s)
      else (.ok true, { s with held := lock.file :: s.held }) := by
  simp only [hold, Action.run_bind, Action.run_get]
  split <;> rfl

end DeviceLock

end Accelerator
