import Accelerator.Proofs.Site.Place

/-! Attempts at the lock of a device. They make files but no directories, so a lock file that
can be opened once can be opened for ever, and whether the lock is free decides the rest. -/

namespace Accelerator

namespace Files

/-- The same places are directories. -/
def SameDirectories (f g : Files) : Prop :=
  ∀ l, f.node? l = some .directory ↔ g.node? l = some .directory

/-- The path leads to a file, or to a place for one. -/
def Accepts (f : Files) (path : String) : Prop :=
  ∃ l g, f.openFile path = .ok (l, g)

namespace SameDirectories

theorem refl (f : Files) : f.SameDirectories f := fun _ => Iff.rfl

theorem symm {f g : Files} (h : f.SameDirectories g) : g.SameDirectories f := fun l => (h l).symm

theorem trans {f g h : Files} (h₁ : f.SameDirectories g) (h₂ : g.SameDirectories h) :
    f.SameDirectories h := fun l => (h₁ l).trans (h₂ l)

theorem walk {f g : Files} (h : f.SameDirectories g) {l l' : Location} {ss : List String}
    (hw : f.walk l ss = .ok l') : g.walk l ss = .ok l' := by
  induction ss generalizing l with
  | nil => exact hw
  | cons s ss ih =>
    rw [Files.walk] at hw ⊢
    rcases hn : f.node? l with _ | _ | content <;> simp only [hn] at hw
    · cases hw
    · simp only [(h l).mp hn]
      repeat' split at hw
      · rw [if_pos ‹_›]
        exact ih hw
      · rw [if_neg ‹_›, if_pos ‹_›]
        exact ih hw
      · rw [if_neg ‹_›, if_neg ‹_›, if_pos ‹_›]
        exact ih hw
      · cases hw
      · rw [if_neg ‹_›, if_neg ‹_›, if_neg ‹_›, if_neg ‹_›]
        exact ih hw
    · cases hw

end SameDirectories

theorem accepts_iff {f : Files} {path : String} :
    f.Accepts path ↔ ∃ l, f.locate path = .ok l ∧ f.node? l ≠ some .directory := by
  unfold Accepts openFile openAt
  rcases f.locate path with e | l
  · simp [bind, Except.bind]
  · rcases hn : f.node? l with _ | _ | content <;>
      simp [bind, Except.bind, pure, Except.pure, hn]

theorem SameDirectories.accepts {f g : Files} (h : f.SameDirectories g) {path : String}
    (ha : f.Accepts path) : g.Accepts path := by
  obtain ⟨l, hl, hn⟩ := accepts_iff.mp ha
  refine accepts_iff.mpr ⟨l, ?_, fun hg => hn ((h l).mpr hg)⟩
  unfold locate at hl ⊢
  split at hl
  · cases hl
  · split at hl
    · cases hl
    · rw [if_neg ‹_›, if_neg ‹_›]
      exact h.walk hl

theorem sameDirectories_of_openAt {f g : Files} {l : Location} (h : f.openAt l = .ok g) :
    f.SameDirectories g := by
  unfold openAt at h
  rcases hn : f.node? l with _ | _ | content <;> simp only [hn] at h
  · cases h
    have hne : l ≠ [] := fun he => by simp [node?, he] at hn
    intro l'
    by_cases hl : l = l'
    · subst hl
      rw [hn]
      simp [node?, hne, Table.get?_put]
    · simp [node?, Table.get?_put, hl]
  · cases h
  · cases h
    exact SameDirectories.refl f

theorem sameDirectories_of_openFile {f g : Files} {l : Location} {path : String}
    (h : f.openFile path = .ok (l, g)) : f.SameDirectories g := by
  unfold openFile at h
  rcases hl : f.locate path with e | l' <;> simp only [hl, bind, Except.bind] at h
  · cases h
  · rcases ho : f.openAt l' with e | g' <;> simp only [ho] at h
    · cases h
    · cases h
      exact sameDirectories_of_openAt ho

end Files

namespace DeviceLock

/-- The lock that a device has in a directory. -/
def forDevice (directory : String) (device : Nat) : DeviceLock where
  name := nameFor device
  path := Path.join directory (fileNameFor device)
  file := place directory device

/-- What an attempt at the lock of a device comes to: an error where its file cannot be opened,
the lock where the file is free, and nothing where somebody holds it. -/
structure Attempt (directory : String) (device : Nat) (s t : Site)
    (result : Except (Stop DeviceError) (Option DeviceLock)) : Prop where
  host : t.host = s.host
  files : s.files.SameDirectories t.files
  opens : s.files.Accepts (forDevice directory device).path ↔ ∀ stop, result ≠ .error stop
  taken : ∀ lock, result = .ok (some lock) → lock = forDevice directory device ∧
    place directory device ∉ s.held ∧ t.held = place directory device :: s.held
  awaited : result = .ok none → place directory device ∈ s.held ∧ t.held = s.held
  refused : ∀ stop, result = .error stop → t.held = s.held

variable {directory : String} {device : Nat} {s : Site}

theorem attempt_of_refused {e : FileError}
    (h : s.files.openFile (forDevice directory device).path = .error e) (stop : Stop DeviceError) :
    Attempt directory device s s (.error stop) where
  host := rfl
  files := Files.SameDirectories.refl _
  opens := by
    refine ⟨fun ⟨l, g, ho⟩ => ?_, fun hn => absurd rfl (hn stop)⟩
    cases h.symm.trans ho
  taken := fun _ => nofun
  awaited := nofun
  refused := fun _ _ => rfl

variable {file : Location} {files : Files}

theorem attempt_of_held
    (h : s.files.openFile (forDevice directory device).path = .ok (file, files))
    (hm : file ∈ s.held) (t : Site) (hhost : t.host = s.host) (hfiles : t.files = files)
    (hheld : t.held = s.held) : Attempt directory device s t (.ok none) where
  host := hhost
  files := hfiles ▸ Files.sameDirectories_of_openFile h
  opens := ⟨fun _ _ => nofun, fun _ => ⟨file, files, h⟩⟩
  taken := fun _ => nofun
  awaited := fun _ => by
    obtain rfl : file = place directory device := Files.place_of_openFile h
    exact ⟨hm, hheld⟩
  refused := fun _ => nofun

theorem attempt_of_free
    (h : s.files.openFile (forDevice directory device).path = .ok (file, files))
    (hm : file ∉ s.held) (t : Site) (hhost : t.host = s.host) (hfiles : t.files = files)
    (hheld : t.held = file :: s.held) :
    Attempt directory device s t
      (.ok (some ⟨nameFor device, (forDevice directory device).path, file⟩)) := by
  obtain rfl : file = place directory device := Files.place_of_openFile h
  refine ⟨hhost, hfiles ▸ Files.sameDirectories_of_openFile h,
    ⟨fun _ _ => nofun, fun _ => ⟨_, files, h⟩⟩, fun lock he => ?_, nofun, fun _ => nofun⟩
  cases he
  exact ⟨rfl, hm, hheld⟩

/-- An attempt comes to this whatever is reported once it is known whether the lock was had. -/
theorem attempts_of_reports {had waits : DeviceLock → Action DeviceError (Option DeviceLock)}
    (hhad : ∀ lock s, ∃ t, (had lock).run s = (.ok (some lock), t) ∧ s.Alike t)
    (hwaits : ∀ lock s, ∃ t, (waits lock).run s = (.ok none, t) ∧ s.Alike t)
    (directory : String) (device : Nat) (s : Site) :
    ∃ r t, (do
      let lock ← prepare directory device
      if ← lock.hold then had lock else waits lock).run s = (r, t) ∧
        Attempt directory device s t r := by
  rw [Action.run_bind, run_prepare]
  rcases hf : s.files.openFile (Path.join directory (fileNameFor device)) with e | ⟨file, files⟩
  · exact ⟨_, s, rfl, attempt_of_refused hf _⟩
  · simp only [Action.run_bind, run_hold]
    by_cases hh : s.held.contains file = true
    · obtain ⟨t, ht, halike⟩ := hwaits
        ⟨nameFor device, Path.join directory (fileNameFor device), file⟩ { s with files }
      have hm := List.contains_iff_mem.mp hh
      simp only [hh, if_true, Bool.false_eq_true, if_false]
      exact ⟨_, t, ht, attempt_of_held hf hm t halike.host halike.files halike.held⟩
    · obtain ⟨t, ht, halike⟩ := hhad
        ⟨nameFor device, Path.join directory (fileNameFor device), file⟩
        { s with files, held := file :: s.held }
      have hn : file ∉ s.held := fun hm => hh (List.contains_iff_mem.mpr hm)
      simp only [hh]
      exact ⟨_, t, ht, attempt_of_free hf hn t halike.host halike.files halike.held⟩

theorem acquire_attempts (directory : String) (device : Nat) (again : Bool) (s : Site) :
    ∃ r t, (acquire directory device again).run s = (r, t) ∧ Attempt directory device s t r := by
  refine attempts_of_reports (fun lock s => ⟨_, rfl, Site.Alike.emit s _⟩) (fun lock s => ?_)
    directory device s
  cases again with
  | true => exact ⟨s, rfl, Site.Alike.refl s⟩
  | false => exact ⟨_, rfl, Site.Alike.emit s _⟩

theorem tryAcquire_attempts (directory : String) (device : Nat) (s : Site) :
    ∃ r t, (tryAcquire directory device).run s = (r, t) ∧ Attempt directory device s t r :=
  attempts_of_reports (fun _ s => ⟨s, rfl, Site.Alike.refl s⟩)
    (fun _ s => ⟨s, rfl, Site.Alike.refl s⟩) directory device s

end DeviceLock

end Accelerator
