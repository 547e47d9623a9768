import Accelerator.Proofs.Table
import Accelerator.Proofs.Text.Pieces
import Accelerator.Proofs.Text.Trim
import Accelerator.Settings.Entries
import Mathlib.Logic.Relation

/-! What settings files with the same entries may differ in. A line is read up to its comment, and
white space in it counts only within the key and the value, so entries can be written out and read
again, and texts can be joined, spaced out and commented. -/

namespace Accelerator

theorem cutAt?_append_cons {p : Char → Bool} {a b : List Char} {c : Char}
    (ha : ∀ x ∈ a, p x = false) (hc : p c = true) : cutAt? p (a ++ c :: b) = some (a, b) := by
  induction a with
  | nil => rw [List.nil_append, cutAt?, if_pos hc]
  | cons x a ih =>
    have hx : ¬ p x = true := by simp [ha x List.mem_cons_self]
    rw [List.cons_append, cutAt?, if_neg hx, ih fun y hm => ha y (List.mem_cons_of_mem _ hm)]
    rfl

namespace Entries

variable {cs w w' key value line note : List Char} {sep : Char}

/-- The entry of a line that has no comment. -/
def entryOf? (cs : List Char) : Option (String × String) :=
  (cutAt? isSeparator cs).map fun kv => (String.ofList (trim kv.1), String.ofList (trim kv.2))

def beforeComment (line : List Char) : List Char :=
  line.takeWhile (· ≠ '#')

theorem isSeparator_of_isBlank {c : Char} (h : isBlank c = true) : isSeparator c = false := by
  refine Bool.eq_false_iff.mpr fun hsep => ?_
  rw [isSeparator, Bool.or_eq_true, decide_eq_true_eq, decide_eq_true_eq] at hsep
  rcases hsep with rfl | rfl <;> exact absurd h (by decide)

theorem hash_notMem (h : AllBlank w) : '#' ∉ w :=
  fun hm => absurd (h '#' hm) (by decide)

theorem entryOf?_append_cons (hkey : ∀ c ∈ key, isSeparator c = false)
    (hsep : isSeparator sep = true) (value : List Char) :
    entryOf? (key ++ sep :: value) =
      some (String.ofList (trim key), String.ofList (trim value)) := by
  rw [entryOf?, cutAt?_append_cons hkey hsep, Option.map_some]

theorem entryOf?_append (hw : AllBlank w) (hw' : AllBlank w') (cs : List Char) :
    entryOf? (w ++ cs ++ w') = entryOf? cs := by
  have hnone {v : List Char} (hv : AllBlank v) : ∀ c ∈ v, isSeparator c = false :=
    fun c hm => isSeparator_of_isBlank (hv c hm)
  cases hcut : cutAt? isSeparator cs with
  | none =>
    have hcs := cutAt?_eq_none_iff.mp hcut
    have hall : ∀ c ∈ w ++ cs ++ w', isSeparator c = false :=
      List.forall_mem_append.mpr ⟨List.forall_mem_append.mpr ⟨hnone hw, hcs⟩, hnone hw'⟩
    rw [entryOf?, entryOf?, hcut, cutAt?_eq_none_iff.mpr hall]
  | some kv =>
    obtain ⟨hkey, sep, hsep, hcs⟩ := eq_append_of_cutAt? hcut
    have hwkey : ∀ c ∈ w ++ kv.1, isSeparator c = false :=
      List.forall_mem_append.mpr ⟨hnone hw, hkey⟩
    have hparts : w ++ cs ++ w' = (w ++ kv.1) ++ sep :: (kv.2 ++ w') := by
      rw [hcs]
      simp only [List.append_assoc, List.cons_append]
    rw [hparts, entryOf?_append_cons hwkey hsep, hcs, entryOf?_append_cons hkey hsep,
      trim_blank_append hw, trim_append_blank hw']

/-- The white space around a line falls away with that around its key and its value. -/
theorem ofLine?_eq (line : List Char) : ofLine? line = entryOf? (beforeComment line) := by
  obtain ⟨w, w', hw, hw', hline⟩ := exists_trim (beforeComment line)
  change entryOf? (trim (beforeComment line)) = _
  rw [hline, entryOf?_append hw hw', trim_append hw hw', trim_trim]

theorem beforeComment_of_notMem (h : '#' ∉ line) : beforeComment line = line :=
  List.takeWhile_eq_self_iff.mpr fun _ hm => decide_eq_true fun hc => h (hc ▸ hm)

theorem beforeComment_append (h : '#' ∉ line) (cs : List Char) :
    beforeComment (line ++ cs) = line ++ beforeComment cs :=
  List.takeWhile_append_of_pos fun _ hm => decide_eq_true fun hc => h (hc ▸ hm)

theorem beforeComment_append_hash (h : '#' ∉ line) (note : List Char) :
    beforeComment (line ++ '#' :: note) = line := by
  rw [beforeComment_append h, beforeComment, List.takeWhile_cons_of_neg (by decide),
    List.append_nil]

/-- Behind the beginning of a comment nothing counts. -/
theorem beforeComment_append_of_mem (h : '#' ∈ line) (cs : List Char) :
    beforeComment (line ++ cs) = beforeComment line := by
  obtain ⟨front, back, rfl, hfront⟩ := List.eq_append_cons_of_mem h
  rw [List.append_assoc, List.cons_append, beforeComment_append_hash hfront,
    beforeComment_append_hash hfront]

theorem beforeComment_comment (line note : List Char) :
    beforeComment (line ++ '#' :: note) = beforeComment line := by
  by_cases h : '#' ∈ line
  · exact beforeComment_append_of_mem h _
  · rw [beforeComment_append_hash h, beforeComment_of_notMem h]

/-- What may be done to a line: white space is added around it or around its key and the first
separator, and a comment is appended. -/
inductive LineEdit : List Char → List Char → Prop
  | around (line : List Char) {w w' : List Char} (hw : AllBlank w) (hw' : AllBlank w') :
      LineEdit line (w ++ line ++ w')
  | between {key : List Char} {sep : Char} (value : List Char) {w w' : List Char}
      (hkey : ∀ c ∈ key, isSeparator c = false) (hsep : isSeparator sep = true)
      (hw : AllBlank w) (hw' : AllBlank w') :
      LineEdit (key ++ sep :: value) (key ++ w ++ sep :: (w' ++ value))
  | comment (line note : List Char) : LineEdit line (line ++ '#' :: note)

/-- What may be done to the lines of a text: besides, lines are added that are blank or nothing but
a comment. -/
inductive Edit : List (List Char) → List (List Char) → Prop
  | line (before after : List (List Char)) {l l' : List Char} (h : LineEdit l l') :
      Edit (before ++ l :: after) (before ++ l' :: after)
  | blank (before after : List (List Char)) {l : List Char} (h : AllBlank l) :
      Edit (before ++ after) (before ++ l :: after)
  | comment (before after : List (List Char)) (note : List Char) :
      Edit (before ++ after) (before ++ ('#' :: note) :: after)

theorem ofLine?_around (hw : AllBlank w) (hw' : AllBlank w') (line : List Char) :
    ofLine? (w ++ line ++ w') = ofLine? line := by
  rw [ofLine?_eq, ofLine?_eq, List.append_assoc, beforeComment_append (hash_notMem hw)]
  by_cases hline : '#' ∈ line
  · rw [beforeComment_append_of_mem hline]
    simpa using entryOf?_append hw allBlank_nil (beforeComment line)
  · rw [beforeComment_append hline, beforeComment_of_notMem (hash_notMem hw'),
      beforeComment_of_notMem hline, ← List.append_assoc, entryOf?_append hw hw']

theorem ofLine?_between (hkey : ∀ c ∈ key, isSeparator c = false) (hsep : isSeparator sep = true)
    (hw : AllBlank w) (hw' : AllBlank w') (value : List Char) :
    ofLine? (key ++ w ++ sep :: (w' ++ value)) = ofLine? (key ++ sep :: value) := by
  have hwkey : ∀ c ∈ key ++ w, isSeparator c = false :=
    List.forall_mem_append.mpr ⟨hkey, fun c hm => isSeparator_of_isBlank (hw c hm)⟩
  have hhash : ¬ sep = '#' := by
    rintro rfl
    exact absurd hsep (by decide)
  have hcons (cs : List Char) : beforeComment (sep :: cs) = sep :: beforeComment cs :=
    List.takeWhile_cons_of_pos (decide_eq_true hhash)
  rw [ofLine?_eq, ofLine?_eq, List.append_assoc]
  by_cases hkeyhash : '#' ∈ key
  · rw [beforeComment_append_of_mem hkeyhash, beforeComment_append_of_mem hkeyhash]
  · rw [beforeComment_append hkeyhash, beforeComment_append (hash_notMem hw), hcons,
      beforeComment_append (hash_notMem hw'), beforeComment_append hkeyhash, hcons,
      ← List.append_assoc, entryOf?_append_cons hwkey hsep, entryOf?_append_cons hkey hsep,
      trim_append_blank hw, trim_blank_append hw']

theorem LineEdit.ofLine?_eq {l l' : List Char} (h : LineEdit l l') : ofLine? l' = ofLine? l := by
  cases h with
  | around line hw hw' => exact ofLine?_around hw hw' l
  | between value hkey hsep hw hw' => exact ofLine?_between hkey hsep hw hw' value
  | comment line note => rw [Entries.ofLine?_eq, Entries.ofLine?_eq, beforeComment_comment]

theorem ofLine?_of_allBlank (h : AllBlank line) : ofLine? line = none := by
  have hnil : ofLine? [] = none := rfl
  simpa [hnil] using ofLine?_around h allBlank_nil []

theorem ofLine?_comment (note : List Char) : ofLine? ('#' :: note) = none := by
  rw [ofLine?_eq, ← List.nil_append ('#' :: note), beforeComment_comment]
  rfl

theorem Edit.filterMap_eq {lines lines' : List (List Char)} (h : Edit lines lines') :
    lines'.filterMap ofLine? = lines.filterMap ofLine? := by
  cases h with
  | line before after h => simp only [List.filterMap_append, List.filterMap_cons, h.ofLine?_eq]
  | blank before after h =>
    simp only [List.filterMap_append, List.filterMap_cons, ofLine?_of_allBlank h]
  | comment before after note =>
    simp only [List.filterMap_append, List.filterMap_cons, ofLine?_comment]

theorem filterMap_eq_of_eqvGen {lines lines' : List (List Char)}
    (h : Relation.EqvGen Edit lines lines') :
    lines.filterMap ofLine? = lines'.filterMap ofLine? := by
  induction h with
  | rel _ _ h => exact h.filterMap_eq.symm
  | refl _ => rfl
  | symm _ _ _ ih => exact ih.symm
  | trans _ _ _ _ _ ih ih' => exact ih.trans ih'

theorem ofText_intercalate {lines : List (List Char)} (h : ∀ line ∈ lines, '\n' ∉ line) :
    ofText (['\n'].intercalate lines) = Table.ofPairs (lines.filterMap ofLine?) := by
  by_cases hne : lines = []
  · subst hne
    rfl
  · rw [ofText, pieces_intercalate hne h]

/-- A carriage return at the end of a line is white space. -/
theorem filterMap_pieces_crlf {lines : List (List Char)} (h : ∀ line ∈ lines, '\n' ∉ line) :
    (pieces '\n' (['\r', '\n'].intercalate lines)).filterMap ofLine? =
      lines.filterMap ofLine? := by
  induction lines with
  | nil => rfl
  | cons line lines ih =>
    obtain ⟨hline, hlines⟩ := List.forall_mem_cons.mp h
    by_cases hne : lines = []
    · rw [hne, List.intercalate_singleton, pieces_of_notMem hline]
    · have hreturn : AllBlank ['\r'] := by decide
      have hend : '\n' ∉ line ++ ['\r'] := by simp [hline]
      have hread : ofLine? (line ++ ['\r']) = ofLine? line :=
        ofLine?_around allBlank_nil hreturn line
      have htext : ['\r', '\n'].intercalate (line :: lines) =
          (line ++ ['\r']) ++ '\n' :: ['\r', '\n'].intercalate lines := by
        simp [List.intercalate_cons_of_ne_nil hne]
      have hone : [line ++ ['\r']].filterMap ofLine? = [line].filterMap ofLine? := by
        simp only [List.filterMap_cons, List.filterMap_nil, hread]
      rw [htext, pieces_append, pieces_of_notMem hend, List.filterMap_append, ih hlines, hone,
        ← List.filterMap_append, List.singleton_append]

theorem ofText_append (t₁ t₂ : List Char) :
    ofText (t₁ ++ '\n' :: t₂) =
      Table.ofPairs ((pieces '\n' t₁).filterMap ofLine? ++ (pieces '\n' t₂).filterMap ofLine?) := by
  rw [ofText, pieces_append, List.filterMap_append]

/-- An entry with nothing in it that ends a key, a value or a line. -/
structure Plain (e : String × String) : Prop where
  key : ∀ c ∈ e.1.toList, isSeparator c = false ∧ c ≠ '#' ∧ c ≠ '\n'
  value : ∀ c ∈ e.2.toList, c ≠ '#' ∧ c ≠ '\n'
  trim_key : trim e.1.toList = e.1.toList
  trim_value : trim e.2.toList = e.2.toList

theorem plain_of_ofLine? {e : String × String} (hline : '\n' ∉ line)
    (h : ofLine? line = some e) : Plain e := by
  rw [ofLine?_eq, entryOf?, Option.map_eq_some_iff] at h
  obtain ⟨⟨key, value⟩, hcut, rfl⟩ := h
  obtain ⟨hkey, sep, -, hparts⟩ := eq_append_of_cutAt? hcut
  have hplain : ∀ c ∈ key ++ sep :: value, c ≠ '#' ∧ c ≠ '\n' := by
    intro c hm
    rw [← hparts] at hm
    have hhash : c ≠ '#' := of_decide_eq_true (List.mem_takeWhile_imp (p := (· ≠ '#')) hm)
    refine ⟨hhash, ?_⟩
    rintro rfl
    exact hline ((List.takeWhile_sublist _).subset hm)
  refine ⟨fun c hm => ?_, fun c hm => ?_, ?_, ?_⟩
  · have hc := mem_of_mem_trim (String.toList_ofList ▸ hm)
    exact ⟨hkey c hc, hplain c (List.mem_append_left _ hc)⟩
  · have hc := mem_of_mem_trim (String.toList_ofList ▸ hm)
    exact hplain c (List.mem_append_right _ (List.mem_cons_of_mem _ hc))
  · rw [String.toList_ofList, trim_trim]
  · rw [String.toList_ofList, trim_trim]

theorem plain_of_mem_ofText {t : List Char} {e : String × String} (h : e ∈ ofText t) :
    Plain e := by
  obtain ⟨line, hline, hread⟩ := List.mem_filterMap.mp (Table.mem_of_mem_ofPairs h)
  exact plain_of_ofLine? (notMem_of_mem_pieces hline) hread

/-- The line `key: value`. -/
def written (e : String × String) : List Char :=
  e.1.toList ++ ':' :: ' ' :: e.2.toList

/-- One line for each entry. -/
def toText (es : Entries) : List Char :=
  (es.map written).flatMap fun line => line ++ ['\n']

theorem notMem_append_cons {c : Char} (hkey : c ∉ key) (hsep : c ≠ sep) (hvalue : c ∉ value) :
    c ∉ key ++ sep :: value := by
  simp [hkey, hsep, hvalue]

theorem notMem_written {c : Char} {e : String × String} (hkey : c ∉ e.1.toList)
    (hvalue : c ∉ e.2.toList) (hcolon : c ≠ ':') (hspace : c ≠ ' ') : c ∉ written e := by
  refine notMem_append_cons hkey hcolon ?_
  rw [List.mem_cons, not_or]
  exact ⟨hspace, hvalue⟩

theorem Plain.newline_notMem {e : String × String} (h : Plain e) : '\n' ∉ written e :=
  notMem_written (fun hm => (h.key _ hm).2.2 rfl) (fun hm => (h.value _ hm).2 rfl)
    (by decide) (by decide)

theorem Plain.hash_notMem {e : String × String} (h : Plain e) : '#' ∉ written e :=
  notMem_written (fun hm => (h.key _ hm).2.1 rfl) (fun hm => (h.value _ hm).1 rfl)
    (by decide) (by decide)

theorem Plain.ofLine?_written {e : String × String} (h : Plain e) :
    ofLine? (written e) = some e := by
  have hspace : AllBlank [' '] := by decide
  have htrim : trim (' ' :: e.2.toList) = trim e.2.toList := trim_blank_append hspace _
  rw [ofLine?_eq, beforeComment_of_notMem h.hash_notMem, written,
    entryOf?_append_cons (fun c hm => (h.key c hm).1) rfl, htrim, h.trim_key, h.trim_value,
    String.ofList_toList, String.ofList_toList]

theorem ofText_toText {es : Entries} (h : ∀ e ∈ es, Plain e) :
    ofText (toText es) = Table.ofPairs es := by
  have hlines : ∀ line ∈ es.map written, '\n' ∉ line := by
    intro line hm
    obtain ⟨e, he, rfl⟩ := List.mem_map.mp hm
    exact (h e he).newline_notMem
  have hentries : (es.map written).filterMap ofLine? = es := by
    have hread : es.filterMap (ofLine? ∘ written) = es.filterMap some :=
      List.filterMap_congr fun e he => (h e he).ofLine?_written
    rw [List.filterMap_map, hread, List.filterMap_some]
  have hlast : [([] : List Char)].filterMap ofLine? = [] := rfl
  rw [ofText, toText, pieces_flatMap hlines, List.filterMap_append, hentries, hlast,
    List.append_nil]

theorem ofLine?_append_cons (hkey : ∀ c ∈ key, isSeparator c = false ∧ c ≠ '#')
    (hsep : isSeparator sep = true) (hvalue : '#' ∉ value) :
    ofLine? (key ++ sep :: value) =
      some (String.ofList (trim key), String.ofList (trim value)) := by
  have hhash : '#' ∉ key ++ sep :: value := by
    refine notMem_append_cons (fun hm => (hkey _ hm).2 rfl) ?_ hvalue
    rintro rfl
    exact absurd hsep (by decide)
  rw [ofLine?_eq, beforeComment_of_notMem hhash,
    entryOf?_append_cons (fun c hm => (hkey c hm).1) hsep]

/-- Entries that were read can be written out in any order and are read again. A text that is
continued keeps its entries but for those that come again, and an entry at the end counts, whatever
the value is. The ends of lines may be those of either kind, and lines may be spaced out and have
comments, between them as well. -/
theorem entries_outlast_editing (t t₁ t₂ : List Char) :
    (∀ es : Entries, es.Perm (ofText t) → (ofText (toText es)).agrees (ofText t) = true) ∧
    (∀ key, (ofText (t₁ ++ '\n' :: t₂)).get? key =
      ((ofText t₂).get? key).or ((ofText t₁).get? key)) ∧
    (∀ (key value : List Char) (sep : Char),
      (∀ c ∈ key, isSeparator c = false ∧ c ≠ '#' ∧ c ≠ '\n') → isSeparator sep = true →
      '#' ∉ value → '\n' ∉ value →
      (ofText (t ++ '\n' :: (key ++ sep :: value))).get? (String.ofList (trim key)) =
        some (String.ofList (trim value))) ∧
    (∀ lines : List (List Char), (∀ line ∈ lines, '\n' ∉ line) →
      ofText (['\r', '\n'].intercalate lines) = ofText (['\n'].intercalate lines)) ∧
    ∀ lines lines' : List (List Char), (∀ line ∈ lines ++ lines', '\n' ∉ line) →
      Relation.EqvGen Edit lines lines' →
      ofText (['\n'].intercalate lines') = ofText (['\n'].intercalate lines) := by
  refine ⟨fun es hperm => ?_, fun key => ?_, fun key value sep hkey hsep hhash hend => ?_,
    fun lines hlines => ?_, fun lines lines' hends hedit => ?_⟩
  · have hkeys : (Table.keys (ofText t)).Nodup := Table.nodup_keys_ofPairs _
    have hdistinct : (Table.keys es).Nodup := (hperm.map Prod.fst).nodup_iff.mpr hkeys
    have hplain : ∀ e ∈ es, Plain e := fun e hm => plain_of_mem_ofText (hperm.mem_iff.mp hm)
    rw [ofText_toText hplain, Table.ofPairs_of_nodup hdistinct]
    exact (Table.agrees_iff_perm hdistinct hkeys).mpr hperm
  · rw [ofText_append, Table.get?_ofPairs_append, ofText, ofText]
  · have hline : '\n' ∉ key ++ sep :: value := by
      refine notMem_append_cons (fun hm => (hkey _ hm).2.2 rfl) ?_ hend
      rintro rfl
      exact absurd hsep (by decide)
    have hread := ofLine?_append_cons (fun c hm => ⟨(hkey c hm).1, (hkey c hm).2.1⟩) hsep hhash
    rw [ofText_append, Table.get?_ofPairs_append, pieces_of_notMem hline]
    simp [hread, Table.ofPairs, Table.put, Table.get?]
  · rw [ofText_intercalate hlines, ofText, filterMap_pieces_crlf hlines]
  · obtain ⟨hlines, hlines'⟩ := List.forall_mem_append.mp hends
    rw [ofText_intercalate hlines, ofText_intercalate hlines', filterMap_eq_of_eqvGen hedit]

/-- A key that is given twice and in the end has no value, a nameless one, and a comment; then one
line that is spaced out and has comments above it and at its end. -/
theorem entries_outlast_editing_nameless :
    let t := "b = 1 # x\r\n: \nlog = 2\nb:".toList
    let lines := [['b', ':', '1']]
    let lines' := [['#', 't'], ['b', ' ', ':', '\t', '1', '#', '!']]
    ofText t = [("b", ""), ("", ""), ("log", "2")] ∧
      (ofText (toText [("log", "2"), ("", ""), ("b", "")])).agrees (ofText t) = true ∧
      (ofText ("b=4".toList ++ '\n' :: t)).get? "b" = some "" ∧
      (ofText (t ++ '\n' :: "b =".toList)).get? "b" = some "" ∧
      ofText (['\r', '\n'].intercalate lines') = ofText (['\n'].intercalate lines') ∧
      Relation.EqvGen Edit lines lines' ∧
      ofText (['\n'].intercalate lines') = ofText (['\n'].intercalate lines) := by
  intro t lines lines'
  have hread : ofText t = [("b", ""), ("", ""), ("log", "2")] := by decide +kernel
  have hperm : [("log", "2"), ("", ""), ("b", "")].Perm (ofText t) := by
    rw [hread]
    decide
  have hkey : ∀ c ∈ ['b'], isSeparator c = false := List.forall_mem_singleton.mpr rfl
  have hsep : isSeparator ':' = true := rfl
  have hblank : AllBlank [' '] ∧ AllBlank ['\t'] := by decide
  have hspace : Edit lines [['b', ' ', ':', '\t', '1']] :=
    .line [] [] (.between ['1'] hkey hsep hblank.1 hblank.2)
  have hnote : Edit [['b', ' ', ':', '\t', '1']] [['b', ' ', ':', '\t', '1', '#', '!']] :=
    .line [] [] (.comment ['b', ' ', ':', '\t', '1'] ['!'])
  have htop : Edit [['b', ' ', ':', '\t', '1', '#', '!']] lines' :=
    .comment [] [['b', ' ', ':', '\t', '1', '#', '!']] ['t']
  have hedit : Relation.EqvGen Edit lines lines' :=
    .trans _ _ _ (.rel _ _ hspace) (.trans _ _ _ (.rel _ _ hnote) (.rel _ _ htop))
  obtain ⟨hwritten, hjoined, hlast, hreturns, hedited⟩ :=
    entries_outlast_editing t "b=4".toList t
  have hplain : ∀ c ∈ "b ".toList, isSeparator c = false ∧ c ≠ '#' ∧ c ≠ '\n' := by
    simp [isSeparator]
  have hempty := hlast "b ".toList [] '=' hplain rfl (by decide) (by decide)
  refine ⟨hread, hwritten _ hperm, ?_, hempty, hreturns lines' (by decide), hedit,
    hedited lines lines' (by decide) hedit⟩
  rw [hjoined "b", hread]
  rfl

end Entries

end Accelerator
