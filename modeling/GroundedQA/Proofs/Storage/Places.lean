import GroundedQA.Proofs.Storage.Disk
import GroundedQA.Proofs.Uuid
import GroundedQA.Storage.Save
/-!
# Files by their paths

A path that can be followed leads to a place that the path alone tells (`locate_eq_ok`), so a disk gives a
content, or none, to every path (`Disk.contentAt?`). The operations change it where they say and nowhere else, and
take away no directory, so a path that can be followed stays one (`Disk.Grows`).

The temporary files of saves are at places of their own: none of them is the target (`placeOf_temporaryPath_ne`),
and different ids give different places (`placeOf_temporaryPath_injective`).
-/

namespace GroundedQA.Storage

namespace Disk

/-! ## Where paths lead -/

/-- The place one step away, without a look at the disk. -/
def stepTo (here : Place) (name : String) : Place :=
  if name = "" ∨ name = "." then here
  else if name = ".." then here.dropLast
  else here ++ [name]

/-- The place that a path tells. -/
def placeOf (path : String) : Place :=
  (steps path).foldl stepTo []

/-- The path can be followed, up to its last step. -/
def Leads (disk : Disk) (path : String) : Prop :=
  disk.locate path = .ok (placeOf path)

theorem step_eq_ok {here place : Place} {name : String} (h : step here name = .ok place) : place = stepTo here name := by
  unfold step at h
  unfold stepTo
  split at h
  · next hstay =>
    rw [if_pos hstay]
    exact (Except.ok.inj h).symm
  next hstay =>
    rw [if_neg hstay]
    split at h
    · next hup =>
      rw [if_pos hup]
      exact (Except.ok.inj h).symm
    next hup =>
      rw [if_neg hup]
      split at h
      · cases h
      · exact (Except.ok.inj h).symm

theorem walk_eq_ok {disk : Disk} {here place : Place} {names : List String} (h : disk.walk here names = .ok place) :
    place = names.foldl stepTo here := by
  induction names generalizing here with
  | nil => exact (Except.ok.inj h).symm
  | cons name names ih =>
    rw [walk] at h
    obtain ⟨-, -, h⟩ := bind_eq_ok.1 h
    obtain ⟨there, hstep, h⟩ := bind_eq_ok.1 h
    rw [List.foldl_cons, ← step_eq_ok hstep]
    exact ih h

theorem locate_eq_ok {disk : Disk} {path : String} {place : Place} (h : disk.locate path = .ok place) :
    place = placeOf path := by
  unfold locate at h
  obtain ⟨-, -, h⟩ := bind_eq_ok.1 h
  exact walk_eq_ok h

theorem leads_of_locate {disk : Disk} {path : String} {place : Place} (h : disk.locate path = .ok place) :
    disk.Leads path := by
  rw [Leads, ← locate_eq_ok h]
  exact h

/-! ## Directories stay -/

/-- Every directory of the one disk is one of the other. -/
def Grows (disk disk' : Disk) : Prop :=
  ∀ place, disk.find? place = some .directory → disk'.find? place = some .directory

theorem Grows.refl (disk : Disk) : disk.Grows disk := fun _ h => h

theorem SameDirectories.grows {disk disk' : Disk} (h : disk.SameDirectories disk') : disk.Grows disk' :=
  fun place => (h place).1

theorem Grows.walk {disk disk' : Disk} (h : disk.Grows disk') {here place : Place} {names : List String}
    (hwalk : disk.walk here names = .ok place) : disk'.walk here names = .ok place := by
  induction names generalizing here with
  | nil => exact hwalk
  | cons name names ih =>
    rw [Disk.walk] at hwalk ⊢
    obtain ⟨u, hdirectory, hwalk⟩ := bind_eq_ok.1 hwalk
    obtain ⟨there, hstep, hwalk⟩ := bind_eq_ok.1 hwalk
    exact bind_eq_ok.2 ⟨u, checkDirectory_iff.2 (h here (checkDirectory_iff.1 hdirectory)),
      bind_eq_ok.2 ⟨there, hstep, ih hwalk⟩⟩

theorem Grows.leads {disk disk' : Disk} (h : disk.Grows disk') {path : String} (hleads : disk.Leads path) :
    disk'.Leads path := by
  unfold Leads locate at hleads ⊢
  obtain ⟨u, hcheck, hwalk⟩ := bind_eq_ok.1 hleads
  exact bind_eq_ok.2 ⟨u, hcheck, h.walk hwalk⟩

/-! ## Contents -/

/-- What the file at a place holds, if there is one. -/
def file? (disk : Disk) (place : Place) : Option ByteArray :=
  match disk.find? place with
  | some (.file content) => some content
  | some .directory | none => none

/-- What the file at the place of a path holds, if there is one. -/
def contentAt? (disk : Disk) (path : String) : Option ByteArray :=
  disk.file? (placeOf path)

theorem file?_eq_some_iff {disk : Disk} {place : Place} {content : ByteArray} :
    disk.file? place = some content ↔ disk.find? place = some (.file content) := by
  unfold file?
  split <;> simp_all

theorem file?_eq_none {disk : Disk} {place : Place} (h : disk.find? place = none) : disk.file? place = none := by
  rw [file?, h]

/-- What is read at a path is what it holds, and can be read wherever the path can be followed. -/
theorem read_iff {disk : Disk} {path : String} {content : ByteArray} :
    disk.read path = .ok content ↔ disk.Leads path ∧ disk.contentAt? path = some content := by
  unfold read
  rw [bind_eq_ok]
  constructor
  · rintro ⟨place, hlocate, h⟩
    refine ⟨leads_of_locate hlocate, ?_⟩
    rw [contentAt?, ← locate_eq_ok hlocate, file?_eq_some_iff]
    split at h
    · next hfile => rw [hfile, Except.ok.inj h]
    all_goals cases h
  · rintro ⟨hleads, hcontent⟩
    refine ⟨placeOf path, hleads, ?_⟩
    rw [file?_eq_some_iff.1 hcontent]
    rfl

/-- One place has a new content, and all others have what they had. -/
def Sets (disk disk' : Disk) (place : Place) (content : Option ByteArray) : Prop :=
  disk'.file? place = content ∧ ∀ other, other ≠ place → disk'.file? other = disk.file? other

theorem sets_insert {disk : Disk} {place : Place} (h : disk.find? place ≠ some .directory) (content : ByteArray) :
    disk.Sets (disk.insert place (.file content)) place (some content) := by
  have hroot := ne_nil_of_not_directory h
  refine ⟨file?_eq_some_iff.2 (find?_insert_self h _), fun other hother => ?_⟩
  rw [file?, find?_insert disk hroot, if_neg hother, file?]

theorem sets_erase (disk : Disk) {place : Place} (h : place ≠ []) : disk.Sets (disk.erase place) place none := by
  refine ⟨file?_eq_none (by rw [find?_erase disk h, if_pos rfl]), fun other hother => ?_⟩
  rw [file?, find?_erase disk h, if_neg hother, file?]

/-- Writing sets the content of the path. -/
theorem write_sets {disk disk' : Disk} {path : String} {content : ByteArray} (h : disk.write path content = .ok disk') :
    disk.Leads path ∧ disk.Sets disk' (placeOf path) (some content) ∧ disk.Grows disk' := by
  obtain ⟨place, ⟨hlocate, hfree⟩, rfl⟩ := write_iff.1 h
  rw [← locate_eq_ok hlocate]
  exact ⟨leads_of_locate hlocate, sets_insert hfree content, (SameDirectories.insert hfree content).grows⟩

/-- Removing takes the content of the path away. -/
theorem remove_sets {disk disk' : Disk} {path : String} (h : disk.remove path = .ok disk') :
    disk.Sets disk' (placeOf path) none ∧ disk.Grows disk' := by
  unfold remove at h
  obtain ⟨place, hlocate, h⟩ := bind_eq_ok.1 h
  rw [← locate_eq_ok hlocate]
  split at h
  · next content hfile =>
    have hfree : disk.find? place ≠ some .directory := by simp [hfile]
    obtain rfl := Except.ok.inj h
    exact ⟨disk.sets_erase (ne_nil_of_not_directory hfree), (SameDirectories.erase hfree).grows⟩
  all_goals cases h

/-- A path that can be followed holds nothing when what it holds cannot be removed. -/
theorem contentAt?_of_remove_eq_error {disk : Disk} {path : String} {fault : FileFault} (hleads : disk.Leads path)
    (h : disk.remove path = .error fault) : disk.contentAt? path = none := by
  unfold remove at h
  rw [hleads, ok_bind] at h
  rw [contentAt?, file?]
  cases hentry : disk.find? (placeOf path) with
  | none => rfl
  | some entry =>
    cases entry with
    | directory => rfl
    | file content =>
      rw [hentry] at h
      cases h

/-- Moving a file to another place sets the contents of both. -/
theorem rename_sets {disk disk' : Disk} {source target : String} (hne : placeOf source ≠ placeOf target)
    (h : disk.rename source target = .ok disk') :
    disk'.contentAt? target = disk.contentAt? source ∧ disk'.contentAt? source = none ∧ disk'.Leads target ∧
      (∀ place, place ≠ placeOf source → place ≠ placeOf target → disk'.file? place = disk.file? place) ∧
      disk.Grows disk' := by
  obtain ⟨old, new, content, hold, hfile, ⟨hnew, hfree⟩, rfl⟩ := rename_iff.1 h
  have hplain : disk.find? old ≠ some .directory := by simp [hfile]
  have herased := SameDirectories.erase hplain
  have hfree' : (disk.erase old).find? new ≠ some .directory := fun hd => hfree ((herased new).2 hd)
  have hgrows : disk.Grows ((disk.erase old).insert new (.file content)) :=
    (herased.trans (SameDirectories.insert hfree' content)).grows
  obtain ⟨hset, hothers⟩ := sets_insert hfree' content
  obtain ⟨hgone, hothers'⟩ := disk.sets_erase (ne_nil_of_not_directory hplain)
  rw [← locate_eq_ok hold, ← locate_eq_ok hnew] at hne ⊢
  rw [contentAt?, contentAt?, contentAt?, ← locate_eq_ok hold, ← locate_eq_ok hnew]
  refine ⟨hset.trans (file?_eq_some_iff.2 hfile).symm, (hothers old hne).trans hgone,
    hgrows.leads (leads_of_locate hnew), fun place hsource htarget => ?_, hgrows⟩
  rw [hothers place htarget, hothers' place hsource]

/-- Making sure of a directory makes no file and takes none away. -/
theorem makeDirectory_keeps {disk disk' : Disk} {place : Place} (h : disk.makeDirectory place = .ok disk') :
    (∀ other, disk'.file? other = disk.file? other) ∧ disk.Grows disk' := by
  unfold makeDirectory at h
  split at h
  · obtain rfl := Except.ok.inj h
    exact ⟨fun _ => rfl, .refl _⟩
  · cases h
  · next hnone =>
    obtain rfl := Except.ok.inj h
    have hfree : disk.find? place ≠ some .directory := by simp [hnone]
    have hroot := ne_nil_of_not_directory hfree
    refine ⟨fun other => ?_, fun other hother => ?_⟩
    · by_cases heq : other = place
      · rw [heq, file?_eq_none hnone, file?, find?_insert disk hroot, if_pos rfl]
      · rw [file?, find?_insert disk hroot, if_neg heq, file?]
    · rw [find?_insert disk hroot]
      split
      · rfl
      · exact hother

end Disk

/-! ## Temporary files -/

/-- What holds no separator, behind a text, becomes part of its last piece. -/
theorem exists_pieces_append (separates : Char → Bool) (cs : List Char) :
    ∃ before last, Text.pieces separates cs = before ++ [last] ∧
      ∀ suffix : List Char, (∀ c ∈ suffix, ¬separates c) → Text.pieces separates (cs ++ suffix) = before ++ [last ++ suffix] := by
  induction cs with
  | nil =>
    refine ⟨[], [], rfl, fun suffix h => ?_⟩
    rw [List.nil_append, List.nil_append]
    induction suffix with
    | nil => rfl
    | cons c cs ih =>
      rw [Text.pieces, if_neg (h c List.mem_cons_self), ih fun d hd => h d (List.mem_cons_of_mem c hd)]
  | cons c cs ih =>
    obtain ⟨before, last, hpieces, hsuffix⟩ := ih
    by_cases hc : separates c
    · refine ⟨[] :: before, last, by rw [Text.pieces, if_pos hc, hpieces]; rfl, fun suffix h => ?_⟩
      rw [List.cons_append, Text.pieces, if_pos hc, hsuffix suffix h]
      rfl
    · cases before with
      | nil =>
        refine ⟨[], c :: last, by rw [Text.pieces, if_neg hc, hpieces]; rfl, fun suffix h => ?_⟩
        rw [List.cons_append, Text.pieces, if_neg hc, hsuffix suffix h]
        rfl
      | cons piece before =>
        refine ⟨(c :: piece) :: before, last, by rw [Text.pieces, if_neg hc, hpieces]; rfl, fun suffix h => ?_⟩
        rw [List.cons_append, Text.pieces, if_neg hc, hsuffix suffix h]
        rfl

namespace Save

open Disk

/-- What is put behind a path to name a temporary file. -/
def suffix (id : Uuid) : List Char :=
  '.' :: id.hexDigits ++ ".tmp".toList

theorem toList_temporaryPath (target : String) (id : Uuid) :
    (temporaryPath target id).toList = target.toList ++ suffix id := by
  simp [temporaryPath, suffix, Uuid.simple]

theorem length_suffix (id : Uuid) : (suffix id).length = 37 := by
  simp [suffix, Uuid.length_hexDigits]

theorem suffix_injective : Function.Injective suffix := by
  intro a b h
  have hdigits : a.hexDigits = b.hexDigits := List.append_cancel_right (List.cons.inj h).2
  have := congrArg Uuid.ofHex? hdigits
  rw [Uuid.ofHex?_hexDigits, Uuid.ofHex?_hexDigits] at this
  exact Option.some.inj this

theorem slash_notMem_suffix (id : Uuid) : ∀ c ∈ suffix id, ¬(c == '/') := by
  have hdigit : ∀ d < 16, ¬(Nat.digitChar d == '/') := by decide
  have htmp : ".tmp".toList = ['.', 't', 'm', 'p'] := by decide +kernel
  intro c hc
  rw [suffix, List.cons_append, List.mem_cons, List.mem_append] at hc
  rcases hc with rfl | hc | hc
  · decide
  · obtain ⟨d, hd, rfl⟩ := Text.mem_hexPadded hc
    exact hdigit d hd
  · rw [htmp] at hc
    simp only [List.mem_cons, List.not_mem_nil, or_false] at hc
    rcases hc with rfl | rfl | rfl | rfl <;> decide

/-- The temporary files beside a path have names that are longer than the last step to it. -/
theorem exists_placeOf_temporaryPath (target : String) :
    ∃ here last, placeOf target = stepTo here (.ofList last) ∧
      ∀ id, placeOf (temporaryPath target id) = here ++ [.ofList (last ++ suffix id)] := by
  obtain ⟨before, last, hpieces, hsuffix⟩ := exists_pieces_append (· == '/') target.toList
  refine ⟨(before.map String.ofList).foldl stepTo [], last, ?_, fun id => ?_⟩
  · rw [placeOf, steps, hpieces, List.map_append, List.foldl_append]
    rfl
  · have hlength : (String.ofList (last ++ suffix id)).length = last.length + 37 := by simp [length_suffix]
    have hname : stepTo ((before.map String.ofList).foldl stepTo []) (.ofList (last ++ suffix id)) =
        (before.map String.ofList).foldl stepTo [] ++ [.ofList (last ++ suffix id)] := by
      unfold stepTo
      rw [if_neg, if_neg]
      · intro h
        rw [h] at hlength
        have : "..".length = 2 := by decide
        omega
      · rintro (h | h)
        · rw [h] at hlength
          have : "".length = 0 := by decide
          omega
        · rw [h] at hlength
          have : ".".length = 1 := by decide
          omega
    rw [placeOf, steps, toList_temporaryPath, hsuffix _ (slash_notMem_suffix id), List.map_append, List.foldl_append, ← hname]
    rfl

/-- No temporary file is at the target. -/
theorem placeOf_temporaryPath_ne (target : String) (id : Uuid) : placeOf (temporaryPath target id) ≠ placeOf target := by
  obtain ⟨here, last, htarget, htemporary⟩ := exists_placeOf_temporaryPath target
  rw [htarget, htemporary, stepTo]
  intro h
  have hlength := congrArg List.length h
  split at hlength
  · simp at hlength
  split at hlength
  · simp at hlength
    omega
  · next hstay hup =>
    rw [if_neg hstay, if_neg hup] at h
    have hname := congrArg String.length (List.singleton_inj.1 (List.append_cancel_left h))
    simp [length_suffix] at hname

/-- Different ids name different temporary files. -/
theorem placeOf_temporaryPath_injective (target : String) :
    Function.Injective fun id => placeOf (temporaryPath target id) := by
  obtain ⟨here, last, -, htemporary⟩ := exists_placeOf_temporaryPath target
  intro a b h
  simp only [htemporary] at h
  have hname := String.ofList_injective (List.singleton_inj.1 (List.append_cancel_left h))
  exact suffix_injective (List.append_cancel_left hname)

end Save

end GroundedQA.Storage
