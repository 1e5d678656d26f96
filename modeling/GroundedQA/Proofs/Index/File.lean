import GroundedQA.Index.File
import GroundedQA.Proofs.Format.Document
import GroundedQA.Proofs.Index.Inserts
import GroundedQA.Proofs.Json.Documents
import GroundedQA.Proofs.Storage.Save
/-!
# An index survives its file

The bytes of a file read back as the file (`IndexFile.decode?_encode`), the checks of a load pass what
insertions leave in an index, and the disk gives back what was saved. So an index that was saved is
loaded again with all of its payload (`VectorIndex.load_save`), unless with an embedder of another
length. The order in which the file has the members of its objects does not matter (`VectorIndex.load_rearranged`).
-/

namespace GroundedQA

open Json Storage

namespace IndexFile

theorem fields?_toJson (file : IndexFile) :
    file.toJson.fields? [["format_version"], ["dimensions"], ["records"]] =
      some [some (.nat file.version), some (.nat file.dimensions),
        some (.array (file.records.map IndexRecord.toJson))] := by
  rw [IndexFile.toJson, fields?_record]
  rfl

/-- A file is read from its fields. -/
theorem ofJson?_eq_some {j : Json} {file : IndexFile} :
    ofJson? j = some file ↔
      ∃ version dimensions records, j.fields? [["format_version"], ["dimensions"], ["records"]] =
        some [version, dimensions, records] ∧
        required? (nat? (2 ^ 32)) version = some file.version ∧ required? word? dimensions = some file.dimensions ∧
        required? (list? IndexRecord.ofJson?) records = some file.records := by
  unfold ofJson?
  constructor
  · intro h
    obtain ⟨fields, hfields, h⟩ := Option.bind_eq_some_iff.1 h
    split at h
    · obtain ⟨version, hversion, h⟩ := Option.bind_eq_some_iff.1 h
      obtain ⟨dimensions, hdimensions, h⟩ := Option.bind_eq_some_iff.1 h
      obtain ⟨records, hrecords, h⟩ := Option.bind_eq_some_iff.1 h
      cases h
      exact ⟨_, _, _, hfields, hversion, hdimensions, hrecords⟩
    · cases h
  · rintro ⟨version, dimensions, records, hfields, hversion, hdimensions, hrecords⟩
    simp [hfields, hversion, hdimensions, hrecords]

theorem orderFree_ofJson? : OrderFree ofJson? := by
  intro j j' h file hread
  obtain ⟨version, dimensions, records, hfields, hversion, hdimensions, hrecords⟩ := ofJson?_eq_some.1 hread
  obtain ⟨_, hfields', _ | ⟨hversion', _ | ⟨hdimensions', _ | ⟨hrecords', _ | _⟩⟩⟩⟩ := h.exists_fields? hfields
  exact ofJson?_eq_some.2 ⟨_, _, _, hfields', (orderFree_nat? _).required? hversion' hversion,
    (orderFree_nat? _).required? hdimensions' hdimensions,
    IndexRecord.orderFree_ofJson?.list?.required? hrecords' hrecords⟩

theorem decode?_render (j : Json) : decode? j.render.toUTF8 = ofJson? j := by
  unfold decode?
  rw [ofBytes?_render]
  rfl

/-- The bytes of a file read back as the file, if its numbers are those of the format. -/
theorem decode?_encode {file : IndexFile} (hversion : file.version < 2 ^ 32) (hdimensions : file.dimensions < 2 ^ 64)
    (hrecords : ∀ record ∈ file.records, (∀ x ∈ record.vector, x.isFinite) ∧ record.chunk.sequenceIndex < 2 ^ 64) :
    decode? file.encode = some file := by
  have hlist : list? IndexRecord.ofJson? (.array (file.records.map IndexRecord.toJson)) = some file.records :=
    mapM_map_self fun record hrecord => IndexRecord.ofJson?_toJson (hrecords record hrecord).1 (hrecords record hrecord).2
  rw [encode, decode?_render]
  exact ofJson?_eq_some.2 ⟨_, _, _, file.fields?_toJson, nat?_nat hversion, word?_nat hdimensions, hlist⟩

/-- The bytes are read alike whatever the order in which members were written, those of metadata or others. -/
theorem decode?_of_rearranges {file : IndexFile} {j : Json} (h : file.toJson.Rearranges j) :
    decode? j.render.toUTF8 = decode? file.encode := by
  rw [encode, decode?_render, decode?_render]
  exact orderFree_ofJson?.eq h

/-- Of a file of the current version whose vectors have the declared length, only the length of the
embedder is left to check. -/
theorem check_eq {file : IndexFile} (hversion : file.version = indexFormatVersion)
    (hlength : ∀ record ∈ file.records, record.vector.length = file.dimensions) (dimensions : Nat) :
    file.check dimensions =
      if dimensions = file.dimensions then .ok () else .error (.dimensionMismatch file.dimensions dimensions) := by
  have hfit : file.misfit? = none := by
    unfold misfit?
    rw [List.find?_eq_none]
    intro record hrecord
    simp [hlength record hrecord]
  unfold check
  rw [hfit]
  by_cases h : dimensions = file.dimensions
  · rw [if_neg (not_not_intro hversion), if_neg (not_not_intro h), if_pos h]
    rfl
  · rw [if_neg (not_not_intro hversion), if_pos h, if_neg h]
    rfl

/-! ## What may be read -/

/-- The numbers of a file that was read are numbers of 64 bits. -/
theorem lt_of_decode? {content : ByteArray} {file : IndexFile} (h : decode? content = some file) :
    file.dimensions < 2 ^ 64 ∧ ∀ record ∈ file.records, record.chunk.sequenceIndex < 2 ^ 64 := by
  obtain ⟨j, -, hj⟩ := Option.bind_eq_some_iff.1 h
  obtain ⟨_, dimensions, records, -, -, hdimensions, hrecords⟩ := ofJson?_eq_some.1 hj
  obtain ⟨d, -, hd⟩ := Option.bind_eq_some_iff.1 hdimensions
  obtain ⟨r, -, hr⟩ := Option.bind_eq_some_iff.1 hrecords
  refine ⟨lt_of_nat? hd, fun record hrecord => ?_⟩
  obtain ⟨item, hitem⟩ := exists_of_mem_list? hr hrecord
  exact IndexRecord.place_lt_of_ofJson? hitem

/-- Only a file whose vectors are finite is read back at all. -/
theorem isFinite_of_decode?_encode {file loaded : IndexFile} (h : decode? file.encode = some loaded) :
    ∀ record ∈ file.records, ∀ x ∈ record.vector, x.isFinite := by
  rw [encode, decode?_render] at h
  obtain ⟨_, _, records, hfields, -, -, hrecords⟩ := ofJson?_eq_some.1 h
  rw [file.fields?_toJson] at hfields
  cases hfields
  intro record hrecord
  obtain ⟨loaded, hloaded⟩ := exists_of_list?_map hrecords hrecord
  exact IndexRecord.isFinite_of_ofJson?_toJson hloaded

theorem of_check {file : IndexFile} {dimensions : Nat} (h : file.check dimensions = .ok ()) :
    file.dimensions = dimensions ∧ ∀ record ∈ file.records, record.vector.length = file.dimensions := by
  unfold check at h
  by_cases hversion : file.version = indexFormatVersion
  · rw [if_neg (not_not_intro hversion)] at h
    cases hmisfit : file.misfit? with
    | some record =>
      rw [hmisfit] at h
      cases h
    | none =>
      rw [hmisfit] at h
      by_cases hdim : dimensions = file.dimensions
      · refine ⟨hdim.symm, fun record hrecord => ?_⟩
        unfold misfit? at hmisfit
        exact by simpa using List.find?_eq_none.1 hmisfit record hrecord
      · rw [if_pos hdim] at h
        cases h
  · rw [if_pos hversion] at h
    cases h

end IndexFile

namespace VectorIndex

variable {σ τ : Type}

/-- Whether an index is saved is up to the disk, and only the disk can be the reason that it is not. -/
theorem save_fst (index : VectorIndex σ) (disk : Disk) (path : String) (id : Uuid) :
    (index.save disk path id).1 = (disk.save path id index.toFile.encode).1.mapError .io := rfl

theorem save_iff {index : VectorIndex σ} {disk : Disk} {path : String} {id : Uuid} :
    (index.save disk path id).1 = .ok () ↔ disk.Accepts path id := by
  rw [save_fst, mapError_eq_ok, Disk.save_iff]

/-- A load takes what the disk has at the path through the checks. -/
theorem load_of_read (loader : Embedder τ) {disk : Disk} {path : String} {content : ByteArray} {file : IndexFile}
    (hoccupied : disk.occupied path = .ok true) (hread : disk.read path = .ok content)
    (hdecode : IndexFile.decode? content = some file) :
    load loader disk path = (file.check loader.dimensions).map fun _ => ⟨loader, file.dimensions, file.records⟩ := by
  have hthere : liftFile (disk.occupied path) = .ok true := congrArg liftFile hoccupied
  have hcontent : liftFile (disk.read path) = .ok content := congrArg liftFile hread
  unfold load
  rw [hthere, hcontent]
  simp only [ok_bind, if_true, hdecode]
  cases file.check loader.dimensions <;> rfl

/-- An index that was loaded is a file of the disk that has passed the checks. -/
theorem load_eq_ok {loader : Embedder τ} {disk : Disk} {path : String} {index : VectorIndex τ}
    (h : load loader disk path = .ok index) :
    ∃ content file, disk.read path = .ok content ∧ IndexFile.decode? content = some file ∧
      file.check loader.dimensions = .ok () ∧ index = ⟨loader, file.dimensions, file.records⟩ := by
  unfold load at h
  obtain ⟨there, -, h⟩ := bind_eq_ok.1 h
  have hthere : there = true := by
    cases there with
    | false => cases h
    | true => rfl
  subst hthere
  obtain ⟨content, hcontent, h⟩ := bind_eq_ok.1 h
  have hread : disk.read path = .ok content := by
    unfold liftFile at hcontent
    cases hread : disk.read path with
    | ok c =>
      rw [hread] at hcontent
      cases hcontent
      rfl
    | error fault =>
      rw [hread] at hcontent
      cases hcontent
  cases hdecode : IndexFile.decode? content with
  | none =>
    rw [hdecode] at h
    cases h
  | some file =>
    rw [hdecode] at h
    obtain ⟨u, hcheck, h⟩ := bind_eq_ok.1 h
    cases h
    exact ⟨content, file, hread, hdecode, hcheck, rfl⟩

/-- A load depends on what the disk has at the path, and on that only as far as it is read. -/
theorem load_congr (loader : Embedder τ) {disk other : Disk} {path : String} {content text : ByteArray}
    (hoccupied : disk.occupied path = .ok true) (hread : disk.read path = .ok content)
    (hoccupied' : other.occupied path = .ok true) (hread' : other.read path = .ok text)
    (h : IndexFile.decode? text = IndexFile.decode? content) : load loader other path = load loader disk path := by
  have hthere : liftFile (disk.occupied path) = .ok true := congrArg liftFile hoccupied
  have hthere' : liftFile (other.occupied path) = .ok true := congrArg liftFile hoccupied'
  have hcontent : liftFile (disk.read path) = .ok content := congrArg liftFile hread
  have hcontent' : liftFile (other.read path) = .ok text := congrArg liftFile hread'
  unfold load
  rw [hthere, hthere', hcontent, hcontent']
  simp only [ok_bind, if_true, h]

theorem load_of_undecoded (loader : Embedder τ) {disk : Disk} {path : String} {content : ByteArray}
    (hoccupied : disk.occupied path = .ok true) (hread : disk.read path = .ok content)
    (hdecode : IndexFile.decode? content = none) :
    load loader disk path = .error (.indexUnreadable path "not a JSON document of an index") := by
  have hthere : liftFile (disk.occupied path) = .ok true := congrArg liftFile hoccupied
  have hcontent : liftFile (disk.read path) = .ok content := congrArg liftFile hread
  unfold load
  rw [hthere, hcontent]
  simp only [ok_bind, if_true, hdecode]
  rfl

/-- It does not matter for a load in which order the members of objects were saved, at any depth. -/
theorem load_rearranged {index : VectorIndex σ} {disk : Disk} {path : String} {id : Uuid}
    (hsave : (index.save disk path id).1 = .ok ()) {j : Json} (hj : index.toFile.toJson.Rearranges j) {other : Disk}
    (hoccupied : other.occupied path = .ok true) (hread : other.read path = .ok j.render.toUTF8)
    (loader : Embedder τ) : load loader other path = load loader (index.save disk path id).2 path := by
  have haccepts := save_iff.1 hsave
  exact load_congr loader (Disk.occupied_save haccepts) (Disk.read_save haccepts) hoccupied hread
    (IndexFile.decode?_of_rearranges hj)

/-- What the file of an index is read as again. -/
theorem decode?_toFile {embedder : Embedder σ} {index : VectorIndex σ} (h : Sound embedder index)
    (hword : embedder.dimensions < 2 ^ 64) : IndexFile.decode? index.toFile.encode = some index.toFile := by
  refine IndexFile.decode?_encode (by decide : indexFormatVersion < 2 ^ 32) ?_ fun record hrecord => ?_
  · show index.dimensions < 2 ^ 64
    rw [h.dimensions_eq]
    exact hword
  · exact ⟨(h.fits record hrecord).isFinite, h.place_lt record hrecord⟩

/-- A loaded index is the one that was saved, but for its embedder; an embedder of another length is refused. -/
theorem load_save_eq {embedder : Embedder σ} {index : VectorIndex σ} (h : Sound embedder index)
    (hword : embedder.dimensions < 2 ^ 64) {disk : Disk} {path : String} {id : Uuid}
    (hsave : (index.save disk path id).1 = .ok ()) (loader : Embedder τ) :
    load loader (index.save disk path id).2 path =
      if loader.dimensions = index.dimensions then .ok ⟨loader, index.dimensions, index.records⟩
      else .error (.dimensionMismatch index.dimensions loader.dimensions) := by
  have haccepts := save_iff.1 hsave
  have hlength : ∀ record ∈ index.toFile.records, record.vector.length = index.toFile.dimensions :=
    fun record hrecord => (h.fits record hrecord).length_eq
  refine (load_of_read loader (Disk.occupied_save haccepts) (Disk.read_save haccepts) (decode?_toFile h hword)).trans ?_
  rw [IndexFile.check_eq rfl hlength]
  show Except.map _ (if loader.dimensions = index.dimensions then _ else _) = _
  split
  · rfl
  · rfl

/-- What insertions have put into an index survives its file: saved where the disk accepts it, it is
loaded with all of its payload by an embedder of its length, and refused by any other. So is any file
that has the members of objects, such as metadata, in another order. -/
theorem load_save {embedder : Embedder σ} {index : VectorIndex σ} (h : Inserted embedder index)
    (hword : embedder.dimensions < 2 ^ 64) (disk : Disk) (path : String) (id : Uuid) :
    ((index.save disk path id).1 = .ok () ↔ disk.Accepts path id) ∧
    ((index.save disk path id).1 = .ok () → ∀ (τ : Type) (loader : Embedder τ),
      (loader.dimensions = index.dimensions →
        ∃ loaded, load loader (index.save disk path id).2 path = .ok loaded ∧ loaded.embedder = loader ∧
          loaded.dimensions = index.dimensions ∧
          List.Forall₂ IndexRecord.SamePayload index.records loaded.records) ∧
      (loader.dimensions ≠ index.dimensions →
        load loader (index.save disk path id).2 path =
          .error (.dimensionMismatch index.dimensions loader.dimensions)) ∧
      ∀ (other : Disk) (j : Json), index.toFile.toJson.Rearranges j → other.occupied path = .ok true →
        other.read path = .ok j.render.toUTF8 →
        load loader other path = load loader (index.save disk path id).2 path) := by
  refine ⟨save_iff, fun hsave τ loader => ?_⟩
  have hload := load_save_eq h.sound hword hsave loader
  refine ⟨fun hdim => ?_, fun hdim => ?_, fun other j hj hoccupied hread => ?_⟩
  · rw [if_pos hdim] at hload
    exact ⟨_, hload, rfl, rfl, List.forall₂_same.2 fun record _ => record.samePayload_refl⟩
  · rw [if_neg hdim] at hload
    exact hload
  · exact load_rearranged hsave hj hoccupied hread loader

/-- An embedder that gives every text the same two numbers. -/
def steady (dimensions : Nat) : Embedder Unit :=
  .oneByOne dimensions fun _ => pure [1.5, -0.25]

/-- An index of three records from two insertions; the text and the metadata of the first need escapes. -/
def notes : VectorIndex Unit :=
  let begun := ((VectorIndex.insert (fun _ => ⟨7⟩)
    [⟨"tab\tquote\"", "doc", 2 ^ 63, Dictionary.empty.insert "\n" "é"⟩]).run.run ⟨.new (steady 2), ()⟩).2.index
  ((VectorIndex.insert (fun i => ⟨.ofNat 128 (5 - i)⟩)
    [⟨"second", "doc", 0, .empty⟩, ⟨"tab\tquote\"", "doc", 1, .empty⟩]).run.run ⟨begun, ()⟩).2.index

theorem inserted_notes : Inserted (steady 2) notes :=
  .insert (.insert .new _ _ (by decide) ()) _ _ (by decide) ()

theorem accepts_empty : Disk.empty.Accepts "index.json" ⟨1⟩ := by
  refine ⟨.empty, [Save.temporaryPath "index.json" ⟨1⟩], ["index.json"], ⟨?_, rfl, ⟨rfl, ?_⟩, ⟨rfl, ?_⟩⟩⟩
  · intro h
    exact absurd rfl h
  · rw [Disk.find?_empty (List.cons_ne_nil _ _)]
    decide
  · rw [Disk.find?_empty (List.cons_ne_nil _ _)]
    decide

/-- A disk with the file of these notes, the records of which stand in front. -/
def shuffledNotes : Disk :=
  let json : Json := .record [("records", .array (notes.records.map IndexRecord.toJson)),
    ("format_version", .nat indexFormatVersion), ("dimensions", .nat notes.dimensions)]
  ⟨[(["index.json"], .file json.render.toUTF8)]⟩

/-- The records come back in the order of their insertion, which is neither that of their ids nor of their texts. -/
theorem load_save_notes :
    (notes.save .empty "index.json" ⟨1⟩).1 = .ok () ∧
    (∃ loaded, load (steady 2) (notes.save .empty "index.json" ⟨1⟩).2 "index.json" = .ok loaded ∧
      load (steady 2) shuffledNotes "index.json" = .ok loaded ∧
      loaded.dimensions = 2 ∧ List.Forall₂ IndexRecord.SamePayload notes.records loaded.records ∧
      loaded.records.map (·.id) = [⟨7⟩, ⟨5⟩, ⟨4⟩] ∧
      loaded.records.map (·.chunk.text) = ["tab\tquote\"", "second", "tab\tquote\""]) ∧
    load (steady 3) (notes.save .empty "index.json" ⟨1⟩).2 "index.json" = .error (.dimensionMismatch 2 3) := by
  obtain ⟨hiff, hload⟩ := load_save inserted_notes (by decide) .empty "index.json" ⟨1⟩
  have hsave := hiff.2 accepts_empty
  obtain ⟨hsame, -, hshuffled⟩ := hload hsave Unit (steady 2)
  obtain ⟨loaded, hok, -, hdim, hsame⟩ := hsame (by decide +kernel)
  have horder : notes.toFile.toJson.Rearranges (.record [("records", .array (notes.records.map IndexRecord.toJson)),
      ("format_version", .nat indexFormatVersion), ("dimensions", .nat notes.dimensions)]) := by
    refine .object (by decide) (List.forall₂_same.2 fun m _ => .mk m.1 (.refl m.2)) ?_
    exact (List.perm_append_comm : ([_, _] ++ [_]).Perm _)
  have hids : loaded.records.map (·.id) = notes.records.map (·.id) := by
    rw [← List.forall₂_eq_eq_eq, List.forall₂_map_left_iff, List.forall₂_map_right_iff]
    exact (hsame.imp fun _ _ hpayload => hpayload.id_eq).flip
  have hchunks : loaded.records.map (·.chunk) = notes.records.map (·.chunk) := by
    rw [← List.forall₂_eq_eq_eq, List.forall₂_map_left_iff, List.forall₂_map_right_iff]
    exact (hsame.imp fun _ _ hpayload => hpayload.chunk_eq).flip
  have htexts := congrArg (List.map (·.text)) hchunks
  rw [List.map_map, List.map_map] at htexts
  have hmismatch := (hload hsave Unit (steady 3)).2.1 (by decide +kernel)
  have hdimensions : notes.dimensions = 2 := by decide +kernel
  rw [hdimensions] at hdim hmismatch
  exact ⟨hsave, ⟨loaded, hok, (hshuffled shuffledNotes _ horder rfl rfl).trans hok, hdim, hsame,
    hids.trans (by decide +kernel), htexts.trans (by decide +kernel)⟩, hmismatch⟩

end VectorIndex

end GroundedQA
