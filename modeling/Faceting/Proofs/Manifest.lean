import Faceting.Manifest
import Faceting.Proofs.Document.Json
import Faceting.Proofs.Files.Run

/-!
# Manifests are read back and checked

* The text of a manifest is read back (`Manifest.ofJson?_toJson`), if the numbers of bytes in it are
  numbers that a file can have. No other manifest is ever read (`Manifest.bytes_lt_of_ofJson?`), so
  printing what was read is a normal form of texts (`Manifest.json_roundTrip`).
* An artifact is stale if its file cannot be read or has another digest than the one recorded
  (`Manifest.stale_apply`).
-/

namespace Faceting

namespace Manifest

/-! ### As text -/

theorem byteCount?_int {n : Nat} (h : n < Number.twoPow 64) : byteCount? (.int n) = some n := by
  have hfits : Number.fitsUnsigned n = true := by
    simp only [Number.fitsUnsigned, Bool.and_eq_true, decide_eq_true_eq]
    omega
  rw [byteCount?, if_pos hfits]
  rfl

theorem record?_toDocument {a : ArtifactRecord} (h : a.bytes < Number.twoPow 64) :
    record? a.toDocument = some a := by
  have hfields : a.toDocument.fields? ["kind", "path", "template", "sha256", "bytes"]
      = some [some (.string a.kind.label), some (.string a.path.text), some (.string a.template),
          some (.string a.sha256), some (.int a.bytes)] := rfl
  have hkind : ArtifactKind.ofLabel? a.kind.label = some a.kind := by cases a.kind <;> rfl
  simp [record?, hfields, hkind, byteCount?_int h, Document.label?, Document.string?]

variable {m : Manifest}

theorem ofDocument?_toDocument (h : ∀ a ∈ m.artifacts, a.bytes < Number.twoPow 64) :
    ofDocument? m.toDocument = some m := by
  have hfields : m.toDocument.fields? ["generator", "idl_path", "idl_sha256", "profile", "artifacts"]
      = some [some (.string m.generator), some (.string m.source), some (.string m.sourceSha256),
          some (.string m.profile.label), some (.list (m.artifacts.map ArtifactRecord.toDocument))] := rfl
  have hprofile : Profile.ofLabel? m.profile.label = some m.profile := by cases m.profile <;> rfl
  have hartifacts := Document.listOf?_map fun a ha => record?_toDocument (h a ha)
  simp [ofDocument?, hfields, hprofile, hartifacts, Document.label?, Document.string?]

theorem readsBack_record {a : ArtifactRecord} (h : a.bytes < Number.twoPow 64) (depth : Nat) :
    Json.ReadsBack (depth + 1) a.toDocument := by
  apply Json.ReadsBack.mapping
  intro member hmember
  simp only [List.mem_cons, List.not_mem_nil, or_false] at hmember
  rcases hmember with rfl | rfl | rfl | rfl | rfl
  · exact .string _
  · exact .string _
  · exact .string _
  · exact .string _
  · exact .nat h

theorem readsBack_toDocument (h : ∀ a ∈ m.artifacts, a.bytes < Number.twoPow 64) (depth : Nat) :
    Json.ReadsBack (depth + 3) m.toDocument := by
  apply Json.ReadsBack.mapping
  intro member hmember
  simp only [List.mem_cons, List.not_mem_nil, or_false] at hmember
  rcases hmember with rfl | rfl | rfl | rfl | rfl
  · exact .string _
  · exact .string _
  · exact .string _
  · exact .string _
  · apply Json.ReadsBack.list
    intro d hd
    obtain ⟨a, ha, rfl⟩ := List.mem_map.1 hd
    exact readsBack_record (h a ha) depth

/-- **The text of a manifest is read back**, if its numbers of bytes fit into 64 bits. -/
theorem ofJson?_toJson (h : ∀ a ∈ m.artifacts, a.bytes < Number.twoPow 64) :
    ofJson? m.toJson = some m := by
  have hread : Json.read? m.toJson = some m.toDocument :=
    Json.read?_pretty (readsBack_toDocument h (Json.nestingLimit - 3))
  rw [ofJson?, hread]
  exact ofDocument?_toDocument h

/-! ### Manifests that are read -/

theorem byteCount?_lt {d : Document} {n : Nat} (h : byteCount? d = some n) : n < Number.twoPow 64 := by
  unfold byteCount? at h
  split at h
  · rename_i value
    split at h
    · rename_i hfits
      cases h
      simp only [Number.fitsUnsigned, Bool.and_eq_true, decide_eq_true_eq] at hfits
      omega
    · cases h
  · cases h

theorem bytes_lt_of_record? {d : Document} {a : ArtifactRecord} (h : record? d = some a) :
    a.bytes < Number.twoPow 64 := by
  unfold record? at h
  obtain ⟨fields, -, h⟩ := Option.bind_eq_some_iff.1 h
  split at h
  · obtain ⟨kind, -, h⟩ := Option.bind_eq_some_iff.1 h
    obtain ⟨path, -, h⟩ := Option.bind_eq_some_iff.1 h
    obtain ⟨template, -, h⟩ := Option.bind_eq_some_iff.1 h
    obtain ⟨digest, -, h⟩ := Option.bind_eq_some_iff.1 h
    obtain ⟨bytes, hbytes, h⟩ := Option.bind_eq_some_iff.1 h
    cases h
    exact byteCount?_lt hbytes
  · cases h

/-- A manifest that was read has numbers of bytes that fit into 64 bits. -/
theorem bytes_lt_of_ofJson? {text : String} (h : ofJson? text = some m) :
    ∀ a ∈ m.artifacts, a.bytes < Number.twoPow 64 := by
  obtain ⟨d, -, h⟩ := Option.bind_eq_some_iff.1 h
  unfold ofDocument? at h
  obtain ⟨fields, -, h⟩ := Option.bind_eq_some_iff.1 h
  split at h
  · obtain ⟨generator, -, h⟩ := Option.bind_eq_some_iff.1 h
    obtain ⟨source, -, h⟩ := Option.bind_eq_some_iff.1 h
    obtain ⟨digest, -, h⟩ := Option.bind_eq_some_iff.1 h
    obtain ⟨profile, -, h⟩ := Option.bind_eq_some_iff.1 h
    obtain ⟨artifacts, hartifacts, h⟩ := Option.bind_eq_some_iff.1 h
    cases h
    intro a ha
    obtain ⟨item, hitem⟩ := Document.exists_of_listOf? hartifacts ha
    exact bytes_lt_of_record? hitem
  · cases h

/-- The text of a manifest is a mapping and a line feed. -/
theorem exists_toJson (m : Manifest) :
    ∃ body, m.toJson = body ++ "\n" ∧ body.toList.getLast? = some '\x7d' := by
  refine ⟨Json.pretty m.toDocument, rfl, ?_⟩
  have hchars : ∃ cs, Json.prettyChars 0 m.toDocument = cs ++ ['\x7d'] := ⟨_, rfl⟩
  obtain ⟨cs, hcs⟩ := hchars
  rw [Json.pretty, String.toList_ofList, hcs, List.getLast?_concat]

/-- The text of the manifest that a text holds. -/
def reprint? (text : String) : Option String :=
  (ofJson? text).map toJson

/-- **Manifests and their texts.**  The text of a manifest ends with one line feed, and with no more than
one. It is read back as that manifest if and only if the numbers of bytes in it fit into 64 bits. What is
printed for a text that holds a manifest is printed again for itself. -/
theorem json_roundTrip :
    (∀ m : Manifest, (∃ body, m.toJson = body ++ "\n" ∧ body.toList.getLast? ≠ some '\n') ∧
      (ofJson? m.toJson = some m ↔ ∀ a ∈ m.artifacts, a.bytes < Number.twoPow 64)) ∧
      ∀ text printed, reprint? text = some printed → reprint? printed = some printed := by
  constructor
  · intro m
    refine ⟨?_, bytes_lt_of_ofJson?, ofJson?_toJson⟩
    obtain ⟨body, htext, hlast⟩ := exists_toJson m
    refine ⟨body, htext, ?_⟩
    rw [hlast]
    decide
  · intro text printed h
    obtain ⟨m, hm, rfl⟩ := Option.map_eq_some_iff.1 h
    have hread : ofJson? m.toJson = some m := ofJson?_toJson (bytes_lt_of_ofJson? hm)
    rw [reprint?, hread]
    rfl

/-- A manifest with texts that have to be escaped, and with the largest number of bytes. -/
def awkward : Manifest :=
  { generator := "\"g\\\x01\x7f\n", source := "é/\u2028.json", sourceSha256 := "", profile := .routed
    artifacts := [⟨.xferBody, ⟨"a\tb"⟩, "😀", "0", 18446744073709551615⟩, ⟨.implementationHeader, ⟨""⟩, "", "", 0⟩] }

/-- A manifest in the form of a list, on one line. -/
def listedText : String :=
  "[\"g\", \"\\u00e9\", \"\", \"minimal\", []]"

theorem awkward_roundTrip :
    ofJson? awkward.toJson = some awkward ∧ ∃ printed, reprint? listedText = some printed ∧
      printed ≠ listedText ∧ reprint? printed = some printed := by
  refine ⟨(json_roundTrip.1 awkward).2.2 (by decide), ?_⟩
  have hprinted : reprint? listedText = some (toJson ⟨"g", "é", "", .minimal, []⟩) := by decide +kernel
  exact ⟨_, hprinted, by decide +kernel, json_roundTrip.2 _ _ hprinted⟩

end Manifest

/-! ### On files -/

/-- Whether a file can be read at a path and has a digest. -/
def FileTree.hasDigest (t : FileTree) (p : Path) (digest : String) : Bool :=
  match t.read p with
  | .ok content => Sha256.hex content == digest
  | .error _ => false

theorem FileTree.hasDigest_of_read {t : FileTree} {p : Path} {content : ByteArray}
    (h : t.read p = .ok content) (digest : String) :
    t.hasDigest p digest = (Sha256.hex content == digest) := by
  rw [hasDigest, h]

namespace Manifest

theorem staleIn_apply (records : List ArtifactRecord) (t : FileTree) :
    (staleIn records : FileM _) t = (records.filter fun r => !t.hasDigest r.path r.sha256, t) := by
  induction records with
  | nil => rfl
  | cons r rest ih =>
    have hdigest : ((fileDigest r.path : FileM _) t) = ((t.read r.path).map Sha256.hex, t) := rfl
    have hfresh : (((t.read r.path).map Sha256.hex).toOption == some r.sha256)
        = t.hasDigest r.path r.sha256 := by
      unfold FileTree.hasDigest
      cases t.read r.path <;> rfl
    rw [staleIn, FileM.bind_apply, hdigest, FileM.bind_apply, ih, List.filter_cons]
    cases hcase : t.hasDigest r.path r.sha256 <;> simp [hfresh, hcase]

/-- Checking a manifest finds the artifacts whose files cannot be read or have another digest, in order,
and leaves the tree as it is. -/
theorem stale_apply (m : Manifest) (t : FileTree) :
    (m.stale : FileM _) t = (m.artifacts.filter fun r => !t.hasDigest r.path r.sha256, t) :=
  staleIn_apply m.artifacts t

end Manifest

end Faceting
