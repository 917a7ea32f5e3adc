/-
What is found where a resource was written.  Writing to a resource either fails
and changes no file, or it leaves exactly the bytes that were written, in the
file that its path leads to, and changes no other file.
-/
import RegionSnapshot.Proofs.Files.Overwriting
import RegionSnapshot.Proofs.Resource.Files

namespace RegionSnapshot
namespace Resource

variable {r : Resource} {tree opened after : FileTree} {place : Place}
variable {bytes : Bytes}

/-- What was opened for writing leads to what is then written there. -/
theorem exists_hasFile_of_openWrite
    (h : r.openWrite tree = (.ok place, opened)) (bytes : Bytes) :
    ∃ path, r.path? = some path ∧
      (opened.overwrite place bytes).HasFile path place bytes
        (tree.accessAt place) := by
  obtain ⟨location, text, rfl, hopen⟩ := exists_of_openWrite h
  exact ⟨.ofText text, rfl, FileTree.hasFile_of_openForWriting hopen bytes⟩

theorem changes_of_openWrite (h : r.openWrite tree = (.ok place, opened))
    (bytes : Bytes) :
    FileTree.Changes (fun other => other = place) tree
      (opened.overwrite place bytes) := by
  obtain ⟨location, text, rfl, hopen⟩ := exists_of_openWrite h
  exact FileTree.changes_of_openForWriting hopen bytes

/-- Where nothing can be opened no file is changed. -/
theorem changes_of_openWrite_error {cause : IoError}
    (h : r.openWrite tree = (.error cause, opened)) (written : Place → Prop) :
    FileTree.Changes written tree opened := by
  have hnothing : FileTree.Changes written tree tree :=
    .of_spares rfl fun _ => .refl tree
  cases r with
  | file location text =>
      rw [openWrite] at h
      split at h
      · cases h
      · rename_i hopen
        cases h
        exact FileTree.changes_of_openForWriting_error hopen
  | classpath | memory | url =>
      cases h
      exact hnothing

/-- Bytes are written where a resource was opened, or the writing fails and changes
no file. -/
theorem write_cases (r : Resource) (tree : FileTree) (size : Nat)
    (hbytes : bytes ≠ []) :
    (∃ place opened, r.isWritable tree = true ∧
      r.openWrite tree = (.ok place, opened) ∧
      r.write size tree bytes = (.ok (), opened.overwrite place bytes)) ∨
    ∃ error after, r.write size tree bytes = (.error error, after) ∧
      ¬(r.isWritable tree = true ∧ ∃ place, (r.openWrite tree).1 = .ok place) ∧
      ∀ written, FileTree.Changes written tree after := by
  cases hwritable : r.isWritable tree with
  | false =>
      refine .inr ⟨_, tree, write_of_not_isWritable size hbytes hwritable, ?_,
        fun _ => .of_spares rfl fun _ => .refl tree⟩
      rintro ⟨h, -⟩
      cases h
  | true =>
      have hwrite := write_of_isWritable size hbytes hwritable
      rcases hopen : r.openWrite tree with ⟨cause | place, opened⟩
      · rw [hopen] at hwrite
        refine .inr ⟨_, opened, hwrite, ?_, changes_of_openWrite_error hopen⟩
        rintro ⟨-, place, h⟩
        cases h
      · rw [hopen] at hwrite
        exact .inl ⟨place, opened, rfl, rfl, hwrite⟩

theorem write_isOk_iff (r : Resource) (tree : FileTree) (size : Nat)
    (hbytes : bytes ≠ []) :
    (∃ after, r.write size tree bytes = (.ok (), after)) ↔
      r.isWritable tree = true ∧ ∃ place, (r.openWrite tree).1 = .ok place := by
  rcases write_cases r tree size hbytes with
    ⟨place, opened, hwritable, hopen, hwrite⟩ | ⟨error, failed, hwrite, hnot, -⟩
  · rw [hwrite, hopen]
    exact ⟨fun _ => ⟨hwritable, place, rfl⟩, fun _ => ⟨_, rfl⟩⟩
  · rw [hwrite]
    constructor
    · rintro ⟨after, h⟩
      cases h
    · exact fun h => absurd h hnot

/-- A writing that succeeds was one to a file, which was opened and in which the
bytes are found again, and it changed no other file. -/
theorem exists_of_write {size : Nat} (hbytes : bytes ≠ [])
    (h : r.write size tree bytes = (.ok (), after)) :
    ∃ location text place, r = .file location text ∧
      (r.openWrite tree).1 = .ok place ∧
      after.HasFile (.ofText text) place bytes (tree.accessAt place) ∧
      FileTree.Changes (fun other => other = place) tree after := by
  rcases write_cases r tree size hbytes with
    ⟨place, opened, -, hopen, hwrite⟩ | ⟨error, failed, hwrite, -⟩
  · rw [h] at hwrite
    cases hwrite
    have hchange := changes_of_openWrite hopen bytes
    obtain ⟨location, text, rfl, hopened⟩ := exists_of_openWrite hopen
    exact ⟨location, text, place, rfl, by rw [hopen],
      FileTree.hasFile_of_openForWriting hopened bytes, hchange⟩
  · rw [h] at hwrite
    cases hwrite

end Resource
end RegionSnapshot
