import Mathlib.Data.List.Nodup
import OpcodeForge.Proofs.Specification.Documents

/-!
# Identifiers of a Run

The instructions of a run have the identifiers of its documents. No two of them are the same,
as a directory lists each name once and a name gives back its identifier. They are compared
as they are written here, so that two of them may differ in the case of their letters only.

## Theorems

* `Disk.nodup_namesAt`: A directory lists each name once.
* `Library.nodup_identifiers`: No two documents have one identifier.
* `nodup_of_documents`: Nor do those of a run, wherever it reads them.
* `identifier_of_readDocument`: An instruction has the identifier of its document.
* `identifiers_of_readDocuments`: Without faults there is one for each document, in order.
-/

namespace OpcodeForge

open Specification

namespace Disk

theorem nodup_eraseDups (names : List String) : names.eraseDups.Nodup := by
  -- What is left to do is not the tail, but the tail without a name.
  cases names with
  | nil => exact List.nodup_nil
  | cons name rest =>
      rw [List.eraseDups_cons, List.nodup_cons]
      refine ⟨fun hmem => ?_, nodup_eraseDups _⟩
      have hkept := (List.mem_filter.mp (List.mem_eraseDups.mp hmem)).2
      rw [beq_self_eq_true] at hkept
      exact absurd hkept (by decide)
termination_by names.length
decreasing_by exact Nat.lt_succ_of_le (List.length_filter_le _ _)

theorem nodup_namesAt (d : Disk) (l : Location) : (d.namesAt l).Nodup :=
  nodup_eraseDups _

theorem nodup_names (d : Disk) (p : String) (names : List String) (h : d.names p = .ok names) :
    names.Nodup := by
  unfold Disk.names at h
  cases hl : d.locate p with
  | error fault => simp only [hl, bind, Except.bind, reduceCtorEq] at h
  | ok l =>
      simp only [hl, bind, Except.bind] at h
      split at h
      · cases h
      · cases h
      · rw [← Except.ok.inj h]
        exact nodup_namesAt d l

end Disk

namespace Specification.Library

theorem nodup_fileNames (lib : Library) (d : Disk) : (lib.fileNames d).Nodup := by
  unfold fileNames
  cases hnames : d.names lib.directory with
  | error fault => exact List.nodup_nil
  | ok names =>
      rw [(List.mergeSort_perm _ _).nodup_iff]
      exact (d.nodup_names lib.directory names hnames).filter _

/-- No two documents have one identifier, since the identifier gives back the name. -/
theorem nodup_identifiers (lib : Library) (d : Disk) (ids : List String)
    (h : lib.identifiers d = .ok ids) : ids.Nodup := by
  unfold identifiers at h
  split at h
  · rw [← Except.ok.inj h]
    refine (lib.nodup_fileNames d).filterMap fun name other id hname hother => ?_
    rw [(identifierOf?_eq_some_iff name id).mp hname, (identifierOf?_eq_some_iff other id).mp hother]
  · cases h

end Specification.Library

namespace Generator

/-- What a run reads are the documents of a library, unless it was told a directory that has
    none. -/
theorem documents_cases (d : Disk) (v : Value) (lib : Library) (ids : List String)
    (h : documents d v = .ok (lib, ids)) : lib.identifiers d = .ok ids ∨ ids = [] := by
  unfold documents at h
  cases v with
  | text s =>
      cases hids : (Library.mk s).identifiers d with
      | error f => simp only [hids, reduceCtorEq] at h
      | ok found =>
          simp only [hids, Except.ok.injEq, Prod.mk.injEq] at h
          rcases h with ⟨rfl, rfl⟩
          exact Or.inl hids
  | bytes bs =>
      simp only [] at h
      split at h
      · cases h
      · split at h
        · exact Or.inr (Prod.mk.inj (Except.ok.inj h)).2.symm
        · cases h
  | _ => cases h

theorem nodup_of_documents (d : Disk) (v : Value) (lib : Library) (ids : List String)
    (h : documents d v = .ok (lib, ids)) : ids.Nodup := by
  rcases documents_cases d v lib ids h with hids | rfl
  · exact lib.nodup_identifiers d ids hids
  · exact List.nodup_nil

theorem identifier_of_readDocument (headings : Headings) (lib : Library) (d : Disk)
    (identifier : String) (i : Instruction) (log : List Log.Line)
    (h : readDocument headings lib d identifier = .ok (i, log)) : i.identifier = identifier := by
  unfold readDocument at h
  cases hread : lib.read d identifier with
  | error f => simp only [hread, reduceCtorEq] at h
  | ok text =>
      simp only [hread] at h
      cases hextract : extract headings identifier (readBlocks text) with
      | error f =>
          simp only [hextract] at h
          split at h <;> cases h
      | ok found =>
          simp only [hextract, Except.ok.injEq] at h
          rw [h, extract] at hextract
          split at hextract
          · cases hextract
          · rw [← (Prod.mk.inj (Except.ok.inj hextract)).1]

/-- A run without faults has one instruction for each of its documents, in order. -/
theorem identifiers_of_readDocuments (headings : Headings) (lib : Library) (d : Disk)
    (ids : List String) : ∀ reading, readDocuments headings lib d ids = (reading, .ok ()) →
      reading.failures = [] → reading.instructions.map (·.identifier) = ids := by
  induction ids with
  | nil =>
      intro reading h _
      rw [← (Prod.mk.inj h).1]
      rfl
  | cons identifier rest ih =>
      intro reading h hnone
      rcases hrest : readDocuments headings lib d rest with ⟨others, result⟩
      unfold readDocuments at h
      rcases hread : readDocument headings lib d identifier with (f | x) | ⟨i, log⟩
      · simp only [hread, hrest, Prod.mk.injEq] at h
        rw [← h.1] at hnone
        exact absurd hnone (List.cons_ne_nil _ _)
      · simp only [hread, Prod.mk.injEq, reduceCtorEq, and_false] at h
      · simp only [hread, hrest, Prod.mk.injEq] at h
        rw [← h.1] at hnone ⊢
        rw [List.map_cons, ih others (hrest.trans (congrArg _ h.2)) hnone,
          identifier_of_readDocument headings lib d identifier i log hread]

end Generator

end OpcodeForge
