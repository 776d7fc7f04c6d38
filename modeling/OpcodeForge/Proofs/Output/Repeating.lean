import OpcodeForge.Proofs.Output.Ordinary
import OpcodeForge.Proofs.Output.Replacing

/-!
# Repeated Writes

Where both outputs are in place, writing them once more changes nothing. It does a lot all the
same: two temporary files are made, and each is moved onto an output that has the same text. So
the disk is different at each step, and only at the end it is the one from before.

That is the very same disk, with its entries in the same order. A temporary file is added where
there was none, which puts its entry last, and moving it takes that entry away and leaves the
output where it was.

## Theorems

* `Disk.put_of_get?`: Storing what is stored changes nothing.
* `Disk.erase_put`, `Disk.erase_put_put`: Taking away a new entry leaves the others.
* `Output.stage_of_inPlace`: Staging an output that is in place makes its temporary file.
* `Output.rename_of_put`, `Output.rename_of_put_put`: Moving a temporary file takes it away.
* `Output.write_of_inPlace`: Writing outputs that are in place changes nothing.
* `Output.log_of_write`: What a write that succeeds tells.
* `Output.write_again`: A second write does what the first has done.
-/

namespace OpcodeForge

namespace Disk

theorem putEntry_of_lookupEntry (l : Location) (x : Entry) (es : List (Location × Entry))
    (h : lookupEntry l es = some x) : putEntry l x es = es := by
  induction es with
  | nil => cases h
  | cons entry rest ih =>
      rcases entry with ⟨k, y⟩
      rw [lookupEntry] at h
      rw [putEntry]
      split at h
      · rename_i hkl
        rw [if_pos hkl, Option.some.inj h]
      · rename_i hkl
        rw [if_neg hkl, ih h]

/-- A new entry comes last. -/
theorem putEntry_of_lookupEntry_eq_none (l : Location) (x : Entry)
    (es : List (Location × Entry)) (h : lookupEntry l es = none) :
    putEntry l x es = es ++ [(l, x)] := by
  induction es with
  | nil => rfl
  | cons entry rest ih =>
      rcases entry with ⟨k, y⟩
      rw [lookupEntry] at h
      split at h
      · cases h
      · rename_i hkl
        rw [putEntry, if_neg hkl, ih h]
        rfl

theorem eraseEntry_append (l : Location) (es es' : List (Location × Entry)) :
    eraseEntry l (es ++ es') = eraseEntry l es ++ eraseEntry l es' := by
  induction es with
  | nil => rfl
  | cons entry rest ih =>
      rcases entry with ⟨k, y⟩
      rw [List.cons_append, eraseEntry, eraseEntry, ih]
      split
      · rfl
      · rfl

theorem eraseEntry_of_lookupEntry_eq_none (l : Location) (es : List (Location × Entry))
    (h : lookupEntry l es = none) : eraseEntry l es = es := by
  induction es with
  | nil => rfl
  | cons entry rest ih =>
      rcases entry with ⟨k, y⟩
      rw [lookupEntry] at h
      split at h
      · cases h
      · rename_i hkl
        rw [eraseEntry, if_neg hkl, ih h]

section

variable (d : Disk) (l l' : Location) (x x' : Entry)

theorem lookupEntry_of_get? (hl : l ≠ []) (o : Option Entry) (h : d.get? l = o) :
    lookupEntry l d.entries = o := by
  unfold get? at h
  rwa [if_neg hl] at h

theorem get?_put_self (hl : l ≠ []) : (d.put l x).get? l = some x := by
  rw [get?_put d l l x hl, if_pos rfl]

/-- Storing what is stored changes nothing. -/
theorem put_of_get? (hl : l ≠ []) (h : d.get? l = some x) : d.put l x = d := by
  unfold put
  rw [putEntry_of_lookupEntry l x _ (lookupEntry_of_get? d l hl _ h)]

theorem ne_nil_of_get?_eq_none (h : d.get? l = none) : l ≠ [] :=
  ne_nil_of_get?_ne_directory d l (ne_directory_of_none d l h)

theorem entries_put (h : d.get? l = none) : (d.put l x).entries = d.entries ++ [(l, x)] :=
  putEntry_of_lookupEntry_eq_none l x _
    (lookupEntry_of_get? d l (ne_nil_of_get?_eq_none d l h) none h)

/-- Taking a new entry away again changes nothing. -/
theorem erase_put (h : d.get? l = none) : (d.put l x).erase l = d := by
  have hnone := lookupEntry_of_get? d l (ne_nil_of_get?_eq_none d l h) none h
  unfold erase
  rw [entries_put d l x h, eraseEntry_append, eraseEntry_of_lookupEntry_eq_none l _ hnone,
    eraseEntry, if_pos rfl]
  exact congrArg (Disk.mk d.here) (List.append_nil _)

/-- Taking the first of two new entries away leaves the second. -/
theorem erase_put_put (h : d.get? l = none) (h' : d.get? l' = none) (hne : l ≠ l') :
    ((d.put l x).put l' x').erase l = d.put l' x' := by
  have hl := ne_nil_of_get?_eq_none d l h
  have hnone' : (d.put l x).get? l' = none := by
    rw [get?_put d l l' x hl, if_neg (Ne.symm hne), h']
  have hentries : ((d.put l x).put l' x').entries = d.entries ++ [(l, x)] ++ [(l', x')] := by
    rw [entries_put _ l' x' hnone', entries_put d l x h]
  have hkeep : eraseEntry l (d.entries ++ [(l, x)] ++ [(l', x')]) = d.entries ++ [(l', x')] := by
    rw [eraseEntry_append, eraseEntry_append,
      eraseEntry_of_lookupEntry_eq_none l _ (lookupEntry_of_get? d l hl none h)]
    simp only [eraseEntry, if_true, if_neg (Ne.symm hne), List.append_nil]
  unfold erase
  rw [hentries, hkeep, ← entries_put d l' x' h']
  rfl

end

end Disk

namespace Output

open Disk

theorem sizeOf_of_stored (e : Disk) (p : String) (bs : List UInt8) (h : e.stored p = some bs) :
    sizeOf e p = bs.length := by
  unfold Disk.stored at h
  unfold sizeOf
  cases hread : e.read p with
  | error f =>
      rw [hread] at h
      cases h
  | ok bytes =>
      rw [hread] at h
      rw [Option.some.inj h]

section

variable (e : Disk) (p text : String) (k t m : Location) (bs : List UInt8)
  (h : InPlace e p text k t)

include h

/-- An output stays in place when another file is stored. -/
theorem InPlace.put (hm : e.get? m ≠ some .directory) (hmk : m ≠ k) (hmt : m ≠ t) :
    InPlace (e.put m (.file bs)) p text k t := by
  have hroot := ne_nil_of_get?_ne_directory e m hm
  have hspares := spares_put e m bs hm
  refine ⟨hspares.locate _ e _ p k h.locate, hspares.locate _ e _ _ t h.locate_temporary, h.file,
    ?_, ?_⟩
  · rw [get?_put e m k _ hroot, if_neg (Ne.symm hmk), h.get]
  · rw [get?_put e m t _ hroot, if_neg (Ne.symm hmt), h.gone]

theorem InPlace.gone_ne_directory : e.get? t ≠ some .directory :=
  ne_directory_of_none e t h.gone

/-- Staging an output that is in place makes its temporary file and nothing else. -/
theorem stage_of_inPlace : stage e (.text p) text
    = (e.put t (.file (Text.encode text)), .ok ⟨temporaryOf p, p⟩) := by
  have hdirectory : ¬e.isDirectory p = true := by
    rw [isDirectory_iff]
    rintro ⟨k', hk', hget⟩
    rw [← Except.ok.inj (h.locate.symm.trans hk'), h.get] at hget
    exact absurd hget (by simp only [Option.some.injEq, reduceCtorEq, not_false_eq_true])
  have hwrite := (write_eq_ok_iff e _ (temporaryOf p) (Text.encode text)).mpr
    ⟨t, h.locate_temporary, h.gone_ne_directory, namesDirectory_temporaryOf p, rfl⟩
  change stagePath e p text = _
  unfold stagePath
  rw [if_neg hdirectory, makeParent_of_locate e p k h.locate h.file]
  simp only [show p ++ temporarySuffix = temporaryOf p from rfl, hwrite]

/-- Moving the temporary file of an output that is in place takes the temporary file away. It is
    on a disk `f` with more entries. -/
theorem rename_of_inPlace (f : Disk) (t' : List Location) (hspares : Spares t' e f)
    (hfile : f.get? t = some (.file (Text.encode text)))
    (hget : (f.erase t).get? k = some (.file (Text.encode text))) (hkt : k ≠ t) :
    f.rename (temporaryOf p) p = .ok (f.erase t) := by
  have hroot := ne_nil_of_get?_ne_directory _ k (ne_directory_of_file _ k _ hget)
  have hk : f.get? k ≠ some .directory := by
    rw [get?_erase f t k (ne_nil_of_get?_ne_directory f t (ne_directory_of_file f t _ hfile)),
      if_neg hkt] at hget
    exact ne_directory_of_file f k _ hget
  refine (rename_eq_ok_iff f _ _ p).mpr ⟨t, k, Text.encode text,
    hspares.locate _ e f _ t h.locate_temporary, hspares.locate _ e f p k h.locate, hfile,
    namesDirectory_temporaryOf p, h.file, hk, ?_⟩
  rw [put_of_get? _ k _ hroot hget]

/-- Moving the temporary file of one output leaves the disk as it was before it was made. -/
theorem rename_of_put (hkt : k ≠ t) :
    (e.put t (.file (Text.encode text))).rename (temporaryOf p) p = .ok e := by
  have ht := h.gone_ne_directory e p text k t
  have herase := erase_put e t (.file (Text.encode text)) h.gone
  have hrename := rename_of_inPlace e p text k t h _ _ (spares_put e t _ ht)
    (get?_put_self e t _ (ne_nil_of_get?_eq_none e t h.gone)) (by rw [herase]; exact h.get) hkt
  rwa [herase] at hrename

/-- The temporary file of another output may be there by then, and stays. -/
theorem rename_of_put_put (u : Location) (cs : List UInt8) (hu : e.get? u = none) (hkt : k ≠ t)
    (hku : k ≠ u) (htu : t ≠ u) :
    ((e.put t (.file (Text.encode text))).put u (.file cs)).rename (temporaryOf p) p
      = .ok (e.put u (.file cs)) := by
  have ht := h.gone_ne_directory e p text k t
  have htroot := ne_nil_of_get?_eq_none e t h.gone
  have huroot := ne_nil_of_get?_eq_none e u hu
  have hu' : (e.put t (.file (Text.encode text))).get? u = none := by
    rw [get?_put e t u _ htroot, if_neg (Ne.symm htu), hu]
  have hspares := (spares_put e t _ ht).trans _ _ e _ _
    (spares_put _ u cs (ne_directory_of_none _ u hu'))
  have herase := erase_put_put e t u (.file (Text.encode text)) (.file cs) h.gone hu htu
  have hfile : ((e.put t (.file (Text.encode text))).put u (.file cs)).get? t
      = some (.file (Text.encode text)) := by
    rw [get?_put _ u t _ huroot, if_neg htu, get?_put_self e t _ htroot]
  have hkeep : (e.put u (.file cs)).get? k = some (.file (Text.encode text)) := by
    rw [get?_put e u k _ huroot, if_neg hku, h.get]
  -- Only now is the first of the two new entries taken away.
  have hrename := rename_of_inPlace e p text k t h _ _ hspares hfile
    (by rw [herase]; exact hkeep) hkt
  rwa [herase] at hrename

theorem sizeOf_of_inPlace : sizeOf e p = (Text.encode text).length :=
  sizeOf_of_stored e p _ (h.stored e p text k t)

end

/-- Writing outputs that are in place changes nothing. -/
theorem write_of_inPlace (e : Disk) (p q first second : String) (k t l u : Location)
    (hfirst : InPlace e p first k t) (hsecond : InPlace e q second l u)
    (hne : [k, t, l, u].Nodup) : write e (.text p) (.text q) first second
      = ⟨e, [wroteLine p (Text.encode first).length, wroteLine q (Text.encode second).length],
        .ok ()⟩ := by
  rcases (nodup_four_iff k t l u).mp hne with ⟨⟨hkt, -, hku⟩, ⟨htl, htu⟩, hlu⟩
  have hsecond' := hsecond.put e q second l u t (Text.encode first)
    (hfirst.gone_ne_directory e p first k t) htl htu
  have hfirst' := hfirst.put e p first k t u (Text.encode second)
    (hsecond.gone_ne_directory e q second l u) (Ne.symm hku) (Ne.symm htu)
  -- The first temporary file is taken away while the second is still there.
  have hrename := rename_of_put_put e p first k t hfirst u (Text.encode second) hsecond.gone hkt
    hku htu
  have hrename' := rename_of_put e q second l u hsecond hlu
  unfold write writeAll
  simp only [stageAll, stage_of_inPlace e p first k t hfirst,
    stage_of_inPlace _ q second l u hsecond', List.nil_append, List.singleton_append]
  rw [place_eq_ok_iff]
  refine ⟨_, hrename, hrename', ?_⟩
  rw [sizeOf_of_inPlace _ p first k t hfirst', sizeOf_of_inPlace e q second l u hsecond]

/-- What a write that succeeds tells, if its sites are four. -/
theorem log_of_write (d e : Disk) (p q first second : String) (log : List Log.Line)
    (hsites : (sites d p q).Nodup)
    (h : write d (.text p) (.text q) first second = ⟨e, log, .ok ()⟩) :
    log = [wroteLine p (Text.encode first).length, wroteLine q (Text.encode second).length] := by
  have hreplaced := replaced_of_write d e p q first second log hsites h
  rcases exists_of_write d e p q first second log h with
    ⟨d', d₃, k, l, hboth, -, hrename, -, hlog⟩
  rcases spares_rename d' d₃ _ p k _ hrename hboth.locate_first hboth.get_first
    with ⟨m, hm, hp, hmove, hget⟩
  -- The first output is told of when the second has not been moved yet, and still has its size.
  have hkl : k ≠ l := by
    rw [eq_destination_of_locate d' _ k hboth.locate_first,
      eq_destination_of_locate d' _ l hboth.locate_second,
      destination_congr d d' hboth.spares.here, destination_congr d d' hboth.spares.here]
    exact ((nodup_four_iff _ _ _ _).mp hsites).2.1.2
  have hstored : d₃.stored p = some (Text.encode first) := by
    rw [stored_of_locate d₃ p m (hmove.locate _ d' d₃ p m hm) hp, hget m, if_pos rfl, if_neg hkl]
  rw [hlog, sizeOf_of_stored d₃ p _ hstored,
    sizeOf_of_inPlace e q second _ _ hreplaced.second]

/-- A second write does what the first has done. -/
theorem write_again (d e : Disk) (p q first second : String) (log : List Log.Line)
    (hsites : (sites d p q).Nodup)
    (h : write d (.text p) (.text q) first second = ⟨e, log, .ok ()⟩) :
    write e (.text p) (.text q) first second = ⟨e, log, .ok ()⟩ := by
  have hreplaced := replaced_of_write d e p q first second log hsites h
  rw [log_of_write d e p q first second log hsites h]
  exact write_of_inPlace e p q first second _ _ _ _ hreplaced.first hreplaced.second hsites

end Output

end OpcodeForge
