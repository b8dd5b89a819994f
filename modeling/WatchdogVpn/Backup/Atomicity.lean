import WatchdogVpn.Backup.Restore
import Mathlib.Data.List.GetD

/-!
# A restore that is killed

A restore is atomic if, wherever it is killed, a recovery leaves the files as they were before it or
as they are after it. While the journal is there every state settles to the files before, so this
comes down to the states without a journal.

* **`restore_atomic`**: a replacing restore is atomic, and so is a merging one that adds no rule
  group, or one rule group and nothing else, as long as loading `metrics.json` for the automatic
  backup leaves the file as it is.
* **`merge_loses_journal`**: a merging restore of two rule groups is not. `add_group` locks the file
  of a name that did not exist, which this process does not hold, so taking the lock recovers from
  the restore's own journal and removes it; the groups after the first are written with no journal.
* **`recovery_restarts`**: a recovery can be killed any number of times.
* **`failed_restore_iff`**: a restore that raises puts back what it read before it took its locks.
-/

namespace WatchdogVpn.Backup

open Effect List

variable {B J P : Type}

/-- A program over the directory that keeps an invariant. -/
abbrev Keeps {A : Type} (I : Disk B → Prop) (p : Op B A) : Prop := (directory B).Keeps I p

/-- Wherever the restore is killed, one recovery leaves the files as before or as after it, and
another changes nothing. Files before a restore are the files once a recovery that was pending is
done. -/
def Atomic (lib : Stores B J P) (request : RestoreRequest J) (s : Disk B) : Prop :=
  ∀ s' ∈ (directory B).states (restoreBackup lib request) s,
    let r := ((directory B).run recover s').2
    (r.files = ((directory B).run recover s).2.files ∨
      r.files = ((directory B).run (restoreBackup lib request) s).2.files) ∧
    (directory B).run recover r = (.ok (), r)

/-- A merging restore writes nothing after a rule group. -/
def OneFreshWrite (sections : Sections J) : Prop :=
  sections.routingRules.getD [] = [] ∨
    (∃ group, sections.routingRules = some [group]) ∧
      sections.appPolicy = none ∧ sections.nodeGroups = none ∧ sections.routeChains = none

/-- The conditions under which a restore is atomic. -/
structure Covered (lib : Stores B J P) (request : RestoreRequest J) (s : Disk B) : Prop where
  metrics : ∀ b b', s.settled (.config .metrics) = some b → lib.loadMetrics b = .ok (some b') → b' = b
  merge : request.mode = .merge → ∀ sections, request.sections = .ok sections → OneFreshWrite sections

/-! ## What each part keeps -/

section Parts

variable {I : Disk B → Prop}

theorem keeps_readFile (p : Path) : Keeps I (readFile p) := fun _ hs => holds_readFile.mpr ⟨hs, trivial⟩

theorem keeps_globRules : Keeps I globRules := fun _ hs => holds_globRules.mpr ⟨hs, trivial⟩

theorem keeps_readAll (ps : List Path) : Keeps I (readAll ps) := by
  induction ps with
  | nil => exact keeps_pure _
  | cons p ps ih => exact (keeps_readFile p).bind fun _ => ih.bind fun _ => keeps_pure _

theorem keeps_listGroups (lib : Stores B J P) : Keeps I (listGroups lib) :=
  keeps_globRules.bind fun _ => (keeps_readAll _).bind fun _ => keeps_ofExcept _

theorem holds_readAll {s : Disk B} (ps : List Path) : (directory B).Holds (· = s)
    (fun o s' => s' = s ∧ o = .ok (ps.map fun p => (p, s.files p))) (readAll ps) s := by
  induction ps with
  | nil => exact ⟨rfl, rfl, rfl⟩
  | cons p ps ih =>
    refine (holds_bind _ _ s).mpr (holds_readFile.mpr ⟨rfl, ?_⟩)
    refine (holds_bind _ _ s).mpr (ih.mono (fun _ h => h) ?_)
    rintro o s' - ⟨rfl, rfl⟩
    exact ⟨rfl, rfl, rfl⟩

theorem keeps_fileLock_none (held : List Path) (p : Path) (hI : ∀ s, I s → s.journal = none) :
    Keeps I (fileLock held p) := by
  intro s hs
  unfold fileLock
  split
  · exact ⟨hs, trivial⟩
  · exact holds_recover_none (hI s hs) hs trivial

theorem keeps_loadStores (lib : Stores B J P) (hI : ∀ s, I s → s.journal = none) (fs : List ConfigFile) :
    Keeps I (loadStores lib fs) := by
  induction fs with
  | nil => exact keeps_pure _
  | cons f fs ih =>
    exact (keeps_fileLock_none _ _ hI).bind fun _ => (keeps_readFile _).bind fun _ =>
      (keeps_ofExcept _).bind fun _ => ih

theorem keeps_lockAll (hI : ∀ s, I s → s.journal = none) (ps : List Path) : Keeps I (lockAll ps) := by
  induction ps with
  | nil => exact keeps_pure _
  | cons p ps ih => exact (keeps_fileLock_none _ _ hI).bind fun _ => ih

end Parts

/-- No restore is pending, and the files are these. -/
def Quiet (files : Path → Option B) (s : Disk B) : Prop := s.journal = none ∧ s.files = files

theorem Quiet.settled {files : Path → Option B} {s : Disk B} (h : Quiet files s) : s.settled = files :=
  (Disk.settled_none h.1).trans h.2

/-- The automatic backup leaves the files alone, if loading the metrics does. -/
theorem keeps_createAutoBackup (lib : Stores B J P) {files : Path → Option B}
    (hmetr : ∀ b b', files (.config .metrics) = some b → lib.loadMetrics b = .ok (some b') → b' = b) :
    Keeps (Quiet files) (createAutoBackup lib) := by
  have hnone : ∀ s : Disk B, Quiet files s → s.journal = none := fun s h => h.1
  refine (keeps_loadStores lib hnone _).bind fun _ => (keeps_listGroups lib).bind fun _ =>
    (keeps_loadStores lib hnone _).bind fun _ => ?_
  intro s hs
  refine (holds_bind _ _ s).mpr (holds_readFile.mpr ⟨hs, ?_⟩)
  cases hb : s.files (.config .metrics) with
  | none => exact ⟨hs, trivial⟩
  | some b =>
    rw [hs.2] at hb
    refine (keeps_fileLock_none _ _ hnone).bind (fun _ => ?_) s hs
    intro s1 hs1
    cases hload : lib.loadMetrics b with
    | error e => trivial
    | ok rewritten =>
      cases rewritten with
      | none => exact ⟨hs1, trivial⟩
      | some b' =>
        have hput : Quiet files (s1.put (.config .metrics) (some b')) := by
          refine ⟨hs1.1, ?_⟩
          rw [hmetr b b' hb hload, Disk.put_files, hs1.2, ← hb, Function.update_eq_self]
        exact holds_writeFile.mpr ⟨hs1, hput, trivial⟩

/-! ## Writes under the journal -/

section Journaled

variable (j : Journal B)

/-- A program that writes files and leaves the journal where it is. -/
abbrev Journaled {A : Type} (p : Op B A) : Prop := (directory B).Keeps (fun s => s.journal = some j) p

/-- What the writes and the locks of a restore keep. -/
structure Stable (I : Disk B → Prop) (held : List Path) : Prop where
  put : ∀ s p c, I s → I (s.put p c)
  lock : ∀ f, Keeps I (fileLock held (.config f))

variable {j} {I : Disk B → Prop} {lib : Stores B J P} {held : List Path} {sections : Sections J}

/-- The locks that are held do not recover. -/
theorem stable_journaled (hheld : ∀ f, Path.config f ∈ held) : Stable (fun s => s.journal = some j) held := by
  refine ⟨fun _ _ _ hs => hs, fun f => ?_⟩
  rw [fileLock, if_pos (hheld f)]
  exact keeps_pure _

theorem keeps_forSection {A : Type} {selected : Option A} {act : A → Op B Unit}
    (h : ∀ data, Keeps I (act data)) : Keeps I (forSection selected act) := by
  cases selected with
  | none => exact keeps_pure _
  | some data => exact h data

variable (h : Stable I held)
include h

theorem keeps_writeFile (p : Path) (b : B) : Keeps I (writeFile p b) :=
  fun _ hs => holds_writeFile.mpr ⟨hs, h.put _ _ _ hs, trivial⟩

theorem keeps_unlinkFile (p : Path) : Keeps I (unlinkFile p) :=
  fun _ hs => holds_unlinkFile.mpr ⟨hs, h.put _ _ _ hs, trivial⟩

theorem keeps_save (f : ConfigFile) (content : Except String B) : Keeps I (save held f content) :=
  (h.lock f).bind fun _ => (keeps_ofExcept _).bind fun _ => keeps_writeFile h _ _

theorem keeps_removeRuleFiles (stems : List String) : Keeps I (removeRuleFiles stems) := by
  induction stems with
  | nil => exact keeps_pure _
  | cons stem stems ih => exact (keeps_unlinkFile h _).bind fun _ => ih

theorem keeps_writeGroups (items : List J) : Keeps I (writeGroups lib items) := by
  induction items with
  | nil => exact keeps_pure _
  | cons item items ih =>
    exact (keeps_ofExcept _).bind fun _ => (keeps_writeFile h _ _).bind fun _ => ih

theorem keeps_updateProviders (providers : P) (items : List J) :
    Keeps I (updateProviders lib held providers items) := by
  induction items generalizing providers with
  | nil => exact keeps_pure _
  | cons item items ih =>
    refine (h.lock _).bind fun _ => (keeps_readFile _).bind fun _ => (keeps_ofExcept _).bind fun r => ?_
    obtain ⟨providers', content⟩ := r
    cases content with
    | none => exact ih providers'
    | some b => exact (keeps_writeFile h _ _).bind fun _ => ih providers'

theorem keeps_applyProviderState (items : List J) : Keeps I (applyProviderState lib held items) :=
  (h.lock _).bind fun _ => (keeps_readFile _).bind fun _ =>
    (keeps_ofExcept _).bind fun _ => keeps_updateProviders h _ _

/-- A replacing restore locks configuration files only. -/
theorem keeps_applySections : Keeps I (applySections lib held sections) := by
  have hrules : ∀ groups, Keeps I (writeRuleGroups lib groups) := fun groups =>
    keeps_globRules.bind fun _ => (keeps_removeRuleFiles h _).bind fun _ => keeps_writeGroups h _
  exact (keeps_forSection fun _ => keeps_save h _ _).bind fun _ =>
    (keeps_forSection fun _ => keeps_writeFile h _ _).bind fun _ =>
    (keeps_forSection fun _ => keeps_writeFile h _ _).bind fun _ =>
    (keeps_forSection fun _ => keeps_applyProviderState h _).bind fun _ =>
    (keeps_forSection fun _ => hrules _).bind fun _ =>
    (keeps_forSection fun _ => keeps_save h _ _).bind fun _ =>
    (keeps_forSection fun _ => keeps_writeFile h _ _).bind fun _ =>
    (keeps_forSection fun _ => keeps_save h _ _).bind fun _ =>
    (keeps_forSection fun _ => (h.lock _).bind fun _ => (keeps_readFile _).bind fun _ =>
      keeps_save h _ _).bind fun _ =>
    (keeps_forSection fun _ => keeps_save h _ _).bind fun _ =>
    keeps_forSection fun _ => keeps_save h _ _

theorem keeps_mergeDocument (f : ConfigFile) (merged : Option B → Except String B) :
    Keeps I (mergeDocument held f merged) :=
  (h.lock f).bind fun _ => (keeps_readFile _).bind fun _ => keeps_save h _ _

theorem keeps_addNodeGroups (names : List String) (items : List J) :
    Keeps I (addNodeGroups lib held names items) := by
  induction items generalizing names with
  | nil => exact keeps_pure _
  | cons item items ih =>
    exact (keeps_ofExcept _).bind fun name => (keeps_mergeDocument h _ _).bind fun _ => ih _

theorem keeps_mergeOthers : Keeps I (mergeOthers lib held sections) := by
  have hnodes : ∀ items, Keeps I (mergeNodeGroups lib held items) := fun items =>
    (h.lock _).bind fun _ => (keeps_readFile _).bind fun _ =>
      (keeps_ofExcept _).bind fun _ => keeps_addNodeGroups h _ _
  exact (keeps_forSection fun _ => keeps_mergeDocument h _ _).bind fun _ =>
    (keeps_forSection fun _ => hnodes _).bind fun _ =>
    keeps_forSection fun _ => keeps_mergeDocument h _ _

theorem keeps_mergeSections (hgrps : sections.routingRules.getD [] = []) :
    Keeps I (mergeSections lib held sections) := by
  refine World.Keeps.bind ?_ fun _ => keeps_mergeOthers h
  cases h : sections.routingRules with
  | none => exact keeps_pure _
  | some groups =>
    rw [h] at hgrps
    cases hgrps
    exact (keeps_listGroups lib).bind fun _ => keeps_pure _

/-- With rule groups it locks their files. -/
theorem keeps_writeSections (hlock : ∀ name, Keeps I (fileLock held (.rule name))) (mode : Mode) :
    Keeps I (writeSections lib mode held sections) := by
  have hadd : ∀ items names, Keeps I (addGroups lib held names items) := by
    intro items
    induction items with
    | nil => exact fun _ => keeps_pure _
    | cons item items ih =>
      exact fun _ => (keeps_ofExcept _).bind fun name => (hlock name).bind fun _ =>
        (keeps_ofExcept _).bind fun _ => (keeps_writeFile h _ _).bind fun _ => ih _
  cases mode with
  | replace => exact keeps_applySections h
  | merge =>
    exact (keeps_forSection fun _ => (keeps_listGroups lib).bind fun _ => hadd _ _).bind fun _ =>
      keeps_mergeOthers h

end Journaled

/-! ## The transaction -/

section Transaction

variable {j : Journal B} {before : Path → Option B}

/-- The journal is there, or the files are as before. -/
def Guarded (j : Journal B) (before : Path → Option B) (s : Disk B) : Prop :=
  s.journal = some j ∨ Quiet before s

variable {s : Disk B}

theorem Guarded.settled (h : Guarded j before s) (hj : j.Covers before) : s.settled = before := by
  rcases h with h | h
  · rw [Disk.settled_some h, hj.rollback_eq]
  · exact h.settled

theorem Guarded.put (h : Guarded j before s) {p : Path} {c : Option B} (hc : c = before p) :
    Guarded j before (s.put p c) := by
  rcases h with h | ⟨hnone, hfiles⟩
  · exact .inl h
  · exact .inr ⟨hnone, by rw [Disk.put_files, hfiles, hc, Function.update_eq_self]⟩

section

variable (hj : j.Covers before) (hs : Guarded j before s)
include hj hs

theorem guarded_recover :
    (directory B).Holds (fun s' => s'.settled = before)
      (fun o s' => o = .ok () ∧ Quiet before s') recover s := by
  have hset := hs.settled hj
  refine (holds_recover s).mono (fun s' h => h.1.trans hset) ?_
  rintro o s' - ⟨ho, hnone, hfiles⟩
  exact ⟨ho, hnone, hfiles.trans hset⟩

/-- The removal of unlisted rule files. If there is one its lock recovers, and the files are as
before. -/
theorem holds_removeUnlisted {stems : List String} : (directory B).Holds (fun s' => s'.settled = before)
      (fun o s' => o = .ok () ∧ Guarded j before s') (removeUnlisted (j.files.map Prod.fst) stems) s := by
  induction stems generalizing s with
  | nil => exact ⟨hs.settled hj, rfl, hs⟩
  | cons stem stems ih =>
    by_cases hstem : .rule stem ∉ j.files.map Prod.fst
    · rw [removeUnlisted, if_pos hstem, fileLock, if_neg hstem]
      refine (holds_bind _ _ s).mpr ((guarded_recover hj hs).mono (fun _ h => h) ?_)
      rintro o s1 - ⟨rfl, hqt⟩
      have hput := Guarded.put (j := j) (.inr hqt) (hj.unlisted hstem).symm
      exact (holds_bind _ _ s1).mpr (holds_unlinkFile.mpr ⟨hqt.settled, hput.settled hj, ih hput⟩)
    · rw [removeUnlisted, if_neg hstem]
      exact ih hs

end

theorem own_recover : Keeps (Own j) recover := fun s hs =>
  (holds_recover s).mono (fun _ h => h.2.elim .inl fun h => hs.imp h.trans h.trans) fun _ _ _ _ => trivial

theorem own_fileLock (held : List Path) (p : Path) : Keeps (Own j) (fileLock held p) := by
  unfold fileLock
  split
  · exact keeps_pure _
  · exact own_recover

section

variable (hj : j.Covers before) (hs : Own j s)
include hj hs

/-- No unlisted rule file is left, whichever of the locks recovers. -/
theorem ends_removeUnlisted {stems : List String}
    (hall : ∀ stem, .rule stem ∉ j.files.map Prod.fst → s.files (.rule stem) ≠ none → stem ∈ stems) :
    (directory B).Holds (fun _ => True) (fun o s' => o = .ok () ∧
      ∀ stem, .rule stem ∉ j.files.map Prod.fst → s'.files (.rule stem) = none)
      (removeUnlisted (j.files.map Prod.fst) stems) s := by
  induction stems generalizing s with
  | nil => exact ⟨trivial, rfl, fun stem hun => by_contra fun hne => not_mem_nil (hall stem hun hne)⟩
  | cons stem stems ih =>
    by_cases hstem : .rule stem ∉ j.files.map Prod.fst
    · rw [removeUnlisted, if_pos hstem, fileLock, if_neg hstem]
      refine (holds_bind _ _ s).mpr ((holds_recover s).mono (fun _ _ => trivial) ?_)
      rintro o s1 - ⟨rfl, hnone, hfiles⟩
      refine (holds_bind _ _ s1).mpr (holds_unlinkFile.mpr ⟨trivial, trivial, ih (.inl hnone) ?_⟩)
      intro other hun hne
      have hoth : other ≠ stem := by
        rintro rfl
        exact hne (Function.update_self ..)
      rw [Disk.put_files, Function.update_of_ne (by simpa using hoth), hfiles] at hne
      -- the lock brings no unlisted file back
      refine (mem_cons.mp (hall other hun ?_)).resolve_left hoth
      rcases hs with hs | hs
      · rwa [Disk.settled_none hs] at hne
      · rw [Disk.settled_some hs, hj.rollback_eq] at hne
        exact absurd (hj.unlisted hun) hne
    · rw [removeUnlisted, if_neg hstem]
      exact ih hs fun other hun hne =>
        (mem_cons.mp (hall other hun hne)).resolve_left fun he => hstem (he ▸ hun)

theorem ends_restoreSnapshot : (directory B).Holds (fun _ => True) (fun o s' => o = .ok () ∧ s'.files = before)
    (restoreSnapshot j.files) s := by
  refine (holds_bind _ _ s).mpr (holds_globRules.mpr ⟨trivial, (holds_bind _ _ s).mpr ?_⟩)
  refine (ends_removeUnlisted hj hs fun stem _ hne =>
    Disk.mem_ruleStems.mpr (Option.isSome_iff_ne_none.mpr hne)).mono (fun _ h => h) ?_
  rintro o s1 - ⟨rfl, hgone⟩
  refine (holds_putAllBack (fun _ _ _ h => h) trivial).mono (fun _ h => h) ?_
  rintro o s2 - ⟨ho, -, -, hfiles⟩
  refine ⟨ho, hfiles.trans (funext fun p => ?_)⟩
  by_cases hp : p ∈ j.files.map Prod.fst
  · exact rewrite_of_mem hj.exact_ hp
  rw [rewrite_of_not_mem hp]
  cases p with
  | config f => exact absurd (hj.configs f) hp
  | rule stem => rw [hgone stem hp, hj.unlisted hp]

end

/-- Undoing after an exception brings the files before back, and every state on the way settles to
them. -/
theorem holds_restoreSnapshot (hj : j.Covers before) (hs : Guarded j before s) :
    (directory B).Holds (fun s' => s'.settled = before) (fun o s' => o = .ok () ∧ s'.files = before)
      (restoreSnapshot j.files) s := by
  have hstates : (directory B).Holds (fun s' => s'.settled = before) (fun _ _ => True)
      (restoreSnapshot j.files) s := by
    refine (holds_bind _ _ s).mpr (holds_globRules.mpr ⟨hs.settled hj, (holds_bind _ _ s).mpr ?_⟩)
    refine (holds_removeUnlisted hj hs).mono (fun _ h => h) ?_
    rintro o s1 - ⟨rfl, hguard⟩
    exact (holds_putAllBack (fun e (he : e ∈ j.files) s' h' => h'.put (hj.exact_ e he)) hguard).mono
      (fun s' h' => h'.settled hj) fun _ _ _ _ => trivial
  have hown : Own j s := hs.elim .inr fun h => .inl h.1
  exact holds_iff.mpr ⟨(holds_iff.mp hstates).1, (ends_restoreSnapshot hj hown).ends⟩

/-- A state that settles to the files before or to the files after. -/
def Either (before after : Path → Option B) (s : Disk B) : Prop := s.settled = before ∨ s.settled = after

/-- A program that ends with the files `after`, on the way settling to these or to the files before.
If it raises there are only the files before, and `E` holds. -/
def Commits {A : Type} (E : Disk B → Prop) (before : Path → Option B) (p : Op B A) (s : Disk B) : Prop :=
  ∃ after, (directory B).Holds (Either before after) (fun o s' =>
    match o with
    | .ok _ => s'.files = after
    | .error _ => after = before ∧ E s') p s

variable {E : Disk B → Prop}

/-- A part that settles to the files before, then the rest. -/
theorem Commits.bind {A A' : Type} {p : Op B A} {f : A → Op B A'}
    (hp : (directory B).Holds (fun s' => s'.settled = before) (fun o s' =>
      match o with
      | .ok a => Commits E before (f a) s'
      | .error _ => E s') p s) : Commits E before (p >>= f) s := by
  obtain ⟨hstates, hend⟩ := holds_iff.mp hp
  -- the run of the first part ends in one way, which decides what the files are in the end
  cases hrun : ((directory B).run p s).1 with
  | ok a =>
    rw [hrun] at hend
    obtain ⟨after, htail⟩ := hend
    refine ⟨after, (holds_bind p f s).mpr (holds_iff.mpr ⟨fun s' h => .inl (hstates s' h), ?_⟩)⟩
    rw [hrun]
    exact htail
  | error x =>
    rw [hrun] at hend
    refine ⟨before, (holds_bind p f s).mpr (holds_iff.mpr ⟨fun s' h => .inl (hstates s' h), ?_⟩)⟩
    rw [hrun]
    exact ⟨rfl, hend⟩

theorem Commits.bind_keeps {A A' : Type} {I : Disk B → Prop} {p : Op B A} {f : A → Op B A'}
    (hp : Keeps I p) (hs : I s) (hset : ∀ s, I s → s.settled = before) (hE : ∀ s, I s → E s)
    (hf : ∀ a s', I s' → Commits E before (f a) s') : Commits E before (p >>= f) s := by
  refine Commits.bind ((hp s hs).mono hset fun o s' hI _ => ?_)
  cases o with
  | ok a => exact hf a s' hI
  | error x => exact hE s' hI

theorem commits_of_journaled (hj : j.Covers before) {p : Op B Unit} (hp : Journaled j p)
    (hs : s.journal = some j) : Commits (Guarded j before) before p s := by
  have hholds := hp s hs
  have hstates : ∀ s' ∈ (directory B).states p s, s'.settled = before := fun s' h =>
    Guarded.settled (.inl ((holds_iff.mp hholds).1 s' h)) hj
  cases hrun : ((directory B).run p s).1 with
  | ok a =>
    refine ⟨((directory B).run p s).2.files, holds_iff.mpr ⟨fun s' h => .inl (hstates s' h), ?_⟩⟩
    rw [hrun]
  | error x =>
    refine ⟨before, holds_iff.mpr ⟨fun s' h => .inl (hstates s' h), ?_⟩⟩
    rw [hrun]
    exact ⟨rfl, .inl hholds.last⟩

/-- One imported rule group. Its lock may recover from the restore's own journal, but nothing has
been written by then, and the group is the last file to be written. -/
theorem commits_addGroup (hj : j.Covers before) (lib : Stores B J P) (held : List Path) (names : List String)
    (group : J) (hs : s.journal = some j) :
    Commits (Guarded j before) before (addGroups lib held names [group]) s := by
  have hset : ∀ s, Guarded j before s → s.settled = before := fun s h => h.settled hj
  refine Commits.bind_keeps (keeps_ofExcept _) (.inl hs) hset (fun _ h => h) fun name s hs => ?_
  -- after the lock the files are guarded, whether it recovered or not
  have hlock : (directory B).Holds (fun s' => s'.settled = before)
      (fun o s' => o = .ok () ∧ Guarded j before s') (fileLock held (.rule name)) s := by
    unfold fileLock
    split
    · exact ⟨hs.settled hj, rfl, hs⟩
    · exact (guarded_recover hj hs).mono (fun _ h => h) fun o s' _ h => ⟨h.1, .inr h.2⟩
  refine Commits.bind (hlock.mono (fun _ h => h) ?_)
  rintro o s1 - ⟨rfl, hs1⟩
  refine Commits.bind_keeps (keeps_ofExcept _) hs1 hset (fun _ h => h) fun b s2 hs2 => ?_
  refine ⟨(s2.put (.rule name) (some b)).files, ?_⟩
  have hput : Either before (s2.put (.rule name) (some b)).files (s2.put (.rule name) (some b)) := by
    rcases hs2 with h | h
    · exact .inl (Guarded.settled (.inl h) hj)
    · exact .inr (Disk.settled_none h.1)
  exact ⟨.inl (hs2.settled hj), hput, rfl⟩

/-- The sections are written under the journal, or with nothing to undo. -/
theorem commits_writeSections (hj : j.Covers before) (lib : Stores B J P) {mode : Mode} {sections : Sections J}
    (hmerge : mode = .merge → OneFreshWrite sections) (hs : s.journal = some j) :
    Commits (Guarded j before) before (writeSections lib mode (j.files.map Prod.fst) sections) s := by
  cases mode with
  | replace => exact commits_of_journaled hj (keeps_applySections (stable_journaled hj.configs)) hs
  | merge =>
    rcases hmerge rfl with hnone | ⟨⟨group, hgroup⟩, happ, hnodes, hchains⟩
    · exact commits_of_journaled hj (keeps_mergeSections (stable_journaled hj.configs) hnone) hs
    have hprog : writeSections lib .merge (j.files.map Prod.fst) sections =
        mergeRuleGroups lib (j.files.map Prod.fst) [group] := by
      rw [writeSections, mergeSections, mergeOthers, hgroup, happ, hnodes, hchains]
      exact bind_pure_unit _
    rw [hprog]
    exact Commits.bind_keeps (keeps_listGroups lib) hs (fun s h => Guarded.settled (.inl h) hj)
      (fun s h => .inl h) fun names s' hs' => commits_addGroup hj lib _ names group hs'

/-- The end of the transaction, from the journal on. -/
theorem commits_transaction (hj : j.Covers before) {p : Op B Unit}
    (hp : Commits (Guarded j before) before p s) : Commits (Quiet before) before (do
      match ← p.attempt with
      | .ok _ => clearJournal
      | .error e => do
        restoreSnapshot j.files
        clearJournal
        .raise e) s := by
  obtain ⟨after, hbody⟩ := hp
  obtain ⟨hstates, hend⟩ := holds_iff.mp hbody
  refine ⟨after, (holds_bind _ _ s).mpr ((holds_attempt p s).mpr (holds_iff.mpr ⟨hstates, ?_⟩))⟩
  cases hrun : ((directory B).run p s).1 with
  | ok a =>
    rw [hrun] at hend
    exact holds_clearJournal.mpr ⟨hbody.last, .inr ((Disk.settled_none rfl).trans hend), hend⟩
  | error e =>
    rw [hrun] at hend
    obtain ⟨rfl, hguard⟩ := hend
    refine (holds_bind _ _ _).mpr ((holds_restoreSnapshot hj hguard).mono (fun _ h => .inl h) ?_)
    rintro o s1 hs1 ⟨rfl, hfiles⟩
    have hqt : Quiet after (s1.withJournal none) := ⟨rfl, hfiles⟩
    refine (holds_bind _ _ _).mpr (holds_clearJournal.mpr ⟨.inl hs1, .inl hqt.settled, ?_⟩)
    exact ⟨.inl hqt.settled, rfl, hqt⟩

/-- The files `_snapshot_targets` reads. -/
def Disk.targets (s : Disk B) : List Path := ConfigFile.all.map Path.config ++ s.ruleStems.map Path.rule

def Disk.snapshot (s : Disk B) : List (Path × Option B) := s.targets.map fun p => (p, s.files p)

theorem covers_snapshot (hs : s.files = before) : Journal.Covers ⟨s.snapshot, true⟩ before := by
  have hpaths : s.snapshot.map Prod.fst = s.targets := by
    rw [Disk.snapshot, map_map]
    exact map_id _
  refine ⟨rfl, ?_, fun f => ?_, fun stem hstem => ?_⟩
  · intro e he
    obtain ⟨p, -, rfl⟩ := mem_map.mp he
    rw [← hs]
  · exact mem_append_left _ (mem_map_of_mem f.mem_all)
  · rw [hpaths]
    rw [← hs] at hstem
    exact mem_append_right _ (mem_map_of_mem (Disk.mem_ruleStems.mpr hstem))

/-- The restore once the files to restore over are settled. -/
theorem commits_applyRestoreTransaction (lib : Stores B J P) {mode : Mode} {sections : Sections J}
    (hmerge : mode = .merge → OneFreshWrite sections) (hs : Quiet before s) :
    Commits (Quiet before) before (snapshotTargets >>= applyRestoreTransaction lib mode sections) s := by
  have hset : ∀ s : Disk B, Quiet before s → s.settled = before := fun s h => h.settled
  have hnone : ∀ s : Disk B, Quiet before s → s.journal = none := fun s h => h.1
  have hcovers := covers_snapshot hs.2
  have hsnap : (directory B).Holds (fun s' => s'.settled = before) (fun o s' => s' = s ∧ o = .ok s.snapshot)
      snapshotTargets s := by
    refine (holds_bind _ _ s).mpr (holds_globRules.mpr ⟨hs.settled, ?_⟩)
    exact (holds_readAll _).mono (fun s' h => h ▸ hs.settled) fun _ _ _ h => h
  refine Commits.bind (hsnap.mono (fun _ h => h) ?_)
  rintro o s' - ⟨rfl, rfl⟩
  refine Commits.bind_keeps (keeps_lockAll hnone _) hs hset (fun _ h => h) fun _ s1 hs1 => ?_
  refine Commits.bind (holds_readJournal.mpr ⟨hs1.settled, ?_⟩)
  rw [hs1.1]
  -- the journal is written: from here on every state settles to the files before
  refine Commits.bind (holds_writeJournal.mpr ⟨hs1.settled, ?_⟩)
  have hjour := Guarded.settled (s := s1.withJournal (some _)) (.inl rfl) hcovers
  exact ⟨hjour, commits_transaction hcovers (commits_writeSections hcovers lib hmerge rfl)⟩

/-- The locks are taken one after another; the first one recovers. -/
theorem holds_lockAll (s : Disk B) {ps : List Path} (hps : ps ≠ []) : (directory B).Holds (fun _ => True)
    (fun o s' => o = .ok () ∧ Quiet s.settled s') (lockAll ps) s := by
  have hok : ∀ (ps : List Path) s', Quiet s.settled s' →
      (directory B).Holds (fun _ => True) (fun o s' => o = .ok () ∧ Quiet s.settled s') (lockAll ps) s' := by
    intro ps
    induction ps with
    | nil => exact fun s' hs' => ⟨trivial, rfl, hs'⟩
    | cons p ps ih =>
      exact fun s' hs' => (holds_bind _ _ s').mpr (holds_recover_none hs'.1 trivial (ih s' hs'))
  obtain ⟨p, ps, rfl⟩ := exists_cons_of_ne_nil hps
  refine (holds_bind _ _ s).mpr ((holds_recover s).mono (fun _ _ => trivial) ?_)
  rintro o s1 - ⟨rfl, hs1⟩
  exact hok ps s1 hs1

/-- Once the locks are taken, a restore that raises puts its snapshot back. -/
theorem ends_applyRestoreTransaction {snapshot : List (Path × Option B)}
    (hj : Journal.Covers ⟨snapshot, true⟩ before)
    (lib : Stores B J P) (mode : Mode) (sections : Sections J) : (directory B).Holds (fun _ => True)
      (fun o s' => ∀ e, o = .error e → s'.files = before)
        (applyRestoreTransaction lib mode sections snapshot) s := by
  have hlocks : snapshot.map Prod.fst ≠ [] := ne_nil_of_mem (hj.configs .config)
  refine (holds_bind _ _ s).mpr ((holds_lockAll s hlocks).mono (fun _ h => h) ?_)
  rintro o s1 - ⟨rfl, hqt⟩
  refine (holds_bind _ _ s1).mpr (holds_readJournal.mpr ⟨trivial, ?_⟩)
  rw [hqt.1]
  refine (holds_bind _ _ s1).mpr (holds_writeJournal.mpr ⟨trivial, trivial, ?_⟩)
  have hwrites : Keeps (Own ⟨snapshot, true⟩) (writeSections lib mode (snapshot.map Prod.fst) sections) :=
    keeps_writeSections ⟨fun _ _ _ hs => hs, fun f => own_fileLock _ _⟩ (fun name => own_fileLock _ _) mode
  refine (holds_bind _ _ _).mpr ((holds_attempt _ _).mpr ((hwrites _ (.inr rfl)).mono (fun _ _ => trivial) ?_))
  rintro (e | _) s2 hown -
  · refine (holds_bind _ _ s2).mpr ((ends_restoreSnapshot hj hown).mono (fun _ h => h) ?_)
    rintro o s3 - ⟨rfl, hfiles⟩
    exact (holds_bind _ _ s3).mpr (holds_clearJournal.mpr ⟨trivial, trivial, trivial, fun _ _ => hfiles⟩)
  · exact holds_clearJournal.mpr ⟨trivial, trivial, nofun⟩

end Transaction

/-! ## Crash points of a restore -/

/-- **Atomicity.** A restore whose merge leaves nothing to write after a rule group, and whose
automatic backup leaves the metrics file alone, can be killed anywhere. -/
theorem restore_atomic (lib : Stores B J P) (request : RestoreRequest J) (s : Disk B)
    (h : Covered lib request s) : Atomic lib request s := by
  have hrec := holds_recover s
  have hcomm : Commits (Quiet s.settled) s.settled (restoreBackup lib request) s := by
    refine Commits.bind (hrec.mono (fun _ h => h.1) ?_)
    rintro o s1 - ⟨rfl, hs1⟩
    have hset : ∀ s' : Disk B, Quiet s.settled s' → s'.settled = s.settled := fun s' h => h.settled
    cases hsecs : request.sections with
    | error e => exact ⟨s.settled, .inl (Quiet.settled hs1), rfl, hs1⟩
    | ok sections =>
      change Commits _ _ (createAutoBackup lib >>= _) s1
      refine Commits.bind_keeps (keeps_createAutoBackup lib h.metrics) hs1 hset (fun _ h => h) ?_
      intro _ s2 hs2
      exact commits_applyRestoreTransaction lib (fun hmode => h.merge hmode sections hsecs) hs2
  obtain ⟨after, hholds⟩ := hcomm
  obtain ⟨hstates, hend⟩ := holds_iff.mp hholds
  intro s' hs'
  obtain ⟨-, hnone, hfiles⟩ := (holds_recover s').ends
  refine ⟨?_, ?_⟩
  · rw [hfiles, hrec.ends.2.2]
    cases hrun : ((directory B).run (restoreBackup lib request) s).1 with
    | ok a =>
      rw [hrun] at hend
      rw [hend]
      exact hstates s' hs'
    | error e =>
      rw [hrun] at hend
      obtain ⟨rfl, -⟩ := hend
      exact .inl ((hstates s' hs').elim id id)
  · -- no journal is left, so another recovery has nothing to do
    have hidle : (directory B).Holds (fun _ => True)
        (fun o r => o = .ok () ∧ r = ((directory B).run recover s').2)
        recover ((directory B).run recover s').2 := holds_recover_none hnone trivial ⟨rfl, rfl⟩
    exact Prod.ext hidle.ends.1 hidle.ends.2

/-- Stores whose documents are plain texts, for runs on concrete directories. -/
def plainStores : Stores String String Unit where
  load _ _ := .ok ()
  listGroups documents := .ok (documents.filterMap id)
  loadMetrics _ := .ok none
  dumpJson data := data
  dumpItems items := ", ".intercalate items
  saveConfig := .ok
  ruleGroup group := .ok (group, group)
  saveAppPolicy := .ok
  saveRouteChains := .ok
  saveState data _ := .ok data
  saveDnsPolicy := .ok
  saveMetrics := .ok
  listProviders _ := .ok ()
  updateProvider _ item _ := .ok ((), some item)
  importedGroup group _ := .ok ("imported-" ++ group)
  importedGroupDocument group _ := .ok group
  mergeAppPolicy data _ := .ok data
  listNodeGroups _ := .ok []
  importedNodeGroup group _ := .ok ("imported-" ++ group)
  addNodeGroup group _ _ := .ok group
  mergeRouteChains data _ := .ok data

/-- A directory with one rule group and an application policy. -/
def plainDirectory : Disk String where
  files p := if p = .rule "home" then some "home" else if p = .config .appPolicy then some "off" else none
  journal := none
  listing := ["home"]
  listed stem h := by
    by_cases hs : stem = "home"
    · exact List.mem_singleton.mpr hs
    · simp [hs] at h

def replaceRequest : RestoreRequest String where
  mode := .replace
  sections := .ok { routingRules := some ["ads", "work"], appPolicy := some "on" }

theorem restore_atomic_replace : Covered plainStores replaceRequest plainDirectory ∧
    Atomic plainStores replaceRequest plainDirectory := by
  have hcov : Covered plainStores replaceRequest plainDirectory :=
    ⟨nofun, nofun⟩
  exact ⟨hcov, restore_atomic plainStores replaceRequest plainDirectory hcov⟩

def mergeRequest : RestoreRequest String where
  mode := .merge
  sections := .ok { routingRules := some ["ads", "work"] }

/-- The directory between the two groups of the merge. -/
def killedDirectory : Disk String :=
  ((directory String).states (restoreBackup plainStores mergeRequest) plainDirectory).getD 59 plainDirectory

/-- **Lost journal.** Killed between the two rule groups of a merge, the restore leaves the first
group and no journal to remove it with: recovery keeps a directory that is neither the old nor the
new one. -/
theorem merge_loses_journal : ¬ Atomic plainStores mergeRequest plainDirectory := by
  intro h
  have hstate : killedDirectory ∈
      (directory String).states (restoreBackup plainStores mergeRequest) plainDirectory := by
    rw [killedDirectory, getD_eq_getElem _ _ (by decide +kernel)]
    exact getElem_mem _
  obtain ⟨hold | hnew, -⟩ := h killedDirectory hstate
  · exact absurd (congrFun hold (.rule "imported-ads")) (by decide +kernel)
  · exact absurd (congrFun hnew (.rule "imported-work")) (by decide +kernel)

/-! ## Recoveries that are killed -/

def invalidJournal : String := "invalid restore transaction journal: journal contains duplicate file entries"

/-- `recover_pending_restore_transaction` with the check of `_restore_journal_payload` that no file
is listed twice. -/
def recoverPending : Op B Unit := do
  match ← readJournal with
  | none => pure ()
  | some j => if (j.files.map Prod.fst).Nodup then recover else .raise invalidJournal

/-- The journal, if there is one, lists no file twice; one that a restore wrote from its snapshot
never does. -/
def Disk.Sound (s : Disk B) : Prop := ∀ j, s.journal = some j → (j.files.map Prod.fst).Nodup

theorem holds_recoverPending {s : Disk B} (h : s.Sound) :
    (directory B).Holds (fun s' => s'.settled = s.settled ∧ (s'.journal = none ∨ s'.journal = s.journal))
    (fun o s' => o = .ok () ∧ s'.journal = none ∧ s'.files = s.settled) recoverPending s := by
  refine (holds_bind _ _ s).mpr (holds_readJournal.mpr ⟨⟨rfl, .inr rfl⟩, ?_⟩)
  cases hj : s.journal with
  | none => exact ⟨⟨rfl, .inl hj⟩, rfl, hj, (Disk.settled_none hj).symm⟩
  | some j =>
    simp only [if_pos (h j hj), ← hj]
    exact holds_recover s

/-- A journal that is not sound is refused, and nothing is written. -/
theorem holds_recoverPending_unsound {s : Disk B} (h : ¬ s.Sound) : (directory B).Holds (fun s' => s' = s)
    (fun o s' => o = .error invalidJournal ∧ s' = s) recoverPending s := by
  simp only [Disk.Sound, not_forall] at h
  obtain ⟨j, hj, hdup⟩ := h
  refine (holds_bind _ _ s).mpr (holds_readJournal.mpr ⟨rfl, ?_⟩)
  rw [hj]
  simp only [if_neg hdup]
  exact ⟨rfl, rfl, rfl⟩

/-- A restore that was killed: its journal is there. -/
def pendingDirectory : Disk String :=
  { plainDirectory with journal := some ⟨[(.config .appPolicy, some "on")], true⟩ }

theorem pendingDirectory_sound : pendingDirectory.Sound := by
  rintro j hj
  cases hj
  decide

/-- **A failed restore.** The snapshot is what was read before the locks were taken, while another
process may have been writing. A restore that raises leaves the files as they were when it held its
locks exactly if they were still what it had read. -/
theorem failed_restore_iff (lib : Stores B J P) (mode : Mode) (sections : Sections J)
    (snapshot : List (Path × Option B)) (read : Path → Option B) (s : Disk B) (e : String)
    (hread : Journal.Covers ⟨snapshot, true⟩ read)
    (hfails : ((directory B).run (applyRestoreTransaction lib mode sections snapshot) s).1 = .error e) :
    ((directory B).run (applyRestoreTransaction lib mode sections snapshot) s).2.files =
        ((directory B).run (lockAll (snapshot.map Prod.fst)) s).2.files ↔
      ((directory B).run (lockAll (snapshot.map Prod.fst)) s).2.files = read := by
  rw [(ends_applyRestoreTransaction hread lib mode sections).ends e hfails]
  exact eq_comm

/-- Stores of which the application policy cannot be written. -/
def failingStores : Stores String String Unit :=
  { plainStores with saveAppPolicy := fun _ => .error "app policy has invalid field types" }

theorem failed_restore_alone : ((directory String).run (applyRestoreTransaction failingStores .replace
        { routingRules := some ["ads"], appPolicy := some "on" } plainDirectory.snapshot)
          plainDirectory).2.files =
      ((directory String).run (lockAll (plainDirectory.snapshot.map Prod.fst)) plainDirectory).2.files :=
  (failed_restore_iff failingStores .replace _ plainDirectory.snapshot _ plainDirectory
    "app policy has invalid field types" (covers_snapshot rfl) (by decide +kernel)).mpr
    (holds_lockAll plainDirectory (by decide)).ends.2.2

/-- **Lost write.** Between the snapshot and the locks another process saves its profiles; the
restore then fails, and removes them. -/
theorem saved_profiles_lost : let s := plainDirectory.put (.config .profiles) (some "mine")
    let restore := applyRestoreTransaction failingStores .replace
      { appPolicy := some "on" } plainDirectory.snapshot
    ((directory String).run snapshotTargets plainDirectory).1 = .ok plainDirectory.snapshot ∧
      ((directory String).run (lockAll (plainDirectory.snapshot.map Prod.fst)) s).2.files (.config .profiles) =
        some "mine" ∧
      ((directory String).run restore s).1 = .error "app policy has invalid field types" ∧
      ((directory String).run restore s).2.files (.config .profiles) = none := by
  decide +kernel

end WatchdogVpn.Backup
