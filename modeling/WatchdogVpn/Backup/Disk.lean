import WatchdogVpn.Lib.World
import Mathlib.Data.List.Sort

/-!
# The configuration directory and its restore journal

The files a restore can write, the journal with which it undoes itself, and the recovery that the
next process, or the next lock taken, runs from it (`config/persistence.py`). A file is written by
an atomic replacement, so a killed process leaves every file with its old or its new content; the
world answers each request in one way because no other process is active.

* `recover` is `recover_pending_restore_transaction`, `fileLock` is `file_lock`: a lock that is not
  held yet first runs the recovery.
* `Disk.settled` is what the recovery makes of the files. **`holds_recover`**: it gets there from
  every state it passes through itself, so a recovery that is killed can be run again.

Contents are an arbitrary type; the lock files and the text of the journal are not modelled.
-/

namespace WatchdogVpn.Backup

open Effect List

/-- The files of the configuration directory that a backup has a section for. -/
inductive ConfigFile
  | config
  | profiles
  | providers
  | appPolicy
  | nodeGroups
  | chains
  | state
  | dnsPolicy
  | metrics
deriving DecidableEq

/-- The files in the order of `_snapshot_targets`. -/
def ConfigFile.all : List ConfigFile :=
  [.config, .profiles, .providers, .appPolicy, .nodeGroups, .chains, .state, .dnsPolicy, .metrics]

theorem ConfigFile.mem_all (f : ConfigFile) : f ∈ all := by cases f <;> decide

/-- A configuration file, or the document of a rule group in the `rules` directory. -/
inductive Path
  | config (file : ConfigFile)
  | rule (stem : String)
deriving DecidableEq

/-- What the journal of a restore holds: the files to put back, `none` for one that did not exist,
and whether rule files that it does not list are to be removed. -/
structure Journal (B : Type) where
  files : List (Path × Option B)
  pruneUnlistedRuleFiles : Bool

/-- The directory. `listing` names every rule file that exists. -/
structure Disk (B : Type) where
  files : Path → Option B
  journal : Option (Journal B)
  listing : List String
  listed : ∀ stem, (files (.rule stem)).isSome → stem ∈ listing

variable {B : Type}

namespace Disk

/-- The listing once a path has been written. -/
def listingWith (listing : List String) : Path → List String
  | .config _ => listing
  | .rule stem => listing.insert stem

def put (s : Disk B) (p : Path) (c : Option B) : Disk B where
  files := Function.update s.files p c
  journal := s.journal
  listing := listingWith s.listing p
  listed := by
    intro stem h
    by_cases hp : Path.rule stem = p
    · rw [← hp]
      exact mem_insert_self
    · rw [Function.update_of_ne hp] at h
      have hmem := s.listed stem h
      cases p with
      | config f => exact hmem
      | rule other => exact mem_insert_of_mem hmem

def withJournal (s : Disk B) (j : Option (Journal B)) : Disk B := { s with journal := j }

@[simp] theorem put_files (s : Disk B) (p c) : (s.put p c).files = Function.update s.files p c := rfl

/-- `sorted(rules_dir.glob("*.json"))`, by stem. -/
def ruleStems (s : Disk B) : List String :=
  (s.listing.filter fun stem => (s.files (.rule stem)).isSome).insertionSort
    fun a b => a ++ ".json" ≤ b ++ ".json"

theorem mem_ruleStems {s : Disk B} {stem : String} : stem ∈ s.ruleStems ↔ (s.files (.rule stem)).isSome := by
  rw [ruleStems, mem_insertionSort, mem_filter]
  exact ⟨fun h => h.2, fun h => ⟨s.listed stem h, h⟩⟩

end Disk

/-! ## Requests -/

inductive Request (B : Type)
  | journal
  | glob
  | read (p : Path)
  | write (p : Path) (b : B)
  | unlink (p : Path)
  | writeJournal (j : Journal B)
  | clearJournal

abbrev Request.Answer : Request B → Type
  | .journal => Option (Journal B)
  | .glob => List String
  | .read _ => Option B
  | _ => Unit

/-- A program over the directory, with the texts of its exceptions. -/
abbrev Op (B α) := Prog (Request.Answer (B := B)) String α

/-- Each request is answered from the state; writes, removals and the journal change it. -/
def directory (B : Type) : World (Request.Answer (B := B)) (Disk B) where
  answer s
    | .journal => s.journal
    | .glob => s.ruleStems
    | .read p => s.files p
    | .write _ _ | .unlink _ | .writeJournal _ | .clearJournal => ()
  next s
    | .journal | .glob | .read _ => s
    | .write p b => s.put p (some b)
    | .unlink p => s.put p none
    | .writeJournal j => s.withJournal (some j)
    | .clearJournal => s.withJournal none

def readJournal : Op B (Option (Journal B)) := Prog.ask Request.journal

def globRules : Op B (List String) := Prog.ask Request.glob

def readFile (p : Path) : Op B (Option B) := Prog.ask (Request.read p)

def writeFile (p : Path) (b : B) : Op B Unit := Prog.ask (Request.write p b)

def unlinkFile (p : Path) : Op B Unit := Prog.ask (Request.unlink p)

def writeJournal (j : Journal B) : Op B Unit := Prog.ask (Request.writeJournal j)

/-- `clear_restore_transaction_journal`: a journal that is not there is passed. -/
def clearJournal : Op B Unit := Prog.ask Request.clearJournal

variable {j : Journal B}

section Requests

variable {I : Disk B → Prop} {s : Disk B}

theorem holds_readJournal {Q : Except String (Option (Journal B)) → Disk B → Prop} :
    (directory B).Holds I Q readJournal s ↔ I s ∧ Q (.ok s.journal) s :=
  ⟨fun h => ⟨h.1, h.2.2⟩, fun h => ⟨h.1, h.1, h.2⟩⟩

theorem holds_globRules {Q : Except String (List String) → Disk B → Prop} :
    (directory B).Holds I Q globRules s ↔ I s ∧ Q (.ok s.ruleStems) s :=
  ⟨fun h => ⟨h.1, h.2.2⟩, fun h => ⟨h.1, h.1, h.2⟩⟩

theorem holds_readFile {Q : Except String (Option B) → Disk B → Prop} {p : Path} :
    (directory B).Holds I Q (readFile p) s ↔ I s ∧ Q (.ok (s.files p)) s :=
  ⟨fun h => ⟨h.1, h.2.2⟩, fun h => ⟨h.1, h.1, h.2⟩⟩

variable {Q : Except String Unit → Disk B → Prop}

theorem holds_writeFile {p : Path} {b : B} : (directory B).Holds I Q (writeFile p b) s ↔
      I s ∧ I (s.put p (some b)) ∧ Q (.ok ()) (s.put p (some b)) := Iff.rfl

theorem holds_unlinkFile {p : Path} :
    (directory B).Holds I Q (unlinkFile p) s ↔ I s ∧ I (s.put p none) ∧ Q (.ok ()) (s.put p none) := Iff.rfl

theorem holds_writeJournal : (directory B).Holds I Q (writeJournal j) s ↔
      I s ∧ I (s.withJournal (some j)) ∧ Q (.ok ()) (s.withJournal (some j)) := Iff.rfl

theorem holds_clearJournal : (directory B).Holds I Q clearJournal s ↔
      I s ∧ I (s.withJournal none) ∧ Q (.ok ()) (s.withJournal none) := Iff.rfl

end Requests

/-! ## Recovery and locks -/

/-- Put one file of a journal or a snapshot back. -/
def putBack (p : Path) : Option B → Op B Unit
  | none => unlinkFile p
  | some b => writeFile p b

def putAllBack : List (Path × Option B) → Op B Unit
  | [] => pure ()
  | e :: files => do
    putBack e.1 e.2
    putAllBack files

/-- Remove the rule files that are not among the listed ones. -/
def pruneUnlisted (listed : List Path) : List String → Op B Unit
  | [] => pure ()
  | stem :: stems => do
    if .rule stem ∉ listed then unlinkFile (.rule stem)
    pruneUnlisted listed stems

/-- `recover_pending_restore_transaction`. -/
def recover : Op B Unit := do
  match ← readJournal with
  | none => pure ()
  | some j => do
    if j.pruneUnlistedRuleFiles then
      pruneUnlisted (j.files.map Prod.fst) (← globRules)
    putAllBack j.files
    clearJournal

/-- Taking a lock: one that this process holds already is passed, any other recovers first. -/
def fileLock (held : List Path) (p : Path) : Op B Unit := if p ∈ held then pure () else recover

/-! ## What the recovery makes of the files -/

namespace Journal

/-- Rule files the journal does not list are gone, if it says so. -/
def pruned (j : Journal B) (files : Path → Option B) : Path → Option B
  | .config f => files (.config f)
  | .rule stem => if j.pruneUnlistedRuleFiles ∧
      .rule stem ∉ j.files.map Prod.fst then none else files (.rule stem)

/-- The files once the journal has been put back. -/
def rollback (j : Journal B) (files : Path → Option B) : Path → Option B := rewrite j.files (j.pruned files)

/-- A journal of all files as `before` has them. -/
structure Covers (j : Journal B) (before : Path → Option B) : Prop where
  prunes : j.pruneUnlistedRuleFiles = true
  exact_ : ∀ e ∈ j.files, e.2 = before e.1
  configs : ∀ f, .config f ∈ j.files.map Prod.fst
  rules : ∀ stem, (before (.rule stem)).isSome → .rule stem ∈ j.files.map Prod.fst

section

variable {before : Path → Option B} (h : j.Covers before)
include h

theorem Covers.unlisted {stem : String} (hun : .rule stem ∉ j.files.map Prod.fst) :
    before (.rule stem) = none := by
  by_contra hne
  exact hun (h.rules stem (Option.isSome_iff_ne_none.mpr hne))

theorem Covers.rollback_eq (files : Path → Option B) : j.rollback files = before := by
  funext p
  by_cases hp : p ∈ j.files.map Prod.fst
  · exact rewrite_of_mem h.exact_ hp
  rw [rollback, rewrite_of_not_mem hp]
  cases p with
  | config f => exact absurd (h.configs f) hp
  | rule stem => rw [pruned, if_pos ⟨h.prunes, hp⟩, h.unlisted hp]

end

end Journal

/-- The files as a recovery leaves them. -/
def Disk.settled (s : Disk B) : Path → Option B :=
  match s.journal with
  | none => s.files
  | some j => j.rollback s.files

theorem Disk.settled_none {s : Disk B} (h : s.journal = none) : s.settled = s.files := by
  rw [settled, h]

theorem Disk.settled_some {s : Disk B} (h : s.journal = some j) : s.settled = j.rollback s.files := by
  rw [settled, h]

section Recovery

variable {I : Disk B → Prop} {s : Disk B}

theorem holds_putBack {Q : Except String Unit → Disk B → Prop} {p : Path} {c : Option B} :
    (directory B).Holds I Q (putBack p c) s ↔ I s ∧ I (s.put p c) ∧ Q (.ok ()) (s.put p c) := by
  cases c <;> exact Iff.rfl

/-- Putting back keeps what each of its writes keeps. -/
theorem holds_putAllBack {files : List (Path × Option B)}
    (hstep : ∀ e ∈ files, ∀ s, I s → I (s.put e.1 e.2)) (hs : I s) :
    (directory B).Holds I (fun o s' => o = .ok () ∧ I s' ∧ s'.journal = s.journal ∧
      s'.files = rewrite files s.files) (putAllBack files) s := by
  induction files generalizing s with
  | nil => exact ⟨hs, rfl, hs, rfl, rfl⟩
  | cons e files ih =>
    have hput : I (s.put e.1 e.2) := hstep e mem_cons_self s hs
    refine (holds_bind _ _ s).mpr (holds_putBack.mpr ⟨hs, hput, ?_⟩)
    exact ih (fun e' he' => hstep e' (mem_cons_of_mem _ he')) hput

/-- The same for the removal of the files that are not listed, none of which is left. -/
theorem holds_pruneUnlisted {listed : List Path} {stems : List String}
    (hstep : ∀ stem, .rule stem ∉ listed → ∀ s, I s → I (s.put (.rule stem) none)) (hs : I s) :
    (directory B).Holds I (fun o s' => o = .ok () ∧ I s' ∧ (∀ p, s.files p = none → s'.files p = none) ∧
      ∀ stem ∈ stems, .rule stem ∉ listed → s'.files (.rule stem) = none) (pruneUnlisted listed stems) s := by
  induction stems generalizing s with
  | nil => exact ⟨hs, rfl, hs, fun p h => h, nofun⟩
  | cons stem stems ih =>
    by_cases hlist : .rule stem ∉ listed
    · have hput : I (s.put (.rule stem) none) := hstep stem hlist s hs
      rw [pruneUnlisted, if_pos hlist]
      refine (holds_bind _ _ s).mpr ⟨hs, hput, ?_⟩
      refine (ih hput).mono (fun _ h => h) ?_
      rintro o s' - ⟨ho, hI, hkeep, hgone⟩
      have hself : s'.files (.rule stem) = none := hkeep _ (Function.update_self ..)
      refine ⟨ho, hI, fun p hp => ?_, forall_mem_cons.mpr ⟨fun _ => hself, hgone⟩⟩
      by_cases hps : p = .rule stem
      · rw [hps]
        exact hself
      · exact hkeep p ((Function.update_of_ne hps ..).trans hp)
    · rw [pruneUnlisted, if_neg hlist]
      refine (ih hs).mono (fun _ h => h) ?_
      rintro o s' - ⟨ho, hI, hkeep, hgone⟩
      exact ⟨ho, hI, hkeep, forall_mem_cons.mpr ⟨fun hun => absurd hun hlist, hgone⟩⟩

/-- The journal is there and would make the same of the files as of `s`. -/
def Halfway (j : Journal B) (s s' : Disk B) : Prop :=
  s'.journal = some j ∧ j.rollback s'.files = j.rollback s.files

theorem Halfway.put {s s' : Disk B} (h : Halfway j s s') {p : Path} {c : Option B}
    (hp : p ∈ j.files.map Prod.fst ∨ ∃ stem, p = .rule stem ∧ p ∉ j.files.map Prod.fst ∧
      j.pruneUnlistedRuleFiles = true) : Halfway j s (s'.put p c) := by
  refine ⟨h.1, Eq.trans (funext fun q => rewrite_congr ?_) h.2⟩
  by_cases hq : q = p
  · subst hq
    rcases hp with hp | ⟨stem, rfl, hun, hprune⟩
    · exact .inl hp
    · exact .inr (by rw [Journal.pruned, Journal.pruned, if_pos ⟨hprune, hun⟩, if_pos ⟨hprune, hun⟩])
  · have hsame : (s'.put p c).files q = s'.files q := Function.update_of_ne hq ..
    cases q with
    | config f => exact .inr hsame
    | rule stem => exact .inr (by rw [Journal.pruned, Journal.pruned, hsame])

/-- No journal is there but this one. -/
def Own (j : Journal B) (s : Disk B) : Prop := s.journal = none ∨ s.journal = some j

theorem Halfway.settled {s' : Disk B} (h : Halfway j s s') : s'.settled = j.rollback s.files ∧ Own j s' :=
  ⟨by rw [Disk.settled_some h.1, h.2], .inr h.1⟩

/-- The part of the recovery that puts the journal's files back and removes it. -/
theorem holds_putBack_clear {s1 : Disk B} (h : Halfway j s s1)
    (hgone : j.pruneUnlistedRuleFiles = true → ∀ stem, .rule stem ∉ j.files.map Prod.fst →
      s1.files (.rule stem) = none) :
    (directory B).Holds (fun s' => s'.settled = j.rollback s.files ∧ Own j s')
      (fun o s' => o = .ok () ∧ s'.journal = none ∧ s'.files = j.rollback s.files)
      (putAllBack j.files >>= fun _ => clearJournal) s1 := by
  have hback := holds_putAllBack (fun e (he : e ∈ j.files) s' h' => h'.put (.inl (mem_map_of_mem he))) h
  refine (holds_bind _ _ s1).mpr (hback.mono (fun _ h' => h'.settled) ?_)
  rintro o s2 - ⟨rfl, h2, -, hfiles⟩
  -- nothing is left to prune, so what has been put back is what the journal makes of it
  have hpruned : j.pruned s1.files = s1.files := by
    funext p
    cases p with
    | config f => rfl
    | rule stem =>
      rw [Journal.pruned]
      split
      · rename_i hc
        rw [hgone hc.1 stem hc.2]
      · rfl
  have hend : s2.files = j.rollback s.files := by
    rw [hfiles, ← h.2, Journal.rollback, hpruned]
  exact holds_clearJournal.mpr ⟨h2.settled, ⟨(Disk.settled_none rfl).trans hend, .inl rfl⟩, rfl, rfl, hend⟩

theorem holds_recover_none {Q : Except String Unit → Disk B → Prop} (hj : s.journal = none) (hs : I s)
    (hQ : Q (.ok ()) s) : (directory B).Holds I Q recover s := by
  refine (holds_bind _ _ s).mpr (holds_readJournal.mpr ⟨hs, ?_⟩)
  rw [hj]
  exact ⟨hs, hQ⟩

/-- **Recovery.** It settles the files and removes the journal, and every state on the way settles
to the same files. -/
theorem holds_recover (s : Disk B) :
    (directory B).Holds (fun s' => s'.settled = s.settled ∧ (s'.journal = none ∨ s'.journal = s.journal))
    (fun o s' => o = .ok () ∧ s'.journal = none ∧ s'.files = s.settled) recover s := by
  cases hj : s.journal with
  | none => exact holds_recover_none hj ⟨rfl, .inl hj⟩ ⟨rfl, hj, (Disk.settled_none hj).symm⟩
  | some j =>
    refine (holds_bind _ _ s).mpr (holds_readJournal.mpr ⟨⟨rfl, .inr hj⟩, ?_⟩)
    rw [hj]
    have hstart : Halfway j s s := ⟨hj, rfl⟩
    rw [Disk.settled_some hj]
    by_cases hprune : j.pruneUnlistedRuleFiles = true
    · simp only [hprune]
      refine (holds_bind _ _ s).mpr (holds_globRules.mpr ⟨hstart.settled, ?_⟩)
      have hstep : ∀ stem, .rule stem ∉ j.files.map Prod.fst → ∀ s', Halfway j s s' →
          Halfway j s (s'.put (.rule stem) none) :=
        fun stem hun s' h' => h'.put (.inr ⟨stem, rfl, hun, hprune⟩)
      refine (holds_bind _ _ s).mpr ((holds_pruneUnlisted hstep hstart).mono (fun _ h' => h'.settled) ?_)
      rintro o s1 - ⟨rfl, h1, hkeep, hgone⟩
      refine holds_putBack_clear h1 fun _ stem hun => ?_
      by_cases hstem : stem ∈ s.ruleStems
      · exact hgone stem hstem hun
      refine hkeep _ ?_
      rw [Disk.mem_ruleStems] at hstem
      simpa using hstem
    · simp only [hprune]
      exact holds_putBack_clear hstart fun h => absurd h hprune

end Recovery

end WatchdogVpn.Backup
