import WatchdogVpn.Backup.Disk

/-!
# Restoring a backup

`BackupManager.restore_backup`: an automatic backup of the directory as it is, a snapshot of every
file a restore can write, the locks on them, the journal, and then the sections of the backup, put
in place of what is there (`replace`) or added to it (`merge`). An exception puts the snapshot back.

The stores come in through `Stores`: what each reads from the content of its file and what content
it writes, with the exceptions it can raise. What a backup holds is an arbitrary type of JSON
values.
-/

namespace WatchdogVpn.Backup

open Effect

inductive Mode
  | replace
  | merge
deriving DecidableEq

/-- The sections of a parsed backup that were selected; `backup-policy`, `metadata` and
`diagnostics` are never written back. A list is the `items` or `groups` of its section. -/
structure Sections (J : Type) where
  settings : Option J := none
  profiles : Option J := none
  providers : Option J := none
  providerState : Option (List J) := none
  routingRules : Option (List J) := none
  appPolicy : Option J := none
  nodeGroups : Option (List J) := none
  routeChains : Option J := none
  selectionState : Option J := none
  dnsPolicy : Option J := none
  metricsPolicy : Option J := none

/-- The stores, as functions of the contents of their files. `P` is the providers that
`_apply_provider_state` reads once and patches. -/
structure Stores (B J P : Type) where
  /-- The exception that loading the store of a file raises, if any. -/
  load : ConfigFile → Option B → Except String Unit
  /-- The names of the rule groups in the documents, in order. -/
  listGroups : List (Option B) → Except String (List String)
  /-- `MetricsStore.load`, with the document it writes back if counters had to be dropped. -/
  loadMetrics : B → Except String (Option B)
  -- what a replacing restore writes
  dumpJson : J → B
  dumpItems : List J → B
  saveConfig : J → Except String B
  ruleGroup : J → Except String (String × B)
  saveAppPolicy : J → Except String B
  saveRouteChains : J → Except String B
  /-- `_selection_state_document`, which looks the active profile up in `profiles.json`. -/
  saveState : J → Option B → Except String B
  saveDnsPolicy : J → Except String B
  saveMetrics : J → Except String B
  listProviders : Option B → Except String P
  /-- One item of the provider state: the new content of `providers.json`, unless the provider is
  unknown. -/
  updateProvider : P → J → Option B → Except String (P × Option B)
  -- what a merging restore writes
  /-- The name a rule group is imported under, given the names that are taken. -/
  importedGroup : J → List String → Except String String
  importedGroupDocument : J → String → Except String B
  mergeAppPolicy : J → Option B → Except String B
  listNodeGroups : Option B → Except String (List String)
  importedNodeGroup : J → List String → Except String String
  addNodeGroup : J → String → Option B → Except String B
  mergeRouteChains : J → Option B → Except String B

/-- A request for a restore: what `inspect_backup` and the checks of the selection, the mode and the
confirmation give for it, and the mode. -/
structure RestoreRequest (J : Type) where
  mode : Mode
  sections : Except String (Sections J)

variable {B J P : Type} (lib : Stores B J P)

/-! ## The automatic backup -/

def loadStores : List ConfigFile → Op B Unit
  | [] => pure ()
  | f :: fs => do
    fileLock [] (.config f)
    Prog.ofExcept (lib.load f (← readFile (.config f)))
    loadStores fs

def readAll : List Path → Op B (List (Path × Option B))
  | [] => pure []
  | p :: ps => do
    let c ← readFile p
    let rest ← readAll ps
    pure ((p, c) :: rest)

/-- `RuleStore.list_groups`, which takes no lock. -/
def listGroups : Op B (List String) := do
  let documents ← readAll ((← globRules).map .rule)
  Prog.ofExcept (lib.listGroups (documents.map Prod.snd))

/-- `MetricsStore.load`: a document with counters that are not kept is written back without them. -/
def loadMetrics : Op B Unit := do
  match ← readFile (.config .metrics) with
  | none => pure ()
  | some b => do
    fileLock [] (.config .metrics)
    match ← Prog.ofExcept (lib.loadMetrics b) with
    | none => pure ()
    | some b' => writeFile (.config .metrics) b'

/-- What `create_auto_backup` does to the configuration files: it loads every store. -/
def createAutoBackup : Op B Unit := do
  loadStores lib [.config, .profiles, .providers]
  let _ ← listGroups lib
  loadStores lib [.appPolicy, .nodeGroups, .chains, .state, .dnsPolicy]
  loadMetrics lib

/-! ## Replacing -/

variable (held : List Path)

/-- A store's `save`: lock, then the new content or the exception of its check. -/
def save (f : ConfigFile) (content : Except String B) : Op B Unit := do
  fileLock held (.config f)
  writeFile (.config f) (← Prog.ofExcept content)

/-- Do something for a section that was selected. -/
def forSection {A : Type} (selected : Option A) (act : A → Op B Unit) : Op B Unit :=
  match selected with
  | none => pure ()
  | some data => act data

def removeRuleFiles : List String → Op B Unit
  | [] => pure ()
  | stem :: stems => do
    unlinkFile (.rule stem)
    removeRuleFiles stems

def writeGroups : List J → Op B Unit
  | [] => pure ()
  | item :: items => do
    let (name, b) ← Prog.ofExcept (lib.ruleGroup item)
    writeFile (.rule name) b
    writeGroups items

/-- `_write_rule_groups`, without a lock. -/
def writeRuleGroups (groups : List J) : Op B Unit := do
  removeRuleFiles (← globRules)
  writeGroups lib groups

def updateProviders (held : List Path) : P → List J → Op B Unit
  | _, [] => pure ()
  | providers, item :: items => do
    fileLock held (.config .providers)
    let (providers', content) ←
      Prog.ofExcept (lib.updateProvider providers item (← readFile (.config .providers)))
    match content with
    | none => updateProviders held providers' items
    | some b => do
      writeFile (.config .providers) b
      updateProviders held providers' items

def applyProviderState (items : List J) : Op B Unit := do
  fileLock held (.config .providers)
  let providers ← Prog.ofExcept (lib.listProviders (← readFile (.config .providers)))
  updateProviders lib held providers items

/-- `_selection_state_document` and `StateManager.save`. -/
def applySelectionState (data : J) : Op B Unit := do
  fileLock held (.config .profiles)
  let profiles ← readFile (.config .profiles)
  save held .state (lib.saveState data profiles)

/-- `_apply_sections`, in the order of `DEFAULT_SECTION_NAMES`. -/
def applySections (sections : Sections J) : Op B Unit := do
  forSection sections.settings fun data => save held .config (lib.saveConfig data)
  forSection sections.profiles fun data => writeFile (.config .profiles) (lib.dumpJson data)
  forSection sections.providers fun data => writeFile (.config .providers) (lib.dumpJson data)
  forSection sections.providerState fun items => applyProviderState lib held items
  forSection sections.routingRules fun groups => writeRuleGroups lib groups
  forSection sections.appPolicy fun data => save held .appPolicy (lib.saveAppPolicy data)
  forSection sections.nodeGroups fun items => writeFile (.config .nodeGroups) (lib.dumpItems items)
  forSection sections.routeChains fun data => save held .chains (lib.saveRouteChains data)
  forSection sections.selectionState fun data => applySelectionState lib held data
  forSection sections.dnsPolicy fun data => save held .dnsPolicy (lib.saveDnsPolicy data)
  forSection sections.metricsPolicy fun data => save held .metrics (lib.saveMetrics data)

/-! ## Merging -/

/-- `RuleStore.add_group` for each group, under a name that is not taken. Its lock is on the file of
that name, which the restore holds only if the file was there before. -/
def addGroups (held : List Path) : List String → List J → Op B Unit
  | _, [] => pure ()
  | names, item :: items => do
    let name ← Prog.ofExcept (lib.importedGroup item names)
    fileLock held (.rule name)
    writeFile (.rule name) (← Prog.ofExcept (lib.importedGroupDocument item name))
    addGroups held (name :: names) items

def mergeRuleGroups (groups : List J) : Op B Unit := do
  addGroups lib held (← listGroups lib) groups

/-- `_merge_app_policy` and `_merge_route_chains`: load the store, add to it, save it. -/
def mergeDocument (f : ConfigFile) (merged : Option B → Except String B) : Op B Unit := do
  fileLock held (.config f)
  save held f (merged (← readFile (.config f)))

def addNodeGroups (held : List Path) : List String → List J → Op B Unit
  | _, [] => pure ()
  | names, item :: items => do
    let name ← Prog.ofExcept (lib.importedNodeGroup item names)
    mergeDocument held .nodeGroups (lib.addNodeGroup item name)
    addNodeGroups held (name :: names) items

def mergeNodeGroups (groups : List J) : Op B Unit := do
  fileLock held (.config .nodeGroups)
  let names ← Prog.ofExcept (lib.listNodeGroups (← readFile (.config .nodeGroups)))
  addNodeGroups lib held names groups

/-- What `_merge_sections` does after the rule groups. -/
def mergeOthers (sections : Sections J) : Op B Unit := do
  forSection sections.appPolicy fun data => mergeDocument held .appPolicy (lib.mergeAppPolicy data)
  forSection sections.nodeGroups fun items => mergeNodeGroups lib held items
  forSection sections.routeChains fun data => mergeDocument held .chains (lib.mergeRouteChains data)

def mergeSections (sections : Sections J) : Op B Unit := do
  forSection sections.routingRules fun groups => mergeRuleGroups lib held groups
  mergeOthers lib held sections

/-! ## The transaction -/

def snapshotTargets : Op B (List (Path × Option B)) := do
  readAll (ConfigFile.all.map .config ++ (← globRules).map .rule)

def lockAll : List Path → Op B Unit
  | [] => pure ()
  | p :: ps => do
    fileLock [] p
    lockAll ps

/-- The first loop of `_restore_snapshot`: a rule file that the snapshot does not have is locked,
which recovers, and removed. -/
def removeUnlisted (held : List Path) : List String → Op B Unit
  | [] => pure ()
  | stem :: stems => do
    if .rule stem ∉ held then
      fileLock held (.rule stem)
      unlinkFile (.rule stem)
    removeUnlisted held stems

def restoreSnapshot (snapshot : List (Path × Option B)) : Op B Unit := do
  removeUnlisted (snapshot.map Prod.fst) (← globRules)
  putAllBack snapshot

/-- The sections, in place of what is there or added to it. -/
def writeSections (mode : Mode) (held : List Path) (sections : Sections J) : Op B Unit :=
  match mode with
  | .replace => applySections lib held sections
  | .merge => mergeSections lib held sections

def applyRestoreTransaction (mode : Mode) (sections : Sections J) (snapshot : List (Path × Option B)) :
    Op B Unit := do
  let held := snapshot.map Prod.fst
  lockAll held
  if (← readJournal).isSome then .raise "pending restore transaction journal"
  writeJournal ⟨snapshot, true⟩
  match ← (writeSections lib mode held sections).attempt with
  | .ok _ => clearJournal
  | .error e => do
    restoreSnapshot snapshot
    clearJournal
    .raise e

def restoreBackup (request : RestoreRequest J) : Op B Unit := do
  recover
  let sections ← Prog.ofExcept request.sections
  createAutoBackup lib
  applyRestoreTransaction lib request.mode sections (← snapshotTargets)

end WatchdogVpn.Backup
