import WatchdogVpn.Backup.Archive

/-!
# Whether a backup can be read back

`inspect_backup` enforces limits and checks that `create_backup` never consults. What the stores
hold is checked a second time, and two of these checks are not the ones of the stores: OpenVPN
profiles are validated, which `ProfileStore.list` does not do, and the domains of the DNS policy are
normalised again.
-/

namespace WatchdogVpn.Backup

open Documents List
open Rules (Error stripped)
open Effect (ok_bind except_bind_ok except_bind_iff)

variable {B D : Type} {lib : Library D} (tools : Tools B lib)

/-! ## Limits -/

theorem validateMembers_iff {members : List (Member B)} :
    validateMembers members = .ok () ↔ ∀ member ∈ members, member.WithinLimits := by
  induction members with
  | nil => exact iff_of_true rfl nofun
  | cons member members ih =>
    rw [forall_mem_cons, ← ih, validateMembers, check_bind_ok, check_bind_ok, check_bind_ok]
    constructor
    · rintro ⟨hfile, hcomp, hratio, h⟩
      exact ⟨⟨hfile, hcomp, hratio⟩, h⟩
    · rintro ⟨hmem, h⟩
      exact ⟨hmem.fileSize, hmem.compressSize, hmem.ratio, h⟩

theorem validateArchiveLimits_iff {members : List (Member B)} :
    validateArchiveLimits members = .ok () ↔ WithinLimits members := by
  rw [validateArchiveLimits, check_bind_ok, check_bind_ok, check_bind_ok, validateMembers_iff]
  constructor
  · rintro ⟨hcount, hcomp, hunc, heach⟩
    exact ⟨hcount, hcomp, hunc, heach⟩
  · intro h
    exact ⟨h.count, h.compressed, h.uncompressed, h.each⟩

/-! ## Sections of a manifest -/

theorem normalizeLoop_ok {texts : List String} {normalized selected : List Section} (hnd : normalized.Nodup)
    (h : normalizeLoop normalized texts = .ok selected) : selected.Nodup ∧ selected ≠ [] := by
  induction texts generalizing normalized with
  | nil =>
    obtain ⟨_, hne, h⟩ := except_bind_ok h
    cases h
    exact ⟨hnd, check_eq_ok.mp hne⟩
  | cons text texts ih =>
    rw [normalizeLoop] at h
    split at h
    · cases h
    rename_i s _
    split at h
    · cases h
    rename_i hnew
    refine ih (nodup_append.mpr ⟨hnd, nodup_singleton s, fun a ha b hb hab => hnew ?_⟩) h
    rw [← mem_singleton.mp hb, ← hab]
    exact ha

variable {selected : List Section}

theorem stripped_name (s : Section) : stripped s.name = s.name := by cases s <;> decide

theorem normalizeLoop_names {normalized selected : List Section} (hnd : (normalized ++ selected).Nodup)
    (hne : normalized ++ selected ≠ []) :
    normalizeLoop normalized (selected.map Section.name) = .ok (normalized ++ selected) := by
  induction selected generalizing normalized with
  | nil =>
    rw [append_nil] at hne ⊢
    rw [map_nil, normalizeLoop, check_of hne]
    rfl
  | cons s selected ih =>
    have hnew : s ∉ normalized := fun hmem =>
      (nodup_append.mp hnd).2.2 s hmem s mem_cons_self rfl
    rw [map_cons, normalizeLoop, stripped_name, Section.named?_name]
    simp only [if_neg hnew]
    rw [ih (by simpa using hnd) (by simp), append_assoc, singleton_append]

theorem normalizeSections_names (hnd : selected.Nodup) (hne : selected ≠ []) :
    normalizeSections (selected.map Section.name) = .ok selected := normalizeLoop_names hnd hne

theorem mem_listedSections {s : Section} : s ∈ listedSections selected ↔ s ∈ selected := by
  rw [listedSections, mem_filter]
  exact ⟨fun h => of_decide_eq_true h.2, fun h => ⟨s.mem_all, decide_eq_true h⟩⟩

theorem listedSections_nodup (selected : List Section) : (listedSections selected).Nodup :=
  List.Nodup.filter _ (by decide)

theorem listedSections_ne_nil (h : selected ≠ []) : listedSections selected ≠ [] := by
  obtain ⟨s, hs⟩ := exists_mem_of_ne_nil selected h
  exact ne_nil_of_mem (mem_listedSections.mpr hs)

theorem get_map_of_mem {A : Type} {key : A → String} {value : A → Json}
    (hkey : Function.Injective key) {items : List A}
    {a : A} (h : a ∈ items) : PyDict.get (key a) (items.map fun a => (key a, value a)) = some (value a) := by
  induction items with
  | nil => cases h
  | cons b items ih =>
    rw [map_cons, PyDict.get]
    by_cases hb : key b = key a
    · rw [if_pos hb, hkey hb]
    · rw [if_neg hb]
      exact ih ((mem_cons.mp h).resolve_left fun hab => hb (congrArg key hab.symm))

theorem manifestSections_eq {data : Object} (hne : selected ≠ [])
    (hfiles : data.get "section_files" = some (.obj (sectionFiles selected)))
    (hsecs : data.get "sections" = some (texts ((listedSections selected).map Section.name))) :
    manifestSections data = .ok (listedSections selected) := by
  have hnames : (((listedSections selected).map Section.name).map Json.str).map Json.toStr =
      (listedSections selected).map Section.name := by
    rw [map_map]
    exact map_id _
  have hsame : sameEntries equalsText (sectionFiles selected)
      ((listedSections selected).map fun s => (s.name, s.entry)) = true := by
    rw [sameEntries, Bool.and_eq_true]
    refine ⟨by simp [sectionFiles], all_eq_true.mpr fun entry hent => ?_⟩
    obtain ⟨s, hs, rfl⟩ := mem_map.mp hent
    have hget : (sectionFiles selected).get s.name = some (.str s.entry) :=
      get_map_of_mem Section.name_injective hs
    simp [hget, equalsText]
  simp only [manifestSections, Object.getD, hfiles, hsecs, Option.getD_some, texts, requireObject, requireArray,
    ok_bind, hnames]
  rw [normalizeSections_names (listedSections_nodup selected) (listedSections_ne_nil hne), ok_bind,
    check_bind (by simp), check_of hsame]
  rfl

/-! ## The second check of the sections -/

/-- A profile that `validate_openvpn_profile` passes. -/
def OpenvpnSafe (profile : Profile D) : Prop := validateOpenvpnProfile tools.openvpn profile = .ok ()

/-- What has to hold of the stores for a section to pass its second check. -/
def Acceptable (contents : Contents lib) : Section → Prop
  | .profiles => ∀ profile ∈ contents.profiles, OpenvpnSafe tools profile
  | .dnsPolicy => contents.dnsPolicy.Again lib
  | _ => True

theorem validateProfileItem_iff (profile : Profile D) :
    validateProfileItem tools (.obj (profile.toDict lib)) = .ok () ↔ OpenvpnSafe tools profile := by
  simp only [validateProfileItem, requireObject, ok_bind, Profile.fromDict_toDict, ofStore_ok, OpenvpnSafe]
  cases validateOpenvpnProfile tools.openvpn profile with
  | ok u => exact iff_of_true rfl rfl
  | error e => exact iff_of_false nofun nofun

theorem validateProviderStateItem_eq (provider : Provider D) :
    validateProviderStateItem lib (providerStateItem lib provider) = .ok () := by
  have hdate : ∃ date, parseOptionalDatetime lib (dtToIso lib provider.lastUpdated) = .ok date := by
    cases provider.lastUpdated with
    | none => exact ⟨none, rfl⟩
    | some t =>
      refine ⟨some t, ?_⟩
      simp only [dtToIso, parseOptionalDatetime]
      rw [if_neg (isoformat_ne_empty lib t), lib.fromIso_isoformat]
  obtain ⟨date, hdate⟩ := hdate
  simp [validateProviderStateItem, providerStateItem, requireObject, PyDict.get, Object.getD, hdate]

theorem mapM_items {A : Type} {toDict : A → Object} {fromDict : Object → Except Error A}
    {name : String} {items : List A} (h : ∀ a ∈ items, fromDict (toDict a) = .ok a) :
    (((items.map toDict).map Json.obj).mapM (storeItem fromDict name) >>= fun _ => .ok ()) = .ok () := by
  have hread : ((items.map toDict).map Json.obj).mapM (storeItem fromDict name) = .ok items := by
    rw [map_map]
    refine mapM_ok_of_forall fun a ha => ?_
    change ofStore (fromDict (toDict a)) = .ok a
    rw [h a ha, ofStore_ok]
  rw [hread, ok_bind]

theorem ofStore_passes {A : Type} {read : Except Error A} {a : A} (h : read = .ok a) :
    (ofStore read >>= fun _ => .ok ()) = .ok () := by
  rw [h, ofStore_ok, ok_bind]

variable (contents : Contents lib) (info : BackupInfo)

theorem checkSection_profiles : checkSection tools (payload contents info .profiles) .profiles = .ok () ↔
    ∀ profile ∈ contents.profiles, OpenvpnSafe tools profile := by
  have hall : (∃ units, ((contents.profiles.map (Profile.toDict lib)).map Json.obj).mapM
      (validateProfileItem tools) =
      .ok units) ↔ ∀ profile ∈ contents.profiles, OpenvpnSafe tools profile := by
    rw [mapM_accepted_iff, map_map, forall_mem_map]
    refine forall₂_congr fun profile _ => ?_
    rw [← validateProfileItem_iff]
    exact ⟨fun ⟨_, h⟩ => h, fun h => ⟨(), h⟩⟩
  change (((contents.profiles.map (Profile.toDict lib)).map Json.obj).mapM (validateProfileItem tools) >>=
    fun _ => .ok ()) = _ ↔ _
  simp [except_bind_iff, ← hall]

theorem checkSection_iff (s : Section) :
    checkSection tools (payload contents info s) s = .ok () ↔ Acceptable tools contents s := by
  cases s with
  | profiles => exact checkSection_profiles tools contents info
  | dnsPolicy =>
    change (ofStore (DNSPolicy.fromDict lib (contents.dnsPolicy.toDict lib)) >>= fun _ => .ok ()) = _ ↔ _
    simp [except_bind_iff, ofStore_eq_ok, Acceptable, ← DNSPolicy.accepted_again]
  | settings => exact iff_of_true (ofStore_passes (AppConfig.fromDict_toDict lib contents.config)) trivial
  | providers => exact iff_of_true (mapM_items fun provider _ => Provider.fromDict_toDict lib provider) trivial
  | providerState =>
    refine iff_of_true ?_ trivial
    change ((contents.providers.map (providerStateItem lib)).mapM (validateProviderStateItem lib) >>= _) = _
    obtain ⟨units, hunits⟩ := mapM_accepted_iff.mpr
      (forall_mem_map.mpr fun provider (_ : provider ∈ contents.providers) =>
        ⟨(), validateProviderStateItem_eq provider⟩)
    rw [hunits]
    rfl
  | routingRules =>
    refine iff_of_true ?_ trivial
    have hgrps : (contents.groups.map fun group => Json.obj group.1.toDict) =
        ((contents.groups.map Subtype.val).map Rules.RuleGroup.toDict).map Json.obj := by
      rw [map_map, map_map]
      rfl
    change ((contents.groups.map fun group => Json.obj group.1.toDict).mapM
      (storeItem Rules.RuleGroup.fromDict "routing rule group") >>= _) = _
    rw [hgrps]
    exact mapM_items (forall_mem_map.mpr fun group _ => Rules.RuleGroup.fromDict_toDict group.2)
  | appPolicy => exact iff_of_true (ofStore_passes (AppPolicy.fromDict_toDict lib contents.appPolicy)) trivial
  | nodeGroups => exact iff_of_true (mapM_items fun group _ => NodeGroup.fromDict_toDict group) trivial
  | routeChains =>
    exact iff_of_true (ofStore_passes (RouteChainDocument.fromDict_toDict contents.routeChains)) trivial
  | selectionState => exact iff_of_true (ofStore_passes (State.fromDict_toDict contents.state)) trivial
  | metricsPolicy => exact iff_of_true (ofStore_passes
      (MetricsDocument.fromDict_toDict lib { contents.metrics with buckets := [] })) trivial
  | backupPolicy | metadata | diagnostics => exact iff_of_true rfl trivial

theorem validateSection_iff (s : Section) (data : Object) :
    validateSection tools s (.obj (payload contents info s)) = .ok data ↔
      Acceptable tools contents s ∧ data = payload contents info s := by
  have hver : equalsInt 1 ((payload contents info s).get "schema_version") = true := by
    cases s <;> rfl
  rw [← checkSection_iff tools contents info s]
  simp only [validateSection, requireObject, ok_bind, check_of hver]
  rw [except_bind_iff]
  constructor
  · rintro ⟨_, hchk, h⟩
    exact ⟨hchk, (Except.ok.inj h).symm⟩
  · rintro ⟨hchk, rfl⟩
    exact ⟨_, hchk, rfl⟩

/-! ## Members -/

/-- The member that an entry becomes. -/
def Tools.member (entry : String × B) : Member B :=
  ⟨entry.1, tools.size entry.2, tools.deflatedSize entry.2, entry.2⟩

/-- The sizes of the archive of these entries and of its members are within the limits. -/
structure Fits (entries : List (String × B)) : Prop where
  archive : tools.size (tools.pack entries) ≤ maxCompressedBytes
  compressed : ((entries.map tools.member).map (·.compressSize)).sum ≤ maxCompressedBytes
  uncompressed : ((entries.map tools.member).map (·.fileSize)).sum ≤ maxTotalUncompressedBytes
  each : ∀ member ∈ entries.map tools.member, member.WithinLimits

/-- The limit on the number of members comes on top. -/
theorem fits_iff {entries : List (String × B)} (hcount : entries.length ≤ maxArchiveMembers) :
    Fits tools entries ↔
    tools.size (tools.pack entries) ≤ maxCompressedBytes ∧ WithinLimits (entries.map tools.member) := by
  constructor
  · exact fun h => ⟨h.archive, by rwa [length_map], h.compressed, h.uncompressed, h.each⟩
  · exact fun ⟨harchive, h⟩ => ⟨harchive, h.compressed, h.uncompressed, h.each⟩

theorem names_members (entries : List (String × B)) :
    (entries.map tools.member).map (·.name) = entries.map Prod.fst := by
  rw [map_map]
  rfl

variable {entries : List (String × B)}

theorem find_member (hnd : (entries.map Prod.fst).Nodup) {entry : String × B}
    (h : entry ∈ entries) : ((entries.map tools.member).find? fun m => m.name == entry.1) =
      some (tools.member entry) := by
  induction entries with
  | nil => cases h
  | cons first entries ih =>
    obtain ⟨hnew, hnd⟩ := nodup_cons.mp hnd
    rw [map_cons, find?_cons]
    by_cases hname : first.1 = entry.1
    · have hfst : first = entry := by
        rcases mem_cons.mp h with rfl | hmem
        · rfl
        · exact absurd (hname ▸ mem_map_of_mem hmem) hnew
      subst hfst
      simp [Tools.member]
    · have hne : ((tools.member first).name == entry.1) = false := by simpa [Tools.member] using hname
      rw [hne]
      exact ih hnd ((mem_cons.mp h).resolve_left fun heq => hname (congrArg Prod.fst heq.symm))

theorem readArchiveEntry_eq (hnd : (entries.map Prod.fst).Nodup)
    (hfits : WithinLimits (entries.map tools.member)) {entry : String × B} (h : entry ∈ entries) {budget : Nat}
    (hbud : budget + tools.size entry.2 ≤ maxTotalUncompressedBytes) :
    readArchiveEntry tools (entries.map tools.member) entry.1 budget =
      .ok (entry.2, budget + tools.size entry.2) := by
  have hfile : (tools.member entry).fileSize ≤ maxMemberUncompressedBytes :=
    (hfits.each (tools.member entry) (mem_map_of_mem h)).fileSize
  have hcont : tools.size (tools.member entry).content ≤ maxMemberUncompressedBytes := hfile
  have htotal : budget + tools.size (tools.member entry).content ≤ maxTotalUncompressedBytes := hbud
  unfold readArchiveEntry
  rw [find_member tools hnd h]
  simp only
  rw [check_bind hfile, check_bind hcont, check_of htotal]
  rfl

theorem loadArchiveJson_eq (hnd : (entries.map Prod.fst).Nodup)
    (hfits : WithinLimits (entries.map tools.member)) {name : String} {value : Json}
    (h : (name, tools.dumps value) ∈ entries) {budget : Nat}
    (hbud : budget + tools.size (tools.dumps value) ≤ maxTotalUncompressedBytes) :
    loadArchiveJson tools (entries.map tools.member) name budget =
      .ok (value, budget + tools.size (tools.dumps value)) := by
  have hread := readArchiveEntry_eq tools hnd hfits h hbud
  simp only [loadArchiveJson, hread, ok_bind, tools.loads_dumps]
  rfl

/-! ## The plaintext archive -/

section

variable (selected : List Section)

def payloads : List (Section × Object) := selected.map fun s => (s, payload contents info s)

theorem fst_payloads : (payloads contents info selected).map Prod.fst = selected := by
  rw [payloads, map_map]
  exact map_id _

/-- The entries of the sections, after the manifest. -/
def sectionEntries : List (String × B) :=
  selected.map fun s => (s.entry, tools.dumps (.obj (payload contents info s)))

abbrev entriesOf : List (String × B) :=
  plaintextEntries tools info (payloads contents info selected)

end

/-- An archive has the manifest and at most one member for each section. -/
theorem entriesOf_count {selected : List Section} (hnd : selected.Nodup) :
    (entriesOf tools contents info selected).length ≤ maxArchiveMembers := by
  have hle := (subperm_of_subset hnd fun s _ => Section.mem_all s).length_le
  rw [entriesOf, plaintextEntries, payloads, length_cons, length_map, length_map]
  exact Nat.le_trans (Nat.succ_le_succ hle) (by decide)

theorem entriesOf_eq (selected : List Section) : entriesOf tools contents info selected =
      ("manifest.json", tools.dumps (.obj (manifest tools info selected))) ::
        sectionEntries tools contents info selected := by
  rw [entriesOf, plaintextEntries, fst_payloads, payloads, map_map]
  rfl

theorem names_entriesOf (selected : List Section) : (entriesOf tools contents info selected).map Prod.fst =
      "manifest.json" :: selected.map Section.entry := by
  rw [entriesOf_eq, map_cons, sectionEntries, map_map]
  rfl

theorem entry_ne_manifest (s : Section) : s.entry ≠ "manifest.json" := by cases s <;> decide

theorem names_nodup (h : selected.Nodup) : ("manifest.json" :: selected.map Section.entry).Nodup := by
  refine nodup_cons.mpr ⟨fun hmem => ?_, h.map Section.entry_injective⟩
  obtain ⟨s, -, hs⟩ := mem_map.mp hmem
  exact entry_ne_manifest s hs

theorem validateNames_entries (selected : List Section) :
    validateNames (selected.map Section.entry) = .ok () := by
  induction selected with
  | nil => rfl
  | cons s selected ih =>
    have hsup : s.entry ∈ supportedEntries := mem_cons_of_mem _ (mem_map_of_mem s.mem_all)
    rw [map_cons, validateNames, check_bind (by cases s <;> decide), check_bind hsup, ih]

theorem validateEntryNames_eq (h : selected.Nodup) :
    validateEntryNames ("manifest.json" :: selected.map Section.entry) = .ok () := by
  have hplain : isPlainName "manifest.json" = true := by decide
  rw [validateEntryNames, check_bind (names_nodup h), validateNames, check_bind hplain,
    check_bind (show "manifest.json" ∈ supportedEntries from mem_cons_self), validateNames_entries,
    ok_bind, check_of mem_cons_self]

theorem validateManifest_eq (hne : selected ≠ []) :
    validateManifest (manifest tools info selected)
      ("manifest.json" :: selected.map Section.entry) = .ok () := by
  have hsecs : manifestSections (manifest tools info selected) = .ok (listedSections selected) :=
    manifestSections_eq hne rfl rfl
  have hsame : sameMembers ("manifest.json" :: selected.map Section.entry)
      ("manifest.json" :: (listedSections selected).map Section.entry) = true := by
    rw [sameMembers, Bool.and_eq_true, all_eq_true, all_eq_true]
    simp only [contains_eq_mem, decide_eq_true_eq, mem_cons, mem_map, mem_listedSections]
    exact ⟨fun _ h => h, fun _ h => h⟩
  unfold validateManifest
  rw [check_bind (by rfl), check_bind (by rfl),
    show requireObject _ _ = .ok [("enabled", .bool false), ("supported", .bool tools.encryptionSupported),
      ("format", .null)] from rfl, ok_bind, check_bind (by rfl), hsecs, ok_bind,
    check_of hsame]

theorem find_entry (s : Section) : (Section.all.find? fun t => t.entry == s.entry) = some s := by
  cases s <;> decide

def sectionBytes (selected : List Section) : Nat :=
  (selected.map fun s => tools.size (tools.dumps (.obj (payload contents info s)))).sum

/-- Every section is read and comes through its second check, or the loop raises. -/
theorem loadSections_iff (hnd : (entries.map Prod.fst).Nodup) (hfits : WithinLimits (entries.map tools.member))
    (hmem : ∀ s ∈ selected, (s.entry, tools.dumps (.obj (payload contents info s))) ∈ entries) {budget : Nat}
    (hbud : budget + sectionBytes tools contents info selected ≤ maxTotalUncompressedBytes)
    (result : List (Section × Object)) :
    loadSections tools (entries.map tools.member) (selected.map Section.entry) budget = .ok result ↔
      (∀ s ∈ selected, Acceptable tools contents s) ∧ result = payloads contents info selected := by
  -- every section that is read uses up its bytes of the budget
  induction selected generalizing budget result with
  | nil =>
    constructor
    · intro h
      cases h
      exact ⟨nofun, rfl⟩
    · rintro ⟨-, rfl⟩
      rfl
  | cons s selected ih =>
    rw [sectionBytes, map_cons, sum_cons] at hbud
    have hread := loadArchiveJson_eq tools hnd hfits (hmem s mem_cons_self)
      (show budget + _ ≤ maxTotalUncompressedBytes by omega)
    have hleft : budget + tools.size (tools.dumps (.obj (payload contents info s))) +
        sectionBytes tools contents info selected ≤ maxTotalUncompressedBytes := by
      rw [sectionBytes]
      omega
    have hrest := ih (fun t ht => hmem t (mem_cons_of_mem _ ht)) hleft
    rw [map_cons, loadSections, find_entry]
    simp only [hread, ok_bind]
    constructor
    · intro h
      obtain ⟨data, hdata, h⟩ := except_bind_ok h
      obtain ⟨rest, hload, h⟩ := except_bind_ok h
      cases h
      have hsect : validateSection tools s (.obj (payload contents info s)) = .ok data := by
        cases hv : validateSection tools s (.obj (payload contents info s)) with
        | error e =>
          rw [hv] at hdata
          cases hdata
        | ok d =>
          rw [hv] at hdata
          exact hdata
      obtain ⟨hs, rfl⟩ := (validateSection_iff tools contents info s data).mp hsect
      obtain ⟨hsel, rfl⟩ := (hrest rest).mp hload
      exact ⟨forall_mem_cons.mpr ⟨hs, hsel⟩, rfl⟩
    · rintro ⟨hall, rfl⟩
      obtain ⟨hs, hsel⟩ := forall_mem_cons.mp hall
      rw [(validateSection_iff tools contents info s _).mpr ⟨hs, rfl⟩, (hrest _).mpr ⟨hsel, rfl⟩]
      rfl

/-- **The plaintext archive** is accepted exactly if it is within the limits and every section
passes its second check; then the sections come back as they were written. -/
theorem inspectPlaintext_iff (hnd : selected.Nodup) (hne : selected ≠ []) (parsed : ParsedBackup) :
    inspectPlaintext tools ((entriesOf tools contents info selected).map tools.member) = .ok parsed ↔
      WithinLimits ((entriesOf tools contents info selected).map tools.member) ∧
        (∀ s ∈ selected, Acceptable tools contents s) ∧
        parsed = ⟨manifest tools info selected, payloads contents info selected, false⟩ := by
  set entries := entriesOf tools contents info selected with hents
  have hnames : entries.map Prod.fst = "manifest.json" :: selected.map Section.entry :=
    names_entriesOf tools contents info selected
  have hdist : (entries.map Prod.fst).Nodup := hnames ▸ names_nodup hnd
  have hman : ("manifest.json", tools.dumps (.obj (manifest tools info selected))) ∈ entries := by
    rw [hents, entriesOf_eq]
    exact mem_cons_self
  have hsecs : ∀ s ∈ selected, (s.entry, tools.dumps (.obj (payload contents info s))) ∈ entries := by
    intro s hs
    rw [hents, entriesOf_eq]
    exact mem_cons_of_mem _ (mem_map_of_mem hs)
  have hfilt : ("manifest.json" :: selected.map Section.entry).filter (· ≠ "manifest.json") =
      selected.map Section.entry := by
    rw [filter_cons_of_neg (by simp), filter_eq_self]
    intro name hname
    obtain ⟨s, -, rfl⟩ := mem_map.mp hname
    simpa using entry_ne_manifest s
  by_cases hfits : WithinLimits (entries.map tools.member)
  · -- the bytes of the manifest and of the sections are the bytes of the archive
    have htotal : tools.size (tools.dumps (.obj (manifest tools info selected))) +
        sectionBytes tools contents info selected ≤ maxTotalUncompressedBytes := by
      have hsum := hfits.uncompressed
      rw [hents, entriesOf_eq, map_map, map_cons, sectionEntries, map_map] at hsum
      exact hsum
    have hread := loadArchiveJson_eq tools hdist hfits hman (show 0 + _ ≤ _ by omega)
    have hload := loadSections_iff tools contents info hdist hfits hsecs
      (show 0 + tools.size (tools.dumps (.obj (manifest tools info selected))) + _ ≤ _ by omega)
    unfold inspectPlaintext
    rw [validateArchiveLimits_iff.mpr hfits]
    simp only [names_members, hnames]
    rw [validateEntryNames_eq hnd, hread]
    simp only [requireObject, ok_bind, hfilt]
    rw [validateManifest_eq tools info hne, ok_bind]
    simp only [except_bind_iff, hload]
    constructor
    · rintro ⟨_, ⟨hall, rfl⟩, h⟩
      exact ⟨hfits, hall, (Except.ok.inj h).symm⟩
    · rintro ⟨-, hall, rfl⟩
      exact ⟨_, ⟨hall, rfl⟩, rfl⟩
  · refine iff_of_false (fun h => hfits ?_) fun h => hfits h.1
    obtain ⟨_, hlims, -⟩ := except_bind_ok h
    exact validateArchiveLimits_iff.mp hlims

/-! ## The encrypted archive -/

variable (request : BackupRequest) (password : String)

theorem validateEncryptionMetadata_eq :
    validateEncryptionMetadata tools (encryptionMetadata tools request.random.salt request.random.nonce) =
      .ok (request.random.salt, request.random.nonce) := by
  set metadata := encryptionMetadata tools request.random.salt request.random.nonce with hmet
  have hsalt : (metadata.getD "salt" (.str "")).toStr = tools.b64Encode request.random.salt := rfl
  have hnonc : (metadata.getD "nonce" (.str "")).toStr = tools.b64Encode request.random.nonce := rfl
  have hdecode : ∀ b name, b64Decode tools (tools.b64Encode b) name = .ok b := by
    intro b name
    rw [b64Decode, tools.b64Decode_encode]
  unfold validateEncryptionMetadata
  rw [check_bind (by rfl), check_bind (by rfl), check_bind (by rfl),
    check_bind (by rfl), show requireObject _ _ = .ok kdfParams from rfl, ok_bind,
    hsalt, hdecode, ok_bind, hnonc, hdecode, ok_bind,
    check_bind request.random.saltSize, check_of request.random.nonceSize]
  rfl

theorem validateEncryptedManifest_eq (hne : selected ≠ []) : validateEncryptedManifest tools
        (encryptedManifest tools request.info selected request.random.salt request.random.nonce) =
      .ok (request.random.salt, request.random.nonce) := by
  have hsecs : manifestSections
      (encryptedManifest tools request.info selected request.random.salt request.random.nonce) =
      .ok (listedSections selected) := manifestSections_eq hne rfl rfl
  unfold validateEncryptedManifest
  rw [check_bind (by rfl), check_bind (by rfl), check_bind (by rfl),
    show requireObject _ _ = .ok (encryptionMetadata tools request.random.salt request.random.nonce) from rfl,
    ok_bind, validateEncryptionMetadata_eq, ok_bind, hsecs]
  rfl

theorem decryptBackupPayload_eq (hsup : tools.encryptionSupported = true) (hpw : password ≠ "")
    (plaintext : B) :
    decryptBackupPayload tools (tools.encrypt password request.random.salt request.random.nonce plaintext)
      (request.random.salt, request.random.nonce) (some password) = .ok plaintext := by
  have hbytes : passwordBytes (some password) = .ok password := by
    rw [passwordBytes, check_of hpw]
    rfl
  unfold decryptBackupPayload
  rw [check_bind hsup, hbytes, ok_bind, tools.decrypt_encrypt]
  rfl

/-- **The encrypted archive** is accepted exactly if it and the archive inside it are within the
limits and every section passes its second check. -/
theorem inspectEncrypted_iff (hsup : tools.encryptionSupported = true) (hpw : password ≠ "")
    (hnd : selected.Nodup) (hne : selected ≠ [])
    (houter : WithinLimits ((encryptedEntries tools request selected password
      (tools.pack (entriesOf tools contents request.info selected))).map tools.member))
    (parsed : ParsedBackup) :
    inspectEncrypted tools ((encryptedEntries tools request selected password
        (tools.pack (entriesOf tools contents request.info selected))).map tools.member)
        (some password) = .ok parsed ↔
      Fits tools (entriesOf tools contents request.info selected) ∧
      (∀ s ∈ selected, Acceptable tools contents s) ∧
        parsed = ⟨manifest tools request.info selected, payloads contents request.info selected, true⟩ := by
  set plaintext := tools.pack (entriesOf tools contents request.info selected) with hpla
  set entries := encryptedEntries tools request selected password plaintext with hents
  have hnames : entries.map Prod.fst = ["manifest.json", "payload.bin"] := rfl
  have hdist : (entries.map Prod.fst).Nodup := by
    rw [hnames]
    decide
  set outer := encryptedManifest tools request.info selected request.random.salt request.random.nonce
  set cipher := tools.encrypt password request.random.salt request.random.nonce plaintext
  have hman : ("manifest.json", tools.dumps (.obj outer)) ∈ entries := mem_cons_self
  have hpay : ("payload.bin", cipher) ∈ entries := mem_cons_of_mem _ mem_cons_self
  -- both members are read within the budget
  have hsum : tools.size (tools.dumps (.obj outer)) + (tools.size cipher + 0) ≤ maxTotalUncompressedBytes :=
    houter.uncompressed
  have hread := loadArchiveJson_eq tools hdist houter hman (show 0 + _ ≤ _ by omega)
  have hcipher := readArchiveEntry_eq tools hdist houter hpay
    (show 0 + tools.size (tools.dumps (.obj outer)) + tools.size cipher ≤ _ by omega)
  have hunpack : tools.unpack plaintext =
      some ((entriesOf tools contents request.info selected).map tools.member) :=
    tools.unpack_pack _
  have hval : validateEncryptedEntryNames ["manifest.json", "payload.bin"] = .ok () := by
    rw [validateEncryptedEntryNames, check_bind (by decide), validateEncryptedNames,
      check_bind (by decide), validateEncryptedNames, check_bind (by decide)]
    rw [show validateEncryptedNames [] = .ok () from rfl, ok_bind, check_of (by decide)]
  have hinner := inspectPlaintext_iff tools contents request.info hnd hne
  have hcount := entriesOf_count tools contents request.info hnd
  unfold inspectEncrypted
  rw [names_members, hnames, hval, hread]
  simp only [requireObject, ok_bind]
  rw [validateEncryptedManifest_eq tools request hne, ok_bind, hcipher, ok_bind]
  rw [decryptBackupPayload_eq tools request password hsup hpw, ok_bind]
  rw [check_bind_ok, hunpack]
  constructor
  · rintro ⟨hsize, h⟩
    obtain ⟨inner, hpar, h⟩ := except_bind_ok h
    obtain ⟨hlims, hall, rfl⟩ := (hinner inner).mp hpar
    exact ⟨(fits_iff tools hcount).mpr ⟨hsize, hlims⟩, hall, (Except.ok.inj h).symm⟩
  · rintro ⟨hfits, hall, rfl⟩
    obtain ⟨hsize, hlims⟩ := (fits_iff tools hcount).mp hfits
    exact ⟨hsize, except_bind_iff.mpr ⟨_, (hinner _).mpr ⟨hlims, hall, rfl⟩, rfl⟩⟩

/-! ## Every backup -/

def BackupRequest.Selects (request : BackupRequest) (selected : List Section) : Prop :=
  normalizeSections (request.sections.getD (Section.defaults.map Section.name)) = .ok selected

/-- What a backup of these stores needs to be read back. -/
structure Readable (selected : List Section) : Prop where
  plaintext : Fits tools (plaintextEntries tools request.info (payloads contents request.info selected))
  encrypted : request.encrypt = true → ∀ password, request.password = some password →
    Fits tools (encryptedEntries tools request selected password
      (tools.pack (plaintextEntries tools request.info (payloads contents request.info selected))))
  profiles : .profiles ∈ selected → ∀ profile ∈ contents.profiles, OpenvpnSafe tools profile
  dnsPolicy : .dnsPolicy ∈ selected → contents.dnsPolicy.Again lib

theorem acceptable_iff : (∀ s ∈ selected, Acceptable tools contents s) ↔
    (.profiles ∈ selected → ∀ profile ∈ contents.profiles, OpenvpnSafe tools profile) ∧
      (.dnsPolicy ∈ selected → contents.dnsPolicy.Again lib) := by
  constructor
  · exact fun h => ⟨fun hs => h .profiles hs, fun hs => h .dnsPolicy hs⟩
  rintro ⟨hprof, hdns⟩ s hs
  cases s with
  | profiles => exact hprof hs
  | dnsPolicy => exact hdns hs
  | _ => trivial

theorem collect_eq {disk : Disk B} (hload : Loads tools.toTextLibrary disk contents) (selected : List Section) :
    (selected.mapM fun s => do return (s, ← collectSection tools disk info s)) =
      (.ok (payloads contents info selected)) := by
  induction selected with
  | nil => rfl
  | cons s selected ih =>
    rw [mapM_cons, ih, collectSection_eq tools hload]
    rfl

theorem inspectBackup_eq (hcount : entries.length ≤ maxArchiveMembers)
    (givenPassword : Option String) (parsed : ParsedBackup) :
    inspectBackup tools (tools.pack entries) givenPassword = .ok parsed ↔ Fits tools entries ∧
      (if "payload.bin" ∈ entries.map Prod.fst then inspectEncrypted tools
        (entries.map tools.member) givenPassword
        else inspectPlaintext tools (entries.map tools.member)) = .ok parsed := by
  have hunpack : tools.unpack (tools.pack entries) =
      some (entries.map tools.member) := tools.unpack_pack entries
  unfold inspectBackup
  rw [hunpack]
  simp only [names_members]
  rw [check_bind_ok, except_bind_iff, fits_iff tools hcount]
  constructor
  · rintro ⟨hsize, _, hlims, h⟩
    exact ⟨⟨hsize, validateArchiveLimits_iff.mp hlims⟩, h⟩
  · rintro ⟨⟨hsize, hlims⟩, h⟩
    exact ⟨hsize, (), validateArchiveLimits_iff.mpr hlims, h⟩

theorem inspect_plaintext_iff (hnd : selected.Nodup) (hne : selected ≠ [])
    (givenPassword : Option String) (parsed : ParsedBackup) :
    inspectBackup tools (tools.pack (entriesOf tools contents info selected)) givenPassword = .ok parsed ↔
      Fits tools (entriesOf tools contents info selected) ∧ (∀ s ∈ selected, Acceptable tools contents s) ∧
        parsed = ⟨manifest tools info selected, payloads contents info selected, false⟩ := by
  have hplain : "payload.bin" ∉ (entriesOf tools contents info selected).map Prod.fst := by
    rw [names_entriesOf, mem_cons, not_or]
    refine ⟨by decide, fun hmem => ?_⟩
    obtain ⟨s, -, hs⟩ := mem_map.mp hmem
    revert hs
    cases s <;> decide
  have hcount := entriesOf_count tools contents info hnd
  rw [inspectBackup_eq tools hcount, if_neg hplain, inspectPlaintext_iff tools contents info hnd hne]
  exact ⟨fun h => ⟨h.1, h.2.2⟩, fun h => ⟨h.1, ((fits_iff tools hcount).mp h.1).2, h.2⟩⟩

theorem inspect_encrypted_iff (hsup : tools.encryptionSupported = true) (hpw : password ≠ "")
    (hnd : selected.Nodup) (hne : selected ≠ []) (parsed : ParsedBackup) :
    inspectBackup tools (tools.pack (encryptedEntries tools request selected password
        (tools.pack (entriesOf tools contents request.info selected)))) (some password) =
        .ok parsed ↔
      Fits tools (encryptedEntries tools request selected password
        (tools.pack (entriesOf tools contents request.info selected))) ∧
      Fits tools (entriesOf tools contents request.info selected) ∧
      (∀ s ∈ selected, Acceptable tools contents s) ∧
        parsed = ⟨manifest tools request.info selected, payloads contents request.info selected, true⟩ := by
  have hpay : "payload.bin" ∈ (encryptedEntries tools request selected password (tools.pack
      (entriesOf tools contents request.info selected))).map Prod.fst :=
    mem_cons_of_mem _ mem_cons_self
  have hcount : (encryptedEntries tools request selected password
      (tools.pack (entriesOf tools contents request.info selected))).length ≤ maxArchiveMembers :=
    (by decide : 2 ≤ maxArchiveMembers)
  rw [inspectBackup_eq tools hcount]
  exact and_congr_right fun hfits => inspectEncrypted_iff tools contents request password hsup hpw hnd hne
    ((fits_iff tools hcount).mp hfits).2 parsed

/-- **A backup and what reads it.** What `create_backup` writes from stores that load is accepted by
`inspect_backup` with the same password exactly if the sizes of its archives are within the limits,
every OpenVPN profile in it passes the allow-list of directives, and the domains of the DNS policy
in it are domains once more. -/
theorem backup_accepted_iff {disk : Disk B} (hload : Loads tools.toTextLibrary disk contents)
    {selected : List Section} (hselected : request.Selects selected) {archive : B}
    (hcreate : createBackup tools disk request = .ok archive) :
    (∃ parsed, inspectBackup tools archive request.password = .ok parsed) ↔
      Readable tools contents request selected := by
  obtain ⟨hnd, hne⟩ := normalizeLoop_ok nodup_nil hselected
  have hsecs := collect_eq tools contents request.info hload selected
  unfold createBackup at hcreate
  rw [show normalizeSections _ = .ok selected from hselected, ok_bind, hsecs, ok_bind] at hcreate
  by_cases hencr : request.encrypt = true
  · rw [if_pos hencr] at hcreate
    obtain ⟨password, hbytes, hcreate⟩ := except_bind_ok hcreate
    obtain ⟨_, hsup, hcreate⟩ := except_bind_ok hcreate
    cases hcreate
    have hgiven : request.password = some password ∧ password ≠ "" := by
      unfold passwordBytes at hbytes
      split at hbytes
      · cases hbytes
      rename_i given hgiven
      obtain ⟨_, hne, hbytes⟩ := except_bind_ok hbytes
      cases hbytes
      exact ⟨hgiven, check_eq_ok.mp hne⟩
    have hiff := inspect_encrypted_iff tools contents request password (check_eq_ok.mp hsup) hgiven.2 hnd hne
    rw [hgiven.1]
    constructor
    · rintro ⟨parsed, h⟩
      obtain ⟨houter, hinner, hall, -⟩ := (hiff parsed).mp h
      obtain ⟨hprof, hdns⟩ := (acceptable_iff tools contents).mp hall
      refine ⟨hinner, fun _ given hg => ?_, hprof, hdns⟩
      cases hgiven.1.symm.trans hg
      exact houter
    · intro h
      have hall := (acceptable_iff tools contents).mpr ⟨h.profiles, h.dnsPolicy⟩
      exact ⟨_, (hiff _).mpr ⟨h.encrypted hencr password hgiven.1, h.plaintext, hall, rfl⟩⟩
  · rw [if_neg hencr] at hcreate
    cases hcreate
    have hiff := inspect_plaintext_iff tools contents request.info hnd hne request.password
    constructor
    · rintro ⟨parsed, h⟩
      obtain ⟨hfits, hall, -⟩ := (hiff parsed).mp h
      obtain ⟨hprof, hdns⟩ := (acceptable_iff tools contents).mp hall
      exact ⟨hfits, fun he => absurd he hencr, hprof, hdns⟩
    · intro h
      have hall := (acceptable_iff tools contents).mpr ⟨h.profiles, h.dnsPolicy⟩
      exact ⟨_, (hiff _).mpr ⟨h.plaintext, hall, rfl⟩⟩

/-- **What is backed up is what is read back.** If `inspect_backup` accepts what `create_backup`
wrote, it returns the manifest, the selected sections in their order with what the stores held, and
whether the archive was encrypted. -/
theorem backup_read_back {disk : Disk B} (hload : Loads tools.toTextLibrary disk contents)
    {selected : List Section} (hselected : request.Selects selected) {archive : B}
    (hcreate : createBackup tools disk request = .ok archive)
    {parsed : ParsedBackup} (h : inspectBackup tools archive request.password = .ok parsed) :
    parsed = ⟨manifest tools request.info selected, payloads contents request.info selected,
      request.encrypt⟩ := by
  obtain ⟨hnd, hne⟩ := normalizeLoop_ok nodup_nil hselected
  unfold createBackup at hcreate
  rw [show normalizeSections _ = .ok selected from hselected, ok_bind,
    collect_eq tools contents request.info hload selected, ok_bind] at hcreate
  cases hencr : request.encrypt with
  | true =>
    rw [if_pos hencr] at hcreate
    obtain ⟨password, hbytes, hcreate⟩ := except_bind_ok hcreate
    obtain ⟨_, hsup, hcreate⟩ := except_bind_ok hcreate
    cases hcreate
    unfold passwordBytes at hbytes
    split at hbytes
    · cases hbytes
    rename_i given hgiven
    obtain ⟨_, hpw, hbytes⟩ := except_bind_ok hbytes
    cases hbytes
    rw [hgiven] at h
    exact ((inspect_encrypted_iff tools contents request _ (check_eq_ok.mp hsup)
      (check_eq_ok.mp hpw) hnd hne _).mp h).2.2.2
  | false =>
    rw [if_neg (by simp [hencr])] at hcreate
    cases hcreate
    exact ((inspect_plaintext_iff tools contents request.info hnd hne _ _).mp h).2.2

/-! ### A backup that is refused -/

/-- Bytes that remember what they were made from. -/
inductive Blob
  | json (value : Json)
  | toml (tables : Object)
  | zip (entries : List (String × Blob))
  | sealed (password : String) (plaintext : Blob)

/-- A size that grows with what is packed. -/
def Blob.size : Blob → Nat
  | .json (.obj fields) => 64 * fields.length + 2
  | .json _ => 64
  | .toml tables => 64 * tables.length
  | .zip entries => 128 * entries.length + 22
  | .sealed _ plaintext => plaintext.size + 16

def sampleTools : Tools Blob sampleLibrary where
  loads
    | .json value => .ok value
    | _ => .error ⟨.valueError, "invalid JSON"⟩
  dumps := .json
  loads_dumps _ := rfl
  tomlLoads
    | .toml tables => .ok tables
    | _ => .error ⟨.valueError, "invalid TOML"⟩
  tomlDumps := .toml
  tomlLoads_config _ := rfl
  tomlLoads_state _ := rfl
  size := Blob.size
  pack := .zip
  unpack
    | .zip entries => some (entries.map fun entry => ⟨entry.1, entry.2.size, entry.2.size / 2, entry.2⟩)
    | _ => none
  deflatedSize blob := blob.size / 2
  unpack_pack _ := rfl
  encryptionSupported := true
  encrypt password _ _ plaintext := .sealed password plaintext
  decrypt password _ _
    | .sealed given plaintext => if given = password then some plaintext else none
    | _ => none
  decrypt_encrypt _ _ _ _ := if_pos rfl
  b64Encode bytes := String.ofList (bytes.map fun b => Char.ofNat b.toNat)
  b64Decode text := some (text.toList.map fun c => UInt8.ofNat c.toNat)
  b64Decode_encode bytes := by
    rw [String.toList_ofList, List.map_map]
    refine congrArg some ((List.map_congr_left fun b _ => ?_).trans (List.map_id bytes))
    have hvalid : b.toNat.isValidChar := Or.inl (Nat.lt_trans b.toNat_lt (by decide))
    change UInt8.ofNat (Char.ofNat b.toNat).toNat = b
    rw [Char.ofNat, dif_pos hvalid]
    exact UInt8.ofNat_toNat
  openvpn := ⟨fun text => text.map Char.toLower, OpenVpn.map_toLower_angle⟩

variable (profiles : List (Profile Unit))

/-- A directory in which only the profiles have a file. -/
def profilesDisk : Disk Blob where
  files
    | .config .profiles => some (.json (.arr (profiles.map fun p => .obj (p.toDict sampleLibrary))))
    | _ => none
  journal := none
  listing := []
  listed := fun _ h => Bool.noConfusion h

/-- What its stores hold: the profiles, and otherwise the defaults. -/
def profilesContents : Contents sampleLibrary where
  config := .default sampleLibrary
  profiles := profiles
  providers := []
  groups := []
  appPolicy := .default sampleLibrary.compiles
  nodeGroups := []
  routeChains := ⟨[], List.nodup_nil⟩
  state := .default
  dnsPolicy := .default sampleLibrary
  metrics := {}

theorem profilesDisk_loads :
    Loads sampleTools.toTextLibrary (profilesDisk profiles) (profilesContents profiles) where
  config := rfl
  profiles := by
    have hraw : loadRaw sampleTools.toTextLibrary ((profilesDisk profiles).files (.config .profiles)) =
        .ok (profiles.map (Profile.toDict sampleLibrary)) := by
      change (profiles.map fun p => Json.obj (p.toDict sampleLibrary)).mapM asDict = _
      have hmap : (profiles.map fun p => Json.obj (p.toDict sampleLibrary)) =
          (profiles.map (Profile.toDict sampleLibrary)).map Json.obj := by
        rw [map_map]
        rfl
      rw [hmap]
      exact mapM_ok_of_forall fun _ _ => rfl
    rw [loadProfiles, hraw]
    exact mapM_ok_of_forall fun profile _ => Profile.fromDict_toDict sampleLibrary profile
  providers := rfl
  groups := rfl
  appPolicy := rfl
  nodeGroups := rfl
  routeChains := rfl
  state := rfl
  dnsPolicy := rfl
  metrics := rfl

/-- A manual backup of the default sections, without a password. -/
def manualBackup : BackupRequest where
  info := { createdAt := "2026-01-01", reason := "manual", platform := "posix", diagnostics := [] }
  sections := none
  encrypt := false
  password := none
  random := ⟨List.replicate 16 0, List.replicate 12 0, rfl, rfl⟩

theorem manualBackup_selects : manualBackup.Selects Section.defaults :=
  normalizeSections_names (by decide) (by decide)

theorem createBackup_manual :
    createBackup sampleTools (profilesDisk profiles) manualBackup =
      .ok (sampleTools.pack (plaintextEntries sampleTools
      manualBackup.info (payloads (profilesContents profiles) manualBackup.info Section.defaults))) := by
  unfold createBackup
  rw [show normalizeSections _ = .ok Section.defaults from manualBackup_selects, ok_bind,
    collect_eq sampleTools (profilesContents profiles) manualBackup.info (profilesDisk_loads profiles)]
  rfl

/-- Together the entries are no larger than one may be. -/
theorem sample_fits {entries : List (String × Blob)} (hcount : entries.length ≤ maxArchiveMembers)
    (hsum : (entries.map (·.2.size)).sum ≤ maxMemberUncompressedBytes) : Fits sampleTools entries := by
  have hsizes : (entries.map sampleTools.member).map (·.fileSize) = entries.map (·.2.size) := by
    rw [map_map]
    rfl
  have hless : ((entries.map sampleTools.member).map (·.compressSize)).sum ≤ (entries.map (·.2.size)).sum := by
    rw [map_map]
    exact sum_le_sum fun entry _ => Nat.div_le_self _ _
  unfold maxMemberUncompressedBytes at hsum
  unfold maxArchiveMembers at hcount
  refine ⟨?_, Nat.le_trans hless (Nat.le_trans hsum (by decide)), ?_, fun member hmem => ?_⟩
  · change 128 * entries.length + 22 ≤ 16 * 1024 * 1024
    omega
  · rw [hsizes]
    exact Nat.le_trans hsum (by decide)
  · obtain ⟨entry, hentry, rfl⟩ := mem_map.mp hmem
    have hle : entry.2.size ≤ (entries.map (·.2.size)).sum := single_le_sum (by simp) _ (mem_map_of_mem hentry)
    refine ⟨Nat.le_trans hle hsum, ?_, ?_⟩
    · change entry.2.size / 2 ≤ 16 * 1024 * 1024
      omega
    · change entry.2.size ≤ 100 * max (entry.2.size / 2) 1
      omega

/-- An OpenVPN profile that has lost its configuration. -/
def bareOpenvpn : Profile Unit where
  id := "office"
  name := "Office"
  protocol := .openvpn
  config := []
  source := .manual
  createdAt := ()

/-- One with a configuration that passes. -/
def safeOpenvpn : Profile Unit :=
  { bareOpenvpn with config := [("raw_config", .str "client\nremote 198.51.100.7 1194\nverb 3")] }

/-- A backup with a password. -/
def sealedBackup : BackupRequest := { manualBackup with encrypt := true, password := some "secret" }

theorem createBackup_sealed : createBackup sampleTools (profilesDisk [safeOpenvpn]) sealedBackup =
    .ok (sampleTools.pack (encryptedEntries sampleTools sealedBackup Section.defaults "secret" (sampleTools.pack
      (entriesOf sampleTools (profilesContents [safeOpenvpn]) sealedBackup.info Section.defaults)))) := by
  unfold createBackup
  rw [show normalizeSections (sealedBackup.sections.getD _) =
    .ok Section.defaults from manualBackup_selects, ok_bind,
    collect_eq sampleTools (profilesContents [safeOpenvpn]) sealedBackup.info (profilesDisk_loads _)]
  rfl

theorem sealedBackup_readable :
    Readable sampleTools (profilesContents [safeOpenvpn]) sealedBackup Section.defaults where
  plaintext := sample_fits (by decide +kernel) (by decide +kernel)
  encrypted _ password hpw := by
    cases hpw
    exact sample_fits (by decide) (by decide +kernel)
  profiles _ profile hmem := by
    cases mem_singleton.mp hmem
    unfold OpenvpnSafe
    decide +kernel
  dnsPolicy _ := ⟨by decide +kernel, fun _ h => nomatch h⟩

/-- The encrypted backup of a directory with an OpenVPN profile is accepted. -/
theorem backup_accepted_iff_sealed : ∃ archive parsed,
    createBackup sampleTools (profilesDisk [safeOpenvpn]) sealedBackup = .ok archive ∧
      inspectBackup sampleTools archive (some "secret") = .ok parsed := by
  obtain ⟨parsed, hread⟩ := (backup_accepted_iff sampleTools (profilesContents [safeOpenvpn]) sealedBackup
    (profilesDisk_loads _) manualBackup_selects createBackup_sealed).mpr sealedBackup_readable
  exact ⟨_, parsed, createBackup_sealed, hread⟩

/-- It is read back with all its sections. -/
theorem backup_read_back_sealed : ∃ archive parsed,
    createBackup sampleTools (profilesDisk [safeOpenvpn]) sealedBackup = .ok archive ∧
    inspectBackup sampleTools archive (some "secret") = .ok parsed ∧ parsed.encrypted = true ∧
    parsed.sections = payloads (profilesContents [safeOpenvpn]) sealedBackup.info Section.defaults := by
  have hok := sealedBackup_readable
  have hall := (acceptable_iff sampleTools _).mpr ⟨hok.profiles, hok.dnsPolicy⟩
  have hread := (inspect_encrypted_iff sampleTools _ sealedBackup "secret" rfl (by decide)
    (by decide) (by decide) _).mpr
    ⟨hok.encrypted rfl _ rfl, hok.plaintext, hall, rfl⟩
  have hparsed := backup_read_back sampleTools _ sealedBackup (profilesDisk_loads _) manualBackup_selects
    createBackup_sealed hread
  exact ⟨_, _, createBackup_sealed, hread, congrArg ParsedBackup.encrypted hparsed,
    congrArg ParsedBackup.sections hparsed⟩

/-- `ProfileStore.list` loads an OpenVPN profile without `raw_config`, so it is backed up;
`inspect_backup` refuses the archive. -/
theorem bare_openvpn_backup_refused :
    Loads sampleTools.toTextLibrary (profilesDisk [bareOpenvpn]) (profilesContents [bareOpenvpn]) ∧
      ∃ archive, createBackup sampleTools (profilesDisk [bareOpenvpn]) manualBackup = .ok archive ∧
        ∀ parsed, inspectBackup sampleTools archive manualBackup.password ≠ .ok parsed := by
  refine ⟨profilesDisk_loads _, _, createBackup_manual _, fun parsed h => ?_⟩
  obtain ⟨-, hall, -⟩ := (inspect_plaintext_iff sampleTools (profilesContents [bareOpenvpn]) manualBackup.info
    (by decide) (by decide) none parsed).mp h
  have hsafe : OpenvpnSafe sampleTools bareOpenvpn :=
    hall .profiles (by decide) bareOpenvpn (mem_singleton.mpr rfl)
  cases hsafe

end WatchdogVpn.Backup
