import WatchdogVpn.Dns.SystemState
import WatchdogVpn.Lib.Lists
import Mathlib.Data.List.Nodup

/-!
# Putting the DNS settings of NetworkManager back

The settings are read from what `nmcli` prints and written as they were read. So it matters what
`nmcli` escapes: colons and backslashes come back with a backslash in front, white space at the ends
does not come back at all.

* `shown_eq_iff`: the values that are read as they are.
* `saveState_ok_iff`: what is saved, and when saving succeeds.
* `connections_putBack`: the connections after saving, applying and restoring.
* **`dns_put_back_iff`**: the settings are put back, and nothing else is touched, exactly if every
  name that is read from the listing is the name of an active connection whose values are read as
  they are.
* `ipv6_server_not_put_back`: a connection with a server of IPv6.
-/

namespace WatchdogVpn.SystemDns

open PyText List

variable {rescued : Host → Host} {host host' : Host}

/-! ## What is read -/

def shown (text : Text) : Text := strip (escape text)

/-- A value without a colon, without a backslash and without white space at its ends. -/
def Plain (text : Text) : Prop := (∀ c ∈ text, c ≠ ':' ∧ c ≠ '\\') ∧ strip text = text

theorem plain_of_all {text : Text}
    (h : (text.all (fun c => c != ':' && c != '\\') && strip text == text) = true) :
    Plain text := by
  rw [Bool.and_eq_true, all_eq_true] at h
  exact ⟨fun c hc => by simpa using h.1 c hc, eq_of_beq h.2⟩

theorem escape_cons (c : Char) (text : Text) :
    escape (c :: text) = (if c = ':' ∨ c = '\\' then ['\\', c] else [c]) ++ escape text := rfl

theorem length_le_escape (text : Text) : text.length ≤ (escape text).length := by
  induction text with
  | nil => exact Nat.le_refl 0
  | cons c rest ih =>
    rw [escape_cons, length_append]
    split <;> simp only [length_cons] <;> omega

theorem escape_eq_self_iff {text : Text} : escape text = text ↔ ∀ c ∈ text, c ≠ ':' ∧ c ≠ '\\' := by
  induction text with
  | nil => simp [escape]
  | cons c rest ih =>
    rw [escape_cons, forall_mem_cons, ← ih]
    by_cases hc : c = ':' ∨ c = '\\'
    · rw [if_pos hc]
      constructor
      · intro h
        -- the escaped text is longer
        have hlen := congrArg length h
        have hle := length_le_escape rest
        simp only [length_append, length_cons] at hlen
        omega
      · rintro ⟨⟨hcolon, hback⟩, -⟩
        exact absurd hc (by simp [hcolon, hback])
    · rw [not_or] at hc
      simp [hc]

theorem head?_escape {text : Text} (h : ∀ c ∈ text.head?, isSpace c = false) :
    ∀ c ∈ (escape text).head?, isSpace c = false := by
  cases text with
  | nil => exact nofun
  | cons c rest =>
    rw [escape_cons]
    split
    · intro d hd
      cases hd
      decide
    · exact h

theorem getLast?_escape (text : Text) : (escape text).getLast? = text.getLast? := by
  induction text with
  | nil => rfl
  | cons c rest ih =>
    rw [escape_cons, getLast?_append, ih, getLast?_cons]
    cases hrest : rest.getLast? with
    | none => split <;> rfl
    | some d => rfl

theorem shown_eq_iff {text : Text} : shown text = text ↔ Plain text := by
  constructor
  · intro h
    have hstr : strip text = text := by
      have hagain : strip (shown text) = shown text := strip_strip (escape text)
      rw [h] at hagain
      exact hagain
    refine ⟨escape_eq_self_iff.mp ?_, hstr⟩
    -- there is no white space to strip from the escaped text either
    obtain ⟨hhead, hlast⟩ := strip_eq_self_iff.mp hstr
    have hesc : strip (escape text) = escape text :=
      strip_eq_self_iff.mpr ⟨head?_escape hhead, by rw [getLast?_escape]; exact hlast⟩
    exact hesc.symm.trans h
  · rintro ⟨hplain, hstr⟩
    unfold shown
    rw [escape_eq_self_iff.mpr hplain]
    exact hstr

/-! ## Saving -/

theorem bind_ok {α β : Type} {x : Run α} {f : α → Run β} {b : β}
    (h : (x >>= f) host = .ok b host') :
    ∃ a host1, x host = .ok a host1 ∧ f a host1 = .ok b host' := by
  simp only [bind, EStateM.bind] at h
  split at h
  · rename_i a host1 hx
    exact ⟨a, host1, hx, h⟩
  · cases h

theorem bind_of_ok {α β : Type} {x : Run α} {f : α → Run β} {a : α} {host1 : Host}
    (h : x host = .ok a host1) : (x >>= f) host = f a host1 := by
  simp only [bind, EStateM.bind, h]

def Connection.saved (c : Connection) (name : Text) : NetworkManagerConnectionState where
  name := name
  uuid := shown c.uuid
  ipv4Dns := shown c.ipv4.dns
  ipv4IgnoreAutoDns := yesNo c.ipv4.ignoreAutoDns
  ipv4DnsSearch := shown c.ipv4.dnsSearch
  ipv6Dns := shown c.ipv6.dns
  ipv6IgnoreAutoDns := yesNo c.ipv6.ignoreAutoDns
  ipv6DnsSearch := shown c.ipv6.dnsSearch

variable {name : Text} {c : Connection}

theorem property_of_found (hfnd : host.find name = some c) (property : Property) :
    nmcliConnectionProperty rescued name property host = .ok (shown (c.value property)) host := by
  have hrun : runner rescued (.getProperty property name) host =
      .ok (strip (escape (c.value property) ++ ['\n'])) host := by
    simp only [runner, hfnd]
  refine (bind_of_ok hrun).trans ?_
  rw [strip_append_newline]
  exact congrArg (EStateM.Result.ok · host) (strip_strip _)

theorem orNo_shown_yesNo (b : Bool) : orNo (shown (yesNo b)) = yesNo b := by
  cases b <;> decide

theorem saveConnection_of_found (hfnd : host.find name = some c) :
    saveConnection rescued name host = .ok (c.saved name) host := by
  iterate 7 refine (bind_of_ok (property_of_found hfnd _)).trans ?_
  simp only [Connection.value, orNo_shown_yesNo]
  rfl

theorem found_of_saveConnection {state : NetworkManagerConnectionState}
    (h : saveConnection rescued name host = .ok state host') : ∃ c, host.find name = some c := by
  obtain ⟨uuid, host1, hprop, -⟩ := bind_ok h
  obtain ⟨output, host2, hrun, -⟩ := bind_ok hprop
  cases hfnd : host.find name with
  | some c => exact ⟨c, rfl⟩
  | none =>
    simp only [runner, hfnd] at hrun
    cases hrun

def SavedFrom (host : Host) (name : Text) (state : NetworkManagerConnectionState) : Prop :=
  ∃ c, host.find name = some c ∧ state = c.saved name

variable {states : List NetworkManagerConnectionState}

theorem saveLines_ok_iff {lines : List Text} : saveLines rescued lines host = .ok states host' ↔
    host' = host ∧
      List.Forall₂ (SavedFrom host) (lines.filterMap savedName) states := by
  induction lines generalizing states with
  | nil =>
    rw [filterMap_nil, forall₂_nil_left_iff]
    constructor
    · intro h
      cases h
      exact ⟨rfl, rfl⟩
    · rintro ⟨rfl, rfl⟩
      rfl
  | cons line lines ih =>
    unfold saveLines
    cases hname : savedName line with
    | none => rw [filterMap_cons_none hname, ← ih]
    | some name =>
      rw [filterMap_cons_some hname, forall₂_cons_left_iff]
      constructor
      · intro h
        obtain ⟨state, host1, hstate, h⟩ := bind_ok h
        obtain ⟨c, hfnd⟩ := found_of_saveConnection hstate
        rw [saveConnection_of_found hfnd] at hstate
        cases hstate
        obtain ⟨rest, host2, hrest, h⟩ := bind_ok h
        cases h
        obtain ⟨rfl, hall⟩ := ih.mp hrest
        exact ⟨rfl, _, _, ⟨c, hfnd, rfl⟩, hall, rfl⟩
      · rintro ⟨rfl, state, rest, ⟨c, hfnd, rfl⟩, hall, rfl⟩
        refine (bind_of_ok (saveConnection_of_found hfnd)).trans ?_
        exact bind_of_ok (ih.mpr ⟨rfl, hall⟩)

/-- The names that are read from the listing of the active connections. -/
def listedNames (host : Host) : List Text :=
  ((splitlines (strip host.listing)).filter fun line => strip line ≠ []).filterMap savedName

/-- `detect_resolver_manager` finds that NetworkManager manages DNS. -/
def ManagedByNetworkManager (rescued : Host → Host) (host : Host) : Prop :=
  ∃ inventory, detectResolverManager rescued host = .ok inventory host ∧
    inventory.manager = .networkManager

theorem serviceActive_eq (service : Service) :
    serviceActive rescued service host = .ok (host.serviceActive service) host := by
  have hrun : runner rescued (.isActive service) host =
      .ok (if host.serviceActive service then "active" else "inactive").toList host := rfl
  refine (bind_of_ok hrun).trans ?_
  cases host.serviceActive service <;> rfl

theorem networkManagerActive_of_managed {inventory : ResolverInventory}
    (h : detectResolverManager rescued host = .ok inventory host)
    (hman : inventory.manager = .networkManager) :
    host.networkManagerActive = true ∧ inventory.networkManagerActive = true := by
  obtain ⟨host0, _, hget, h⟩ := bind_ok h
  cases hget
  rw [bind_of_ok (serviceActive_eq .systemdResolved),
    bind_of_ok (serviceActive_eq .networkManager)] at h
  cases hact : host.networkManagerActive with
  | true =>
    have hserv : host.serviceActive .networkManager = true := hact
    rw [if_pos hserv] at h
    obtain ⟨managed, host1, -, h⟩ := bind_ok h
    cases h
    exact ⟨rfl, hact⟩
  | false =>
    have hserv : host.serviceActive .networkManager = false := hact
    rw [if_neg (Bool.eq_false_iff.mp hserv)] at h
    cases h
    revert hman
    simp only [Bool.false_and, Bool.false_eq_true, if_false]
    split
    · nofun
    · split <;> nofun

variable {snapshot : DNSStateSnapshot}

theorem saveState_ok_iff (hman : ManagedByNetworkManager rescued host) {link : Option Text} :
    saveState rescued link host = .ok snapshot host' ↔ host' = host ∧
      ∃ inventory states, detectResolverManager rescued host = .ok inventory host ∧
      inventory.manager = .networkManager ∧
        List.Forall₂ (SavedFrom host) (listedNames host) states ∧
        snapshot = ⟨inventory, host.readResolvConf, states, link⟩ := by
  obtain ⟨inventory, hinv, hmanager⟩ := hman
  obtain ⟨hact, hact'⟩ := networkManagerActive_of_managed hinv hmanager
  have hrun : runner rescued .showActive host = .ok (strip host.listing) host := if_pos hact
  have hsave : ∀ {x}, saveNetworkManagerConnections rescued inventory host = x ↔
      saveLines rescued ((splitlines (strip host.listing)).filter fun line => strip line ≠ [])
      host = x := by
    unfold saveNetworkManagerConnections
    rw [if_neg (by simp [hact']), bind_of_ok hrun]
  unfold saveState
  rw [bind_of_ok hinv]
  constructor
  · intro h
    obtain ⟨host0, _, hget, h⟩ := bind_ok h
    cases hget
    obtain ⟨states, host1, hstates, h⟩ := bind_ok h
    obtain ⟨rfl, hall⟩ := saveLines_ok_iff.mp (hsave.mp hstates)
    cases h
    exact ⟨rfl, inventory, states, hinv, hmanager, hall, rfl⟩
  · rintro ⟨rfl, inventory', states, hinv', -, hall, rfl⟩
    rw [hinv] at hinv'
    cases hinv'
    exact (bind_of_ok rfl).trans (bind_of_ok (hsave.mpr (saveLines_ok_iff.mpr ⟨rfl, hall⟩)))

/-! ## Applying and restoring -/

/-- What a loop of `nmcli con mod` makes of a connection. -/
def Connection.modifyEach (settings : NetworkManagerConnectionState → List (Property × Text))
    (states : List NetworkManagerConnectionState) (c : Connection) : Connection :=
  states.foldl (fun c state => if c.name = state.name then c.setAll (settings state) else c) c

theorem name_set (c : Connection) (setting : Property × Text) : (c.set setting).name = c.name := by
  obtain ⟨property, text⟩ := setting
  cases property <;> rfl

theorem name_setAll (c : Connection) (settings : List (Property × Text)) :
    (c.setAll settings).name = c.name := by
  induction settings generalizing c with
  | nil => rfl
  | cons setting settings ih => exact (ih _).trans (name_set c setting)

theorem find_isSome_iff : (∃ c, host.find name = some c) ↔
    name ∈ host.connections.map Connection.name := by
  rw [← Option.isSome_iff_exists, Host.find]
  simp

theorem names_modify (name : Text) (settings : List (Property × Text)) :
    (host.modify name settings).connections.map Connection.name =
      host.connections.map Connection.name := by
  unfold Host.modify
  rw [map_map]
  refine map_congr_left fun c _ => ?_
  change (if c.name = name then c.setAll settings else c).name = c.name
  split
  · exact name_setAll c settings
  · rfl

theorem modifyEach_ok (rescued : Host → Host)
    (settings : NetworkManagerConnectionState → List (Property × Text))
    (hexist : ∀ state ∈ states, state.name ∈ host.connections.map Connection.name) :
    ∃ host', modifyEach rescued settings states host = .ok () host' ∧
      host'.connections = host.connections.map (Connection.modifyEach settings states) ∧
      host'.modified = host.modified ++ states.map NetworkManagerConnectionState.name := by
  induction states generalizing host with
  | nil => exact ⟨host, rfl, (map_id' _).symm, (append_nil _).symm⟩
  | cons state states ih =>
    obtain ⟨c, hfnd⟩ := find_isSome_iff.mpr (hexist state mem_cons_self)
    have hrun : runner rescued (.modify state.name (settings state)) host =
        .ok [] (host.modify state.name (settings state)) := by
      simp only [runner, hfnd]
    have hexist' : ∀ other ∈ states, other.name ∈
        (host.modify state.name (settings state)).connections.map Connection.name := by
      intro other hoth
      rw [names_modify]
      exact hexist other (mem_cons_of_mem _ hoth)
    obtain ⟨host', hloop, hconns, hmod⟩ := ih hexist'
    refine ⟨host', (bind_of_ok hrun).trans hloop, hconns.trans (map_map ..), hmod.trans ?_⟩
    exact append_assoc ..

/-- The connection as it was read. -/
def Connection.readBack (c : Connection) : Connection :=
  { c with
    ipv4 := ⟨c.ipv4.ignoreAutoDns, shown c.ipv4.dns, shown c.ipv4.dnsSearch⟩
    ipv6 := ⟨c.ipv6.ignoreAutoDns, shown c.ipv6.dns, shown c.ipv6.dnsSearch⟩ }

theorem yesNo_eq_yes (b : Bool) : decide (yesNo b = "yes".toList) = b := by
  cases b <;> decide

theorem setAll_saved (c : Connection) (ipv4 ipv6 : FamilyDns) (name : Text) :
    Connection.setAll { c with ipv4, ipv6 } (c.saved name).settings =
      c.readBack := by
  simp only [Connection.setAll, NetworkManagerConnectionState.settings, foldl_cons, foldl_nil,
    Connection.set, Connection.saved, yesNo_eq_yes]
  rfl

/-- Whatever was applied, a connection that was saved is put back as it was read, and no other is
changed. -/
theorem restored_eq (hsaved : ∀ state ∈ states, state.name = c.name → state = c.saved c.name)
    (ipv4 ipv6 : FamilyDns) : Connection.modifyEach NetworkManagerConnectionState.settings states
      { c with ipv4, ipv6 } =
      if c.name ∈ states.map NetworkManagerConnectionState.name then c.readBack
      else { c with ipv4, ipv6 } := by
  induction states generalizing ipv4 ipv6 with
  | nil => rfl
  | cons state states ih =>
    have hrest : ∀ other ∈ states, other.name = c.name → other = c.saved c.name :=
      fun other hoth => hsaved other (mem_cons_of_mem _ hoth)
    unfold Connection.modifyEach
    rw [foldl_cons, map_cons]
    by_cases hname : c.name = state.name
    · rw [if_pos hname, hsaved state mem_cons_self hname.symm, setAll_saved]
      have hin : c.name ∈ (c.saved c.name).name :: states.map NetworkManagerConnectionState.name :=
        mem_cons.mpr (.inl rfl)
      refine (ih hrest _ _).trans ?_
      split <;> rfl
    · rw [if_neg hname]
      refine (ih hrest _ _).trans ?_
      simp only [mem_cons, hname, false_or]

theorem applied_eq (entrypoint : LocalDNSEntryPoint) (states : List NetworkManagerConnectionState)
    (c : Connection) :
    ∃ ipv4 ipv6, Connection.modifyEach (fun _ => appliedSettings entrypoint) states c =
      { c with ipv4, ipv6 } ∧
      (c.name ∉ states.map NetworkManagerConnectionState.name → ipv4 = c.ipv4 ∧ ipv6 = c.ipv6) := by
  induction states generalizing c with
  | nil => exact ⟨c.ipv4, c.ipv6, rfl, fun _ => ⟨rfl, rfl⟩⟩
  | cons state states ih =>
    unfold Connection.modifyEach
    rw [foldl_cons]
    by_cases hname : c.name = state.name
    · rw [if_pos hname]
      obtain ⟨ipv4, ipv6, heq, -⟩ := ih (c.setAll (appliedSettings entrypoint))
      exact ⟨ipv4, ipv6, heq, fun hnot => absurd (mem_cons.mpr (.inl hname)) hnot⟩
    · rw [if_neg hname]
      obtain ⟨ipv4, ipv6, heq, hkept⟩ := ih c
      exact ⟨ipv4, ipv6, heq, fun hnot => hkept fun hin => hnot (mem_cons_of_mem _ hin)⟩

theorem putBack_eq (hsaved : ∀ state ∈ states, state.name = c.name → state = c.saved c.name)
    (entrypoint : LocalDNSEntryPoint) :
    Connection.modifyEach NetworkManagerConnectionState.settings states
        (Connection.modifyEach (fun _ => appliedSettings entrypoint) states c) =
      if c.name ∈ states.map NetworkManagerConnectionState.name then c.readBack else c := by
  obtain ⟨ipv4, ipv6, heq, hkept⟩ := applied_eq entrypoint states c
  rw [heq, restored_eq hsaved]
  split
  · rfl
  rename_i hnot
  obtain ⟨rfl, rfl⟩ := hkept hnot
  rfl

/-- The values of the connection are read as they are. -/
structure Connection.ReadsBack (c : Connection) : Prop where
  ipv4Dns : Plain c.ipv4.dns
  ipv4DnsSearch : Plain c.ipv4.dnsSearch
  ipv6Dns : Plain c.ipv6.dns
  ipv6DnsSearch : Plain c.ipv6.dnsSearch

theorem readBack_eq_iff : c.readBack = c ↔ c.ReadsBack := by
  constructor
  · intro h
    have hipv4 := congrArg Connection.ipv4 h
    have hipv6 := congrArg Connection.ipv6 h
    exact ⟨shown_eq_iff.mp (congrArg FamilyDns.dns hipv4),
      shown_eq_iff.mp (congrArg FamilyDns.dnsSearch hipv4),
      shown_eq_iff.mp (congrArg FamilyDns.dns hipv6),
      shown_eq_iff.mp (congrArg FamilyDns.dnsSearch hipv6)⟩
  · rintro ⟨h1, h2, h3, h4⟩
    unfold Connection.readBack
    rw [shown_eq_iff.mpr h1, shown_eq_iff.mpr h2, shown_eq_iff.mpr h3, shown_eq_iff.mpr h4]

/-! ## The whole run -/

def saveApplyRestore (rescued : Host → Host) (entrypoint : LocalDNSEntryPoint)
    (link : Option Text) : Run Unit := do
  let snapshot ← saveState rescued link
  let saved ← applyLocalDns rescued entrypoint (some snapshot)
  restoreState rescued saved

theorem writeResolvConf_frame (host : Host) (content : Text) :
    (host.writeResolvConf content).connections = host.connections ∧
    (host.writeResolvConf content).modified = host.modified := by
  unfold Host.writeResolvConf
  split <;> exact ⟨rfl, rfl⟩

theorem restoreResolvConf_ok (host : Host) (snapshot : DNSStateSnapshot) :
    ∃ host', restoreResolvConf snapshot host = .ok () host' ∧
    host'.connections = host.connections ∧ host'.modified = host.modified := by
  refine ⟨_, rfl, ?_⟩
  cases snapshot.resolvConfContent with
  | none => cases linkName snapshot.inventory.resolvConfTarget <;> exact ⟨rfl, rfl⟩
  | some content => cases linkName snapshot.inventory.resolvConfTarget
      <;> exact writeResolvConf_frame _ content

theorem applyLocalDns_of_ok {entrypoint : LocalDNSEntryPoint}
    (h : applyForManager rescued snapshot.inventory.manager entrypoint snapshot host =
      .ok () host') :
    applyLocalDns rescued entrypoint (some snapshot) host = .ok snapshot host' := by
  have htry : EStateM.tryCatch
      (applyForManager rescued snapshot.inventory.manager entrypoint snapshot) (fun cause => do
      restoreState rescued snapshot
      throw cause.applyFailed) host = .ok () host' := by
    simp only [EStateM.tryCatch, h]
  exact bind_of_ok htry

theorem names_modifyEach {settings : NetworkManagerConnectionState → List (Property × Text)}
    (connections : List Connection) :
    (connections.map (Connection.modifyEach settings states)).map Connection.name =
      connections.map Connection.name := by
  have hname : ∀ c : Connection, (Connection.modifyEach settings states c).name = c.name := by
    unfold Connection.modifyEach
    induction states with
    | nil => exact fun _ => rfl
    | cons state states ih =>
      intro c
      rw [foldl_cons]
      split
      · exact (ih _).trans (name_setAll c _)
      · exact ih c
  rw [map_map]
  exact map_congr_left fun c _ => hname c

/-- The loops of applying and restoring, over connections that exist. -/
theorem connections_putBack (rescued : Host → Host)
    (hman : snapshot.inventory.manager = .networkManager)
    (hexist : ∀ state ∈ snapshot.networkManagerConnections, state.name ∈
      host.connections.map Connection.name) (entrypoint : LocalDNSEntryPoint) :
    ∃ host', (applyLocalDns rescued entrypoint (some snapshot) >>= restoreState rescued) host =
      .ok () host' ∧ host'.connections = host.connections.map (fun c =>
        Connection.modifyEach NetworkManagerConnectionState.settings
          snapshot.networkManagerConnections
          (Connection.modifyEach (fun _ => appliedSettings entrypoint)
            snapshot.networkManagerConnections c)) ∧ host'.modified = host.modified ++
        (snapshot.networkManagerConnections.map NetworkManagerConnectionState.name ++
        snapshot.networkManagerConnections.map NetworkManagerConnectionState.name) := by
  obtain ⟨host1, happ, hconns1, hmod1⟩ : ∃ host1,
      applyForManager rescued snapshot.inventory.manager entrypoint snapshot host =
      .ok () host1 ∧ _ := by
    rw [hman]
    exact modifyEach_ok rescued _ hexist
  have hexist1 : ∀ state ∈ snapshot.networkManagerConnections, state.name ∈
      host1.connections.map Connection.name := by
    intro state hstate
    rw [hconns1, names_modifyEach]
    exact hexist state hstate
  obtain ⟨host2, hrst, hconns2, hmod2⟩ :=
    modifyEach_ok rescued NetworkManagerConnectionState.settings hexist1
  obtain ⟨host3, hresolv, hconns3, hmod3⟩ := restoreResolvConf_ok host2 snapshot
  refine ⟨host3, (bind_of_ok (applyLocalDns_of_ok happ)).trans ?_, ?_, ?_⟩
  · unfold restoreState
    rw [hman]
    exact (bind_of_ok hrst).trans hresolv
  · rw [hconns3, hconns2, hconns1, map_map]
    rfl
  · rw [hmod3, hmod2, hmod1, append_assoc]

theorem found_iff (hdist : (host.connections.map Connection.name).Nodup) :
    host.find name = some c ↔ c ∈ host.connections ∧ c.name = name := by
  constructor
  · intro h
    exact ⟨mem_of_find?_eq_some h, by simpa using find?_some h⟩
  · rintro ⟨hc, rfl⟩
    obtain ⟨c', hfnd⟩ := find_isSome_iff.mpr (mem_map_of_mem hc)
    have hname : c'.name = c.name := by simpa using find?_some hfnd
    rw [hfnd, inj_on_of_nodup_map hdist (mem_of_find?_eq_some hfnd) hc hname]

theorem names_saved {names : List Text}
    (h : List.Forall₂ (SavedFrom host) names states) :
    states.map NetworkManagerConnectionState.name = names := by
  induction h with
  | nil => rfl
  | cons first _ ih =>
    obtain ⟨c, -, rfl⟩ := first
    rw [map_cons, ih]
    rfl

/-- Once saving has succeeded, the rest of the run is determined. -/
theorem saveApplyRestore_of_saved (hman : ManagedByNetworkManager rescued host)
    (hdist : (host.connections.map Connection.name).Nodup) (entrypoint : LocalDNSEntryPoint)
    (link : Option Text) (hall : List.Forall₂ (SavedFrom host) (listedNames host) states) :
    ∃ host', saveApplyRestore rescued entrypoint link host = .ok () host' ∧
      host'.connections = host.connections.map
        (fun c => if c.name ∈ listedNames host then c.readBack else c) ∧
      host'.modified = host.modified ++ (listedNames host ++ listedNames host) := by
  obtain ⟨inventory, hinv, hmanager⟩ := hman
  have hsave : saveState rescued link host =
      .ok ⟨inventory, host.readResolvConf, states, link⟩ host :=
    (saveState_ok_iff ⟨inventory, hinv, hmanager⟩).mpr
      ⟨rfl, inventory, states, hinv, hmanager, hall, rfl⟩
  have hstates : ∀ state ∈ states, ∃ c ∈ host.connections, c.name = state.name ∧
      state = c.saved c.name := by
    intro state hstate
    obtain ⟨name, -, c, hfnd, rfl⟩ := Lists.mem_right hall hstate
    obtain ⟨hc, rfl⟩ := (found_iff hdist).mp hfnd
    exact ⟨c, hc, rfl, rfl⟩
  have hexist : ∀ state ∈ states, state.name ∈ host.connections.map Connection.name := by
    intro state hstate
    obtain ⟨c, hc, hname, -⟩ := hstates state hstate
    exact mem_map.mpr ⟨c, hc, hname⟩
  obtain ⟨host', hrest, hconns, hmod⟩ := connections_putBack rescued
    (show (DNSStateSnapshot.mk inventory host.readResolvConf states link).inventory.manager =
      _ from hmanager) hexist entrypoint
  refine ⟨host', (bind_of_ok hsave).trans hrest, ?_, ?_⟩
  · rw [hconns]
    refine map_congr_left fun c hc => ?_
    rw [← names_saved hall]
    refine putBack_eq (fun state hstate hname => ?_) entrypoint
    obtain ⟨c', hc', hname', rfl⟩ := hstates state hstate
    rw [inj_on_of_nodup_map hdist hc' hc hname]
  · rw [hmod, names_saved hall]

/-- **When the DNS settings are put back.** On a host whose DNS is managed by NetworkManager, whose
connections have different names, saving, applying a local entry point and restoring succeeds,
leaves all connections as they were and modifies active ones only, exactly if every name that is
read from the listing is the name of an active connection whose servers and search domains have no
colons, no backslashes and no white space at their ends. -/
theorem dns_put_back_iff (hmanaged : ManagedByNetworkManager rescued host)
    (hdistinct : (host.connections.map Connection.name).Nodup) (entrypoint : LocalDNSEntryPoint)
    (link : Option Text) :
    (∃ host' touched, saveApplyRestore rescued entrypoint link host = .ok () host' ∧
      host'.connections = host.connections ∧ host'.modified = host.modified ++ touched ∧
      ∀ name ∈ touched, ∃ c ∈ host.connections, c.active = true ∧ c.name = name) ↔
    ∀ name ∈ listedNames host, ∃ c ∈ host.connections, c.active = true ∧ c.name = name ∧
    c.ReadsBack := by
  constructor
  · rintro ⟨host', touched, hrun, hconns, hmod, htouc⟩ name hname
    obtain ⟨snapshot, host1, hsave, -⟩ := bind_ok hrun
    obtain ⟨-, inventory, states, -, -, hall, -⟩ := (saveState_ok_iff hmanaged).mp hsave
    obtain ⟨host'', hrun', hconns', hmod'⟩ :=
      saveApplyRestore_of_saved hmanaged hdistinct entrypoint link hall
    rw [hrun] at hrun'
    cases hrun'
    have hin : name ∈ touched := by
      rw [append_cancel_left (hmod.symm.trans hmod')]
      exact mem_append_left _ hname
    obtain ⟨c, hc, hact, rfl⟩ := htouc name hin
    refine ⟨c, hc, hact, rfl, readBack_eq_iff.mp ?_⟩
    -- the connection has been put back as it was read
    have hsame := map_eq_map_iff.mp ((hconns'.symm.trans hconns).trans (map_id _).symm) c hc
    rw [if_pos hname] at hsame
    exact hsame
  · intro h
    obtain ⟨states, hall⟩ : ∃ states, List.Forall₂ (SavedFrom host) (listedNames host) states := by
      refine Lists.exists_related fun name hname => ?_
      obtain ⟨c, hc, -, hcname, -⟩ := h name hname
      exact ⟨c.saved name, c, (found_iff hdistinct).mpr ⟨hc, hcname⟩, rfl⟩
    obtain ⟨host', hrun, hconns, hmod⟩ :=
      saveApplyRestore_of_saved hmanaged hdistinct entrypoint link hall
    refine ⟨host', _, hrun, ?_, hmod, fun name hname => ?_⟩
    · rw [hconns]
      refine (map_congr_left fun c hc => ?_).trans (map_id _)
      split
      · rename_i hlist
        obtain ⟨c', hc', -, hname, hplain⟩ := h c.name hlist
        rw [inj_on_of_nodup_map hdistinct hc' hc hname] at hplain
        exact readBack_eq_iff.mpr hplain
      · rfl
    · obtain ⟨c, hc, hact, hcname, -⟩ := h name ((mem_append.mp hname).elim id id)
      exact ⟨c, hc, hact, hcname⟩

def wired (dns : Text) : Host where
  connections :=
    [{ name := "Wired".toList, connectionType := "802-3-ethernet".toList, device := "eth0".toList,
                    uuid := "5f1c".toList, active := true, ipv6 := { dns } }]
  resolvConf := .file "# Generated by NetworkManager".toList

/-- Two connections with servers of IPv4 and domains to search. -/
def docked : Host where
  connections := [
    { name := "Wired".toList, connectionType := "802-3-ethernet".toList, device := "eth0".toList,
      uuid := "5f1c".toList, active := true,
      ipv4 := { dns := "192.0.2.1,192.0.2.2".toList, dnsSearch := "lab.example".toList } },
    { name := "Home".toList, connectionType := "802-11-wireless".toList, device := "wlan0".toList,
      uuid := "77aa".toList, active := true,
      ipv4 := { dns := "198.51.100.1".toList, dnsSearch := "home.example,example".toList } }]
  resolvConf := .file "# Generated by NetworkManager".toList

/-- The settings of both connections are put back. -/
theorem dns_put_back_docked : ∃ host' touched, saveApplyRestore id {} none docked = .ok () host' ∧
    host'.connections = docked.connections ∧ host'.modified = docked.modified ++ touched ∧
    ∀ name ∈ touched, ∃ c ∈ docked.connections, c.active = true ∧ c.name = name := by
  have hman : ManagedByNetworkManager id docked := ⟨_, rfl, by decide +kernel⟩
  refine (dns_put_back_iff hman (by decide +kernel) {} none).mpr fun name hname => ?_
  have hlist : listedNames docked = ["Wired".toList, "Home".toList] := by decide +kernel
  rw [hlist, mem_cons, mem_singleton] at hname
  rcases hname with rfl | rfl
  · exact ⟨_, mem_cons_self, rfl, rfl, plain_of_all (by decide +kernel),
      plain_of_all (by decide +kernel), plain_of_all rfl, plain_of_all rfl⟩
  · exact ⟨_, mem_cons_of_mem _ mem_cons_self, rfl, rfl, plain_of_all (by decide +kernel),
      plain_of_all (by decide +kernel), plain_of_all rfl, plain_of_all rfl⟩

/-- **A server of IPv6 is not put back.** What `nmcli` prints for it is written back with the
backslashes. -/
theorem ipv6_server_not_put_back :
    ∃ host', saveApplyRestore id {} none (wired "2001:db8::1".toList) = .ok () host' ∧
    host'.connections.map (·.ipv6.dns) = ["2001\\:db8\\:\\:1".toList] := ⟨_, rfl, by decide +kernel⟩

end WatchdogVpn.SystemDns
