import WatchdogVpn.Documents.Profiles
import WatchdogVpn.Lib.Lists
import Mathlib.Logic.Relation

/-!
# Recording the health of a profile

The runtime reads a profile, probes it, and then writes the whole profile back with the result. The
lock of the store covers the write alone, so between the two any other process may add, edit or
remove profiles.

* `Step` is the system: the stored items, the profiles the runtime has in its hands, and what the
  runtime and the other processes do.
* **`record_only_health_iff`**: a record changes nothing but the health and latency fields of the
  stored profile exactly if the stored profile still is the one that was read and is the last of the
  list.
* **`alone_agrees`**: as long as no other process writes, it still is the one that was read.
* `removed_profile_returns`: a profile that is removed during a probe is stored again.
-/

namespace WatchdogVpn.HealthRecord

open Documents List

variable {D : Type}

/-! ## The store -/

/-- What the profile store uses: the library, and whether `validate_openvpn_profile` accepts a
profile. -/
structure Setting (D : Type) where
  lib : Library D
  openvpnValid : Profile D → Bool

/-- `item.get("id") == profile_id`. -/
def hasId (profileId : String) (item : Object) : Bool :=
  match item.get "id" with
  | some (.str id) => id == profileId
  | _ => false

namespace ProfileStore

variable (E : Setting D)

/-- `add`, and nothing if the profile is refused. -/
def add (profile : Profile D) (items : List Object) : Option (List Object) :=
  if E.openvpnValid profile then
    some (items.filter (fun item => !hasId profile.id item) ++ [profile.toDict E.lib])
  else none

def update (profile : Profile D) (items : List Object) : Option (List Object) := add E profile items

/-- `list`, and nothing if an item cannot be read. -/
def list (items : List Object) : Option (List (Profile D)) := (items.mapM (Profile.fromDict E.lib)).toOption

/-- `update_atomically`, and nothing if it raises. -/
def updateAtomically (transform : List (Profile D) → List (Profile D)) (items : List Object) :
    Option (List Object) := do
  let current ← list E items
  let replacement := transform current
  if replacement.all E.openvpnValid then some (replacement.map (Profile.toDict E.lib)) else none

/-- `get`, and nothing if there is no such profile or it cannot be read. -/
def get (profileId : String) (items : List Object) : Option (Profile D) := do
  let item ← items.find? (hasId profileId)
  (Profile.fromDict E.lib item).toOption

def remove (profileId : String) (items : List Object) : List Object :=
  items.filter fun item => !hasId profileId item

end ProfileStore

/-- What the other processes do to the store: an addition, an edit or a refresh of any profiles, a
removal. -/
inductive StoreOperation (D : Type)
  | add (profile : Profile D)
  | updateAtomically (transform : List (Profile D) → List (Profile D))
  | remove (profileId : String)

/-- An operation that raises writes nothing. -/
def StoreOperation.run (E : Setting D) : StoreOperation D → List Object → List Object
  | add profile, items => (ProfileStore.add E profile items).getD items
  | updateAtomically transform, items => (ProfileStore.updateAtomically E transform items).getD items
  | remove profileId, items => ProfileStore.remove profileId items

/-! ## The runtime -/

/-- The result of a check; the latency is absent where none was measured. -/
structure Check (D : Type) where
  status : String
  latencyMs : Option (Option String)
  now : D

/-- What `_record_health_result` assigns. -/
def Check.assign (c : Check D) (profile : Profile D) : Profile D :=
  match c.latencyMs with
  | none => { profile with healthStatus := c.status, lastHealthCheck := some c.now }
  | some latency =>
    { profile with
      healthStatus := c.status, lastHealthCheck := some c.now, latencyMs := latency,
        lastLatencyCheck := some c.now }

def recordHealthResult (E : Setting D) (c : Check D) (profile : Profile D) (items : List Object) :
    List Object :=
  (ProfileStore.update E (c.assign profile) items).getD items

/-- The stored items, and the profile objects the runtime has read. -/
structure State (D : Type) where
  items : List Object
  held : List (Profile D)

/-- What the runtime does: a read, or the end of a check, which assigns to its profile object. -/
inductive RuntimeStep (E : Setting D) : State D → State D → Prop
  | get {s : State D} {profileId : String} {profile : Profile D}
  (h : ProfileStore.get E profileId s.items = some profile) :
      RuntimeStep E s { s with held := profile :: s.held }
  | list {s : State D} {profiles : List (Profile D)} (h : ProfileStore.list E s.items = some profiles) :
      RuntimeStep E s { s with held := profiles ++ s.held }
  | record (c : Check D) (items : List Object) (profile : Profile D) (before after : List (Profile D)) :
      RuntimeStep E ⟨items, before ++ profile :: after⟩
        ⟨recordHealthResult E c profile items, before ++ c.assign profile :: after⟩

/-- A step of the runtime or of another process. -/
inductive Step (E : Setting D) : State D → State D → Prop
  | runtime {s s' : State D} (h : RuntimeStep E s s') : Step E s s'
  | other (operation : StoreOperation D) (s : State D) : Step E s { s with items := operation.run E s.items }

/-! ## What a record changes -/

def healthFields : List String := ["health_status", "last_health_check", "latency_ms", "last_latency_check"]

/-- Two items agree on every field but the health and latency fields. -/
def AgreeOutsideHealth (item item' : Object) : Prop := ∀ key, key ∉ healthFields → item.get key = item'.get key

/-- The items are the same, one by one, but for the health and latency fields of the profile. -/
def OnlyHealth (profileId : String) (items items' : List Object) : Prop :=
  List.Forall₂ (fun item item' => if hasId profileId item then AgreeOutsideHealth item item'
    else ∀ key, item.get key = item'.get key) items items'

/-- The same where the profile may have moved among the others. -/
def OnlyHealthMoved (profileId : String) (items items' : List Object) : Prop :=
  items'.filter (fun item => !hasId profileId item) = items.filter (fun item => !hasId profileId item) ∧
    List.Forall₂ AgreeOutsideHealth (items.filter (hasId profileId)) (items'.filter (hasId profileId))

/-- The store has one item for the profile, and it is the profile that was read but for its health.
-/
def AsRead (lib : Library D) (profile : Profile D) (items : List Object) : Prop :=
  ∃ item, items.filter (hasId profile.id) = [item] ∧ AgreeOutsideHealth item (profile.toDict lib)

def IsLast (profileId : String) (items : List Object) : Prop :=
  ∃ front item, items = front ++ [item] ∧ hasId profileId item

section Record

variable {E : Setting D} {c : Check D} {profile : Profile D} {items : List Object}

@[simp] theorem assign_id : (c.assign profile).id = profile.id := by
  unfold Check.assign
  cases c.latencyMs <;> rfl

theorem assign_agrees (lib : Library D) :
    AgreeOutsideHealth (profile.toDict lib) ((c.assign profile).toDict lib) := by
  intro key hkey
  have hoth : ∀ {field : String} {value value' : Json}, field ∈ healthFields → field = key → value = value' :=
    fun hfield heq => absurd (heq ▸ hfield) hkey
  -- field by field: the values are the same, or the field is one of health or latency
  unfold Check.assign
  cases c.latencyMs <;>
    refine PyDict.get_congr ?_ <;>
    repeat' first
      | exact List.Forall₂.nil
      | refine List.Forall₂.cons ⟨rfl, fun _ => rfl⟩ ?_
      | refine List.Forall₂.cons ⟨rfl, hoth (by simp [healthFields])⟩ ?_

@[simp] theorem hasId_toDict (lib : Library D) (profileId : String) :
    hasId profileId (profile.toDict lib) = (profile.id == profileId) := rfl

theorem AgreeOutsideHealth.trans {a b d : Object} (h : AgreeOutsideHealth a b) (h' : AgreeOutsideHealth b d) :
    AgreeOutsideHealth a d := fun key hkey => (h key hkey).trans (h' key hkey)

theorem AgreeOutsideHealth.symm {a b : Object} (h : AgreeOutsideHealth a b) : AgreeOutsideHealth b a :=
  fun key hkey => (h key hkey).symm

theorem AgreeOutsideHealth.hasId {a b : Object} (h : AgreeOutsideHealth a b) (profileId : String) :
    hasId profileId a = hasId profileId b := by
  unfold HealthRecord.hasId
  rw [h "id" (by decide)]

theorem agree_assign_iff {lib : Library D} {item : Object} :
    AgreeOutsideHealth item ((c.assign profile).toDict lib) ↔ AgreeOutsideHealth item (profile.toDict lib) :=
  ⟨fun h => h.trans (assign_agrees lib).symm, fun h => h.trans (assign_agrees lib)⟩

theorem recordHealthResult_of_valid (h : E.openvpnValid (c.assign profile) = true) :
    recordHealthResult E c profile items =
      items.filter (fun item => !hasId profile.id item) ++ [(c.assign profile).toDict E.lib] := by
  rw [recordHealthResult, ProfileStore.update, ProfileStore.add, if_pos h, Option.getD_some, assign_id]

theorem recordHealthResult_of_invalid (h : E.openvpnValid (c.assign profile) = false) :
    recordHealthResult E c profile items = items := by
  rw [recordHealthResult, ProfileStore.update, ProfileStore.add, if_neg (by simp [h]), Option.getD_none]

theorem hasId_assign : hasId profile.id ((c.assign profile).toDict E.lib) = true := by
  rw [hasId_toDict, assign_id]
  exact beq_self_eq_true profile.id

theorem onlyHealth_refl (profileId : String) (items : List Object) : OnlyHealth profileId items items := by
  refine forall₂_same.mpr fun item _ => ?_
  split
  · exact fun _ _ => rfl
  · exact fun _ => rfl

/-- Putting an item at the end in the place of those with its id changes only health exactly if
there was one, at the end. -/
theorem onlyHealth_put_iff {profileId : String} {new : Object} :
    OnlyHealth profileId items (items.filter (fun item => !hasId profileId item) ++ [new]) ↔
      ∃ front item, items = front ++ [item] ∧ (∀ other ∈ front, hasId profileId other = false) ∧
        hasId profileId item = true ∧ AgreeOutsideHealth item new := by
  constructor
  · -- along the list: what is before the item of the profile stays in its place
    induction items with
    | nil =>
      nofun
    | cons first rest ih =>
      intro h
      by_cases hfst : hasId profileId first = true
      · have hrest : rest.filter (fun item => !hasId profileId item) = [] := by
          cases hothers : rest.filter (fun item => !hasId profileId item) with
          | nil => rfl
          | cons second others =>
            -- the next one would have to stand where the profile was
            rw [filter_cons_of_neg (by simp [hfst]), hothers] at h
            have hagr : AgreeOutsideHealth first second := by
              have hhead := (forall₂_cons.mp h).1
              rwa [if_pos hfst] at hhead
            have hsecond : second ∈ rest.filter (fun item => !hasId profileId item) := by
              rw [hothers]
              exact mem_cons_self
            have hno : hasId profileId second = false := by simpa using (mem_filter.mp hsecond).2
            rw [← hagr.hasId profileId, hfst] at hno
            cases hno
        rw [filter_cons_of_neg (by simp [hfst]), hrest] at h
        obtain ⟨hhead, htail⟩ := forall₂_cons.mp h
        rw [if_pos hfst] at hhead
        rw [forall₂_nil_right_iff] at htail
        exact ⟨[], first, by rw [htail, nil_append], nofun, hfst, hhead⟩
      · rw [filter_cons_of_pos (by simp [hfst])] at h
        obtain ⟨front, item, hitems, hfr, hitem, hagr⟩ := ih (forall₂_cons.mp h).2
        refine ⟨first :: front, item, by rw [hitems, cons_append], ?_, hitem, hagr⟩
        exact forall_mem_cons.mpr ⟨Bool.eq_false_of_not_eq_true hfst, hfr⟩
  · rintro ⟨front, item, rfl, hfr, hitem, hagr⟩
    have hothers : (front ++ [item]).filter (fun item => !hasId profileId item) = front := by
      rw [filter_append, filter_cons_of_neg (by simp [hitem]), filter_nil, append_nil]
      exact filter_eq_self.mpr fun other hoth => by simp [hfr other hoth]
    rw [hothers]
    refine rel_append (onlyHealth_refl profileId front) (List.Forall₂.cons ?_ .nil)
    rw [if_pos hitem]
    exact hagr

theorem asRead_isLast_iff {lib : Library D} : AsRead lib profile items ∧ IsLast profile.id items ↔
    ∃ front item, items = front ++ [item] ∧ (∀ other ∈ front, hasId profile.id other = false) ∧
      hasId profile.id item = true ∧ AgreeOutsideHealth item (profile.toDict lib) := by
  constructor
  · rintro ⟨⟨item, hone, hagr⟩, front, last, rfl, hlast⟩
    rw [filter_append, filter_cons_of_pos hlast] at hone
    obtain ⟨hfr, hsame⟩ := (append_eq_singleton_iff.mp hone).resolve_right fun h => (nomatch h.2)
    cases hsame
    refine ⟨front, item, rfl, fun other hoth => ?_, hlast, hagr⟩
    simpa using filter_eq_nil_iff.mp hfr other hoth
  · rintro ⟨front, item, rfl, hfr, hitem, hagr⟩
    refine ⟨⟨item, ?_, hagr⟩, front, item, rfl, hitem⟩
    rw [filter_append, filter_cons_of_pos hitem, filter_nil]
    rw [filter_eq_nil_iff.mpr fun other hoth => by simp [hfr other hoth], nil_append]

theorem filter_record_self (hval : E.openvpnValid (c.assign profile) = true) :
    (recordHealthResult E c profile items).filter (hasId profile.id) = [(c.assign profile).toDict E.lib] := by
  rw [recordHealthResult_of_valid hval, filter_append, filter_filter,
    filter_cons_of_pos hasId_assign, filter_nil]
  simp

theorem hasId_unique {item : Object} {id id' : String} (h : hasId id item = true)
    (h' : hasId id' item = true) : id = id' := by
  unfold hasId at h h'
  split at h
  · rename_i text htext
    rw [htext] at h'
    exact (beq_iff_eq.mp h).symm.trans (beq_iff_eq.mp h')
  · cases h

theorem filter_record_other {id : String} (hid : id ≠ profile.id) :
    (recordHealthResult E c profile items).filter (hasId id) = items.filter (hasId id) := by
  cases hval : E.openvpnValid (c.assign profile) with
  | false => rw [recordHealthResult_of_invalid hval]
  | true =>
    have hnew : hasId id ((c.assign profile).toDict E.lib) = false := by
      rw [hasId_toDict, assign_id]
      exact beq_false_of_ne (Ne.symm hid)
    rw [recordHealthResult_of_valid hval, filter_append, filter_filter,
      filter_cons_of_neg (by rw [hnew]; exact Bool.false_ne_true), filter_nil, append_nil]
    refine filter_congr fun item _ => ?_
    cases hitem : hasId id item with
    | false => rfl
    | true =>
      have hoth : hasId profile.id item = false :=
        Bool.eq_false_of_not_eq_true fun h => hid (hasId_unique hitem h)
      rw [hoth]
      rfl

theorem onlyHealthMoved_record_iff (hval : E.openvpnValid (c.assign profile) = true) :
    OnlyHealthMoved profile.id items (recordHealthResult E c profile items) ↔ AsRead E.lib profile items := by
  have hothers : (recordHealthResult E c profile items).filter (fun item => !hasId profile.id item) =
      items.filter (fun item => !hasId profile.id item) := by
    rw [recordHealthResult_of_valid hval, filter_append, filter_filter,
      filter_cons_of_neg (by simp), filter_nil, append_nil]
    simp
  rw [OnlyHealthMoved, hothers, filter_record_self hval]
  constructor
  · rintro ⟨-, h⟩
    obtain ⟨item, rest, hagr, hrest, hitems⟩ := forall₂_cons_right_iff.mp h
    rw [forall₂_nil_right_iff] at hrest
    exact ⟨item, by rw [hitems, hrest], agree_assign_iff.mp hagr⟩
  · rintro ⟨item, hone, hagr⟩
    rw [hone]
    exact ⟨rfl, .cons (agree_assign_iff.mpr hagr) .nil⟩

end Record

/-- **What a record changes.** Whatever has happened since the profile was read: the write changes
nothing but the health and latency fields of the stored profile exactly if the profile is refused
(then nothing is written) or the store has one item for it, which is the profile as it was read but
for its health, and that item is the last one. If the item may move to the end, the last condition
is not needed. -/
theorem record_only_health_iff (E : Setting D) (c : Check D) (profile : Profile D) (items : List Object) :
    (OnlyHealth profile.id items (recordHealthResult E c profile items) ↔
      (E.openvpnValid (c.assign profile) = true → AsRead E.lib profile items ∧ IsLast profile.id items)) ∧
    (OnlyHealthMoved profile.id items (recordHealthResult E c profile items) ↔
      (E.openvpnValid (c.assign profile) = true → AsRead E.lib profile items)) := by
  cases hval : E.openvpnValid (c.assign profile) with
  | false =>
    rw [recordHealthResult_of_invalid hval]
    exact ⟨iff_of_true (onlyHealth_refl _ _) nofun,
      iff_of_true ⟨rfl, forall₂_same.mpr fun _ _ _ _ => rfl⟩ nofun⟩
  | true =>
    refine ⟨?_, ?_⟩
    · rw [recordHealthResult_of_valid hval, onlyHealth_put_iff, asRead_isLast_iff]
      simp only [agree_assign_iff, forall_const]
    · rw [onlyHealthMoved_record_iff hval]
      simp only [forall_const]

def node : Profile Unit where
  id := "node"
  name := "node"
  protocol := .vless
  config := []
  source := .manual
  createdAt := ()

/-- A store that accepts every profile. -/
def sampleSetting : Setting Unit := ⟨sampleLibrary, fun _ => true⟩

/-- While the profile is probed, another process removes it; the result of the probe stores it
again. -/
theorem removed_profile_returns : ∃ s1 s2 s3 : State Unit,
    Step sampleSetting ⟨[node.toDict sampleLibrary], []⟩ s1 ∧ Step sampleSetting s1 s2 ∧
    Step sampleSetting s2 s3 ∧
      s2.items = [] ∧ s3.items.map (hasId "node") = [true] := by
  have hread : ProfileStore.get sampleSetting "node" [node.toDict sampleLibrary] = some node := by
    have hfnd : [node.toDict sampleLibrary].find? (hasId "node") = some (node.toDict sampleLibrary) := rfl
    exact congrArg Except.toOption (Profile.fromDict_toDict sampleLibrary node)
  exact ⟨_, _, _, .runtime (.get hread), .other (.remove "node") _,
    .runtime (.record ⟨"down", none, ()⟩ _ node [] []), rfl, rfl⟩

/-! ## The runtime alone -/

/-- Items as the store writes them, one for each profile, and the runtime holds profiles as they are
stored but for their health. -/
structure Orderly (E : Setting D) (s : State D) : Prop where
  written : ∀ item ∈ s.items, ∃ p, Profile.fromDict E.lib item = .ok p ∧
    ∀ key, item.get key = (p.toDict E.lib).get key
  distinct : ∀ id, (s.items.filter (hasId id)).length ≤ 1
  held : ∀ p ∈ s.held, AsRead E.lib p s.items

section Alone

variable {E : Setting D} {s s' : State D}

variable {p : Profile D}

theorem Orderly.asRead (h : Orderly E s) {item : Object} (hitem : item ∈ s.items)
    (hread : Profile.fromDict E.lib item = .ok p) : AsRead E.lib p s.items := by
  obtain ⟨p', hread', hkeys⟩ := h.written item hitem
  rw [hread] at hread'
  cases hread'
  have hid : hasId p.id item = true := by
    have hagr : AgreeOutsideHealth item (p.toDict E.lib) := fun key _ => hkeys key
    rw [hagr.hasId]
    exact beq_self_eq_true p.id
  have hmem : item ∈ s.items.filter (hasId p.id) := mem_filter.mpr ⟨hitem, hid⟩
  have hone := h.distinct p.id
  match hfilt : s.items.filter (hasId p.id) with
  | [] =>
    rw [hfilt] at hmem
    cases hmem
  | [only] =>
    rw [hfilt, mem_singleton] at hmem
    exact ⟨only, hfilt, hmem ▸ fun key _ => hkeys key⟩
  | _ :: _ :: _ =>
    rw [hfilt] at hone
    simp at hone

variable {items : List Object}

theorem forall_mem_middle {α : Type} {I : α → Prop} {before after : List α} {a : α} :
    (∀ x ∈ before ++ a :: after, I x) ↔ (∀ x ∈ before, I x) ∧ I a ∧ ∀ x ∈ after, I x := by
  rw [forall_mem_append, forall_mem_cons]

theorem Orderly.record {before after : List (Profile D)} (c : Check D)
    (h : Orderly E ⟨items, before ++ p :: after⟩) :
    Orderly E ⟨recordHealthResult E c p items, before ++ c.assign p :: after⟩ := by
  cases hval : E.openvpnValid (c.assign p) with
  | false =>
    -- nothing is written; the object is as stored but for its health
    rw [recordHealthResult_of_invalid hval]
    obtain ⟨hbef, ⟨item, hone, hagr⟩, haft⟩ := forall_mem_middle.mp h.held
    refine ⟨h.written, h.distinct, forall_mem_middle.mpr ⟨hbef, ⟨item, ?_, agree_assign_iff.mpr hagr⟩, haft⟩⟩
    rw [assign_id]
    exact hone
  | true =>
    have hself : (recordHealthResult E c p items).filter (hasId p.id) =
        [(c.assign p).toDict E.lib] := filter_record_self hval
    refine ⟨fun item hitem => ?_, fun id => ?_, ?_⟩
    · rw [recordHealthResult_of_valid hval, mem_append, mem_singleton] at hitem
      rcases hitem with hitem | rfl
      · exact h.written item (mem_filter.mp hitem).1
      · exact ⟨c.assign p, Profile.fromDict_toDict E.lib _, fun _ => rfl⟩
    · by_cases hid : id = p.id
      · rw [hid, hself]
        exact Nat.le_refl 1
      · rw [filter_record_other hid]
        exact h.distinct id
    · -- another object of the same profile agrees with what was stored before, and that with what is written
      have hold : ∀ q ∈ before ++ p :: after, AsRead E.lib q (recordHealthResult E c p items) := by
        intro q hq
        obtain ⟨item, hone, hagr⟩ := h.held q hq
        by_cases hid : q.id = p.id
        · obtain ⟨item', hone', hagr'⟩ := h.held p (by simp)
          rw [hid, hone'] at hone
          cases hone
          refine ⟨_, by rw [hid]; exact hself, ?_⟩
          exact ((assign_agrees E.lib).symm.trans hagr'.symm).trans hagr
        · exact ⟨item, by rw [filter_record_other hid]; exact hone, hagr⟩
      obtain ⟨hbef, -, haft⟩ := forall_mem_middle.mp hold
      exact forall_mem_middle.mpr ⟨hbef, ⟨_, by rw [assign_id]; exact hself, fun _ _ => rfl⟩, haft⟩

theorem get_eq_some {profileId : String}
    (h : ProfileStore.get E profileId items = some p) :
    ∃ item ∈ items, Profile.fromDict E.lib item = .ok p := by
  obtain ⟨item, hfind, hread⟩ := Option.bind_eq_some_iff.mp h
  refine ⟨item, mem_of_find?_eq_some hfind, ?_⟩
  cases hp : Profile.fromDict E.lib item <;> rw [hp] at hread <;> cases hread
  rfl

theorem list_eq_some {profiles : List (Profile D)} (h : ProfileStore.list E items = some profiles)
    (hp : p ∈ profiles) : ∃ item ∈ items, Profile.fromDict E.lib item = .ok p := by
  unfold ProfileStore.list at h
  cases hread : items.mapM (Profile.fromDict E.lib) with
  | error e =>
    rw [hread] at h
    cases h
  | ok ps =>
    rw [hread] at h
    cases h
    exact (Lists.mapM_ok_mem hread).1 p hp

theorem Orderly.step (h : Orderly E s) (hstep : RuntimeStep E s s') : Orderly E s' := by
  cases hstep with
  | get hget =>
    obtain ⟨item, hitem, hread⟩ := get_eq_some hget
    exact ⟨h.written, h.distinct, forall_mem_cons.mpr ⟨h.asRead hitem hread, h.held⟩⟩
  | list hlist =>
    refine ⟨h.written, h.distinct, forall_mem_append.mpr ⟨fun p hp => ?_, h.held⟩⟩
    obtain ⟨item, hitem, hread⟩ := list_eq_some hlist hp
    exact h.asRead hitem hread
  | record c items p before after => exact h.record c

/-- **Without interference the profile still is the one that was read.** As long as only the runtime
writes, every profile it holds is stored as it was read, but for its health. -/
theorem alone_agrees (h : Orderly E s) (hrun : Relation.ReflTransGen (RuntimeStep E) s s') :
    ∀ p ∈ s'.held, AsRead E.lib p s'.items := by
  suffices hord : Orderly E s' from hord.held
  induction hrun with
  | refl => exact h
  | tail _ hstep ih => exact ih.step hstep

end Alone

/-- The runtime reads the profile and records that it is down. -/
theorem alone_agrees_node : ∃ s',
    Relation.ReflTransGen (RuntimeStep sampleSetting) ⟨[node.toDict sampleLibrary], []⟩ s' ∧
    s'.held.map (·.healthStatus) = ["down"] ∧ ∀ p ∈ s'.held, AsRead sampleSetting.lib p s'.items := by
  have hone : Orderly sampleSetting ⟨[node.toDict sampleLibrary], []⟩ :=
    ⟨forall_mem_singleton.mpr ⟨node, Profile.fromDict_toDict _ node, fun _ => rfl⟩, fun _ =>
      length_filter_le _ _, nofun⟩
  have hread : ProfileStore.get sampleSetting "node" [node.toDict sampleLibrary] = some node :=
    congrArg Except.toOption (Profile.fromDict_toDict sampleLibrary node)
  have hrun := (Relation.ReflTransGen.single (RuntimeStep.get (s := ⟨_, []⟩) hread)).tail
    (.record ⟨"down", none, ()⟩ _ node [] [])
  exact ⟨_, hrun, rfl, alone_agrees hone hrun⟩

end WatchdogVpn.HealthRecord
