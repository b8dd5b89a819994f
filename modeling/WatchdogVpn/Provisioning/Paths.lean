import WatchdogVpn.Lib.Prog
import WatchdogVpn.Provisioning.Executor

/-!
# Paths and descriptor-relative file operations

The file operations are programs over single system calls (`FsReq`), so that a process may
be killed, or another one act, between any two of them. Removal asks, besides system calls,
to have its custody record written; the uninstall loop writes it to the journal, executors
do not record it at all.
-/

namespace WatchdogVpn.Provisioning

open Effect

/-! ## Identifiers -/

/-- One or more letters, digits, underscores and hyphens. -/
def isIdentifier (s : String) : Bool := s != "" && s.toList.all fun c => c.isAlphanum || c == '_' || c == '-'

/-- `validate_identifier`; the pattern it matches ends in `$`, which lets one line break through. -/
def validateIdentifier (field value : String) : Except Exc Unit :=
  let refuse reason : Except Exc Unit := .error ⟨.identifierError, field ++ reason⟩
  if value = "" then refuse " must be a non-empty string"
  else if 128 < value.toList.length then refuse " exceeds the maximum identifier length (128)"
  else if value = "." ∨ value = ".." then refuse " must not be '.' or '..'"
  else if value.toList.any fun c => c.toNat == 0 || c == '/' || c == '\\' then
    refuse " must not contain a path separator or NUL byte"
  else if isIdentifier value ∨
      (value.toList.getLast? = some '\n' ∧ isIdentifier (String.ofList value.toList.dropLast)) then .ok ()
  else refuse " contains characters outside the allowed identifier grammar"

/-! ## Path texts -/

/-- The parts of a POSIX path; `acc` is the part being read. -/
def splitParts (acc : List Char) : List Char → List String
  | [] => if acc = [] ∨ acc = ['.'] then [] else [String.ofList acc]
  | c :: cs =>
    if c = '/' then (if acc = [] ∨ acc = ['.'] then [] else [String.ofList acc]) ++ splitParts [] cs
    else splitParts (acc ++ [c]) cs

/-- `Path(p).parts` without the leading separator. -/
def pathParts (p : String) : List String := splitParts [] p.toList

def isAbsolute (p : String) : Bool := p.toList.head? == some '/'

/-- `_is_under` / `_path_is_under`: `path.relative_to(root)` succeeds. -/
def pathIsUnder (path root : String) : Bool :=
  isAbsolute path == isAbsolute root && (pathParts root).isPrefixOf (pathParts path)

/-- `path.relative_to(root).parts`. -/
def relativeParts (path root : String) : List String := (pathParts path).drop (pathParts root).length

/-- An absolute path, as `validate_target_path` returns. -/
abbrev AbsPath := { p : String // p.toList.head? = some '/' }

/-- The structural checks of `validate_target_path`: the text of the one that refuses. -/
def targetPathRefusal (c : ExecutionContext) (path : String) : Option String :=
  if isAbsolute path = false then some ("target path must be absolute: " ++ path)
  else if pathParts path = [] then some "target path must not be the filesystem root"
  else if ".." ∈ pathParts path then some ("target path must not contain '..' components: " ++ path)
  else (c.forbiddenRoots.find? fun root => pathIsUnder path root).map fun root =>
    "target path must not fall under forbidden root " ++ root ++ ": " ++ path

theorem isAbsolute_of_accepted {c : ExecutionContext} {path : String} (h : targetPathRefusal c path = none) :
    isAbsolute path = true := by
  unfold targetPathRefusal at h
  split at h
  · cases h
  · rename_i habs; simpa using habs

/-- `handle_for_allowed_root`: the allowed root a validated path lies under. -/
def handleForAllowedRoot (c : ExecutionContext) (validated : String) : Except Exc String :=
  match (if c.locked then c.allowedRoots else []).find? fun root => pathIsUnder validated root with
  | some root => .ok root
  | none => .error ⟨.pathPolicyError, "no allowed-root handle bound for " ++ validated ++
      "; the caller must open one under the lock before use"⟩

/-- `_validate_owned_resource_path_for_authority`: the allowed root of an owned resource. -/
def validateOwnedResourcePathForAuthority (c : ExecutionContext) (resource : String) : Except Exc String :=
  if !isAbsolute resource || (pathParts resource).contains ".." then
    .error ⟨.pathPolicyError,
      "owned resource path must be absolute and must not contain '..': " ++ resource⟩
  else
    match c.forbiddenRoots.find? fun root => pathIsUnder resource root with
    | some root => .error ⟨.pathPolicyError,
        "owned resource path falls under forbidden root " ++ root ++ ": " ++ resource⟩
    | none =>
      match c.allowedRoots.find? fun root => pathIsUnder resource root with
      | some root => .ok root
      | none => .error ⟨.pathPolicyError,
          "owned resource path " ++ resource ++ " is outside every allowed root"⟩

/-! ## System calls -/

/-- An open file descriptor, named by the inode it refers to. -/
abbrev Fd := Nat

/-- The system calls of the file operations, relative to the handle of an allowed root. -/
inductive FsReq
  /-- The walk of `validate_target_path` over the components that exist. -/
  | resolve (path : String)
  | openParent (path : String)
  | openRead (path : String)
  | fsyncParent (path : String)
  | fstat (fd : Fd)
  | sha256 (fd : Fd)
  | getuid
  | openCustody
  | mkdirCustody
  | fsyncRoot
  | fsyncCustody
  | rmdirCustody
  | quarantineName (basename : String)
  | renameToCustody (path name : String)
  | renameFromCustody (name path : String)
  | openQuarantined (name : String)
  | unlinkQuarantined (name : String)

abbrev FsAns : FsReq → Type
  | .resolve _ => Except Exc AbsPath
  | .openRead _ | .openCustody | .openQuarantined _ => Except Exc Fd
  | .fstat _ => Except Exc Stat
  | .sha256 _ => Except Exc String
  | .getuid => Nat
  | .quarantineName _ => String
  | _ => Except Exc Unit

/-- The requests of a removal: system calls, and the custody records it wants written. -/
inductive RemovalReq
  | fs (q : FsReq)
  | record (r : CustodyRecord)

abbrev RemovalAns : RemovalReq → Type
  | .fs q => FsAns q
  | .record _ => Except Exc Unit

abbrev RemovalProg := Prog RemovalAns Exc

def RemovalReq.sys (q : FsReq) : RemovalProg (FsAns q) := .ask (RemovalReq.fs q)

/-- `except OSError as exc: raise wrapped`. -/
def onOSError (x : Exc) (wrapped : Exc) : Exc := if x.isOSError then wrapped else x

/-! ## Removal through the custody directory -/

def custodyDirName : String := ".wdvpn-custody"

/-- `"%o" % n`. -/
def octal (n : Nat) : String := String.ofList (Nat.toDigits 8 n)

/-- `custody_recorder(record)`. -/
def RemovalReq.put (r : CustodyRecord) : RemovalProg (Except Exc Unit) := .ask (RemovalReq.record r)

open RemovalReq (sys put)

/-- `_verify_private_directory_fd`; the mode bits of `0o022` are the write bits of group and world.
-/
def verifyPrivateDirectoryFd (fd : Fd) (label : String) (policy : CustodyIsolationPolicy) :
    RemovalProg Unit := do
  let st ← .ofExcept (← sys (.fstat fd))
  if st.isDirectory = false then
    .raise ⟨.pathPolicyError, label ++ " is not a directory"⟩
  let uid ← sys .getuid
  if st.uid ≠ uid then
    .raise ⟨.pathPolicyError, label ++ " is owned by uid " ++ toString st.uid ++ ", expected " ++ toString uid⟩
  if st.mode &&& 0o022 ≠ 0 then
    .raise ⟨.pathPolicyError, label ++ " must not be writable by group/world actors, found mode " ++
      octal st.mode⟩
  if policy.requireUidSeparation = true ∧ st.uid = policy.adversaryUid.getD uid then
    .raise ⟨.pathPolicyError, label ++ " is owned by the configured adversary uid " ++
      toString (policy.adversaryUid.getD uid) ++ "; no effective same-uid custody separation exists"⟩

def openPrivateCustodyDir (resourceDev : Nat) (label : String) (policy : CustodyIsolationPolicy) :
    RemovalProg Fd := do
  let fd ← do
    match ← sys .openCustody with
    | .ok fd => pure fd
    | .error x =>
      if x.kind = .fileNotFoundError then
        match ← sys .mkdirCustody with
        | .error y => if y.kind = .fileExistsError then pure () else .raise y
        | .ok _ =>
          match ← sys .fsyncRoot with
          | .ok _ => pure ()
          | .error y => .raise (onOSError y ⟨.durabilityError, "custody directory creation for " ++
              label ++ " could not be durably fsynced: " ++ y.message⟩)
        .ofExcept (← sys .openCustody)
      else if x.kind = .symlinkLoopError then
        .raise ⟨.pathPolicyError, "custody directory is a symlink for " ++ label⟩
      else .raise (onOSError x ⟨.pathPolicyError, "cannot open custody directory for " ++ label ++ ": " ++
        x.message⟩)
  verifyPrivateDirectoryFd fd ("custody directory for " ++ label) policy
  let st ← .ofExcept (← sys (.fstat fd))
  if st.dev ≠ resourceDev then
    .raise ⟨.pathPolicyError, "custody directory for " ++ label ++ " is on a different filesystem"⟩
  pure fd

/-- `_restore_quarantine_or_raise`: put the entry back, then raise in any case. -/
def restoreQuarantineOrRaise (name path reason : String) : RemovalProg Unit := do
  match ← sys (.renameFromCustody name path) with
  | .error x => .raise (onOSError x ⟨.pathPolicyError, "refusing to remove " ++ path ++ ": " ++ reason ++
      "; could not restore quarantine entry " ++ name ++ " without replacement: " ++ x.message⟩)
  | .ok _ =>
    let synced : RemovalProg Unit := do
      .ofExcept (← sys .fsyncCustody)
      .ofExcept (← sys (.fsyncParent path))
    match ← synced.attempt with
    | .error x => .raise (onOSError x ⟨.durabilityError, "restore of quarantined " ++ path ++
        " completed but its directory could not be durably fsynced: " ++ x.message⟩)
    | .ok _ => .raise ⟨.pathPolicyError, "refusing to remove " ++ path ++ ": " ++ reason ++
        "; restored quarantined entry without replacement"⟩

/-- The checks on the custody entry after the move: the same inode and, if a hash is expected, the
same content. Returns its identity and its hash. -/
def verifyQuarantined (path name : String) (st : Stat) (expectedSha256 : Option String) :
    RemovalProg (Stat × Option String) := do
  let qfd ← do
    match ← sys (.openQuarantined name) with
    | .ok qfd => pure qfd
    | .error x =>
      if x.kind = .fileNotFoundError then
        .raise ⟨.pathPolicyError, "quarantined entry for " ++ path ++ " vanished unexpectedly"⟩
      else if x.kind = .symlinkLoopError then
        .raise ⟨.pathPolicyError, "quarantined entry for " ++ path ++ " is a symlink"⟩
      else .raise (onOSError x ⟨.pathPolicyError, "cannot open quarantined entry for " ++ path ++ ": " ++
        x.message⟩)
  let quarantined ← .ofExcept (← sys (.fstat qfd))
  if quarantined.isRegular = false then
    .raise ⟨.pathPolicyError, "quarantined entry for " ++ path ++ " is not a regular file"⟩
  if (quarantined.dev, quarantined.ino) ≠ (st.dev, st.ino) then
    restoreQuarantineOrRaise name path "quarantined a different inode"
  match expectedSha256 with
  | none => pure (quarantined, none)
  | some expected =>
    let actual ← .ofExcept (← sys (.sha256 qfd))
    if actual ≠ expected then
      .raise ⟨.pathPolicyError, "refusing to remove " ++ path ++
        ": quarantined inode content hash changed after initial verification; residual quarantine entry " ++
        name ++ " remains for recovery"⟩
    pure (quarantined, some actual)

/-- The second look at the custody entry, right before the unlink. -/
def reverifyQuarantined (path name : String) (st : Stat) (expectedSha256 : Option String) :
    RemovalProg Unit := do
  let fd ← do
    match ← sys (.openQuarantined name) with
    | .ok fd => pure fd
    | .error x =>
      let residual := custodyDirName ++ "/" ++ name
      if x.kind = .fileNotFoundError then
        .raise ⟨.pathPolicyError, "refusing to remove " ++ path ++
          ": quarantine entry vanished before unlink; residual " ++ residual⟩
      else if x.kind = .symlinkLoopError then
        .raise ⟨.pathPolicyError, "refusing to remove " ++ path ++
          ": quarantine entry became a symlink before unlink; residual " ++ residual⟩
      else .raise (onOSError x ⟨.pathPolicyError, "refusing to remove " ++ path ++
        ": cannot reopen quarantine entry before unlink; residual " ++ residual ++ ": " ++ x.message⟩)
  let again ← .ofExcept (← sys (.fstat fd))
  if (again.dev, again.ino) ≠ (st.dev, st.ino) then
    .raise ⟨.pathPolicyError, "refusing to remove " ++ path ++
      ": quarantine entry identity changed before unlink; residual " ++ name⟩
  match expectedSha256 with
  | none => pure ()
  | some expected =>
    let actual ← .ofExcept (← sys (.sha256 fd))
    if actual ≠ expected then
      .raise ⟨.pathPolicyError, "refusing to remove " ++ path ++
        ": quarantine entry content changed before unlink; residual " ++ name⟩

/-- The end of a removal: the custody entry is unlinked, recorded as deleted, and the custody
directory removed if that left it empty. -/
def finishRemoval (path name : String) (deleted : CustodyRecord) : RemovalProg Bool := do
  .ofExcept (← sys (.unlinkQuarantined name))
  match ← sys .fsyncCustody with
  | .error x => .raise (onOSError x ⟨.durabilityError, "removal of " ++ path ++
      " completed but its directory could not be durably fsynced: " ++ x.message⟩)
  | .ok _ =>
    .ofExcept (← put deleted)
    match ← sys .rmdirCustody with
    | .error x => if x.isOSError then pure true else .raise x
    | .ok _ =>
      match ← sys .fsyncRoot with
      | .ok _ => pure true
      | .error x => .raise (onOSError x ⟨.durabilityError, "empty custody directory cleanup for " ++ path ++
          " could not be durably fsynced: " ++ x.message⟩)

/-- `remove_file_if_owned_relative`: check the open file, move it into custody, check it again
there, unlink it. `false` means that there was nothing to remove. -/
def removeFileIfOwnedRelative (root path : String) (expectedSha256 : Option String) (resourceId : String)
    (policy : CustodyIsolationPolicy) : RemovalProg Bool := do
  .ofExcept (← sys (.openParent path))
  match ← sys (.openRead path) with
  | .error x =>
    if x.kind = .fileNotFoundError then pure false
    else if x.kind = .symlinkLoopError then
      .raise ⟨.pathPolicyError, "refusing to remove a symlink: " ++ path⟩
    else .raise (onOSError x ⟨.pathPolicyError, "cannot open " ++ path ++ " for removal: " ++ x.message⟩)
  | .ok fd =>
    let st ← .ofExcept (← sys (.fstat fd))
    if st.isRegular = false then
      .raise ⟨.pathPolicyError, "refusing to remove a non-regular file: " ++ path⟩
    match expectedSha256 with
    | none => pure ()
    | some expected =>
      let actual ← .ofExcept (← sys (.sha256 fd))
      if actual ≠ expected then
        .raise ⟨.pathPolicyError, "refusing to remove " ++ path ++
          ": content hash diverged from what this transaction created (ownership drift)"⟩
    let custodyFd ← openPrivateCustodyDir st.dev path policy
    let basename := (pathParts path).getLastD ""
    let name ← sys (.quarantineName basename)
    let custodySt ← .ofExcept (← sys (.fstat custodyFd))
    let pending : CustodyRecord :=
      { resourceId, state := .movePending, originalPath := path,
        originalParent := "/" ++ "/".intercalate (pathParts path).dropLast,
        originalName := basename, original := st, authorizedHash := expectedSha256,
        custodyDir := root ++ "/" ++ custodyDirName, custodyDirStat := custodySt, custodyName := name }
    .ofExcept (← put pending)
    match ← sys (.renameToCustody path name) with
    | .error x =>
      if x.kind = .fileNotFoundError then pure false
      else if x.kind = .fileExistsError then
        .raise ⟨.pathPolicyError, "cannot quarantine " ++ path ++
          " for removal: quarantine destination already exists"⟩
      else .raise (onOSError x ⟨.pathPolicyError, "cannot quarantine " ++ path ++
        " for removal with no-replace rename: " ++ x.message⟩)
    | .ok _ =>
      let synced : RemovalProg Unit := do
        .ofExcept (← sys (.fsyncParent path))
        .ofExcept (← sys .fsyncCustody)
      match ← synced.attempt with
      | .error x => .raise (onOSError x ⟨.durabilityError, "quarantine of " ++ path ++
          " completed but its directory could not be durably fsynced: " ++ x.message⟩)
      | .ok _ =>
        let (quarantined, movedHash) ← verifyQuarantined path name st expectedSha256
        .ofExcept (← put
          { pending with state := .moved, moved := some quarantined, movedHash })
        reverifyQuarantined path name st expectedSha256
        finishRemoval path name
          { pending with state := .deleted, moved := some st, movedHash := expectedSha256 }

end WatchdogVpn.Provisioning
