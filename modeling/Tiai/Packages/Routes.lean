import Mathlib
import Tiai.Lib.Column
import Tiai.Lib.Store
import Tiai.Text
import Tiai.Packages.Signature

/-!
# The routes that compose a package

`api/routes/packages.py` and `refresh_manifest` of `features/package/crud.py`.  A request on a package
reads its row and its files and answers with what it would write (`work`), then writes back the columns
it has changed (`Draft.commit`).  Who may ask, the audit log and the content store are left out; an
unhandled exception is the server's 500.

* `serve` — a request from end to end, with nothing in between;
* `applyBody_ok`, `refreshManifest_ok` — what the two halves of a change do to the row;
* `work_cases` — everything a request can do.
-/

namespace Tiai.Packages

open Deploy (Bytes)
open Lib

/-! ### Answers -/

/-- `AppError.details`. -/
inductive Details
  | none
  | field (key : String)
  | name (name : String)
  | maxBytes (maxBytes : ℕ)
  | problems (messages : List String)
  deriving DecidableEq

structure Refusal where
  error : AppError
  details : Details
  deriving DecidableEq

/-- What the handler of unhandled exceptions answers. -/
def unhandled : Refusal := ⟨⟨.internalServerError, 500, "Internal server error"⟩, .none⟩

/-- What a body that fails its validators is answered. -/
def invalidBody : Refusal := ⟨⟨.requestValidationError, 422, "Request validation failed"⟩, .none⟩

/-- `_invalid`. -/
def invalid (message : String) (details : Details) : Refusal := ⟨⟨.packageInvalid, 422, message⟩, details⟩

/-! ### Bodies -/

/-- A field of a partial body: left out, null, or a value. -/
abbrev Supplied (α : Type) := Option (Option α)

/-- `PackageBody`. -/
structure PackageBody where
  name : Supplied String
  version : Supplied String
  notes : Supplied String
  wingetId : Supplied String
  wingetVersion : Supplied String
  installRun : Supplied String
  installArgs : Supplied (List String)
  uninstallRun : Supplied String
  uninstallArgs : Supplied (List String)
  successCodes : Supplied (List ℤ)
  detectName : Supplied String

/-- A body that supplies nothing. -/
def PackageBody.empty : PackageBody :=
  ⟨none, none, none, none, none, none, none, none, none, none, none⟩

/-- A supplied value passes a check. -/
def Supplied.all {α : Type} (v : Supplied α) (check : α → Bool) : Bool :=
  Option.all (Option.all check) v

/-- `_check_args`. -/
def checkArgs (args : List String) : Bool :=
  args.length ≤ 64 && args.all fun a => a.length ≤ 1024 && a.toList.all (·.toNat ≠ 0)

/-- `_check_codes`. -/
def checkCodes (codes : List ℤ) : Bool :=
  !codes.isEmpty && codes.length ≤ 32 && codes.all fun c => -2 ^ 31 ≤ c ∧ c < 2 ^ 32

/-- The validators of the body. -/
def PackageBody.valid (body : PackageBody) : Bool :=
  body.name.all (fun s => 1 ≤ s.length ∧ s.length ≤ 200) && body.version.all (·.length ≤ 100) &&
    body.notes.all (·.length ≤ 5000) && body.installRun.all (·.length ≤ 255) &&
    body.installArgs.all checkArgs && body.uninstallRun.all (·.length ≤ 255) &&
    body.uninstallArgs.all checkArgs && body.successCodes.all checkCodes &&
    body.detectName.all (·.length ≤ 200)

def validate (body : PackageBody) : Except Refusal Unit :=
  if body.valid then .ok () else .error invalidBody

/-! ### `_apply` -/

/-- `fields[key].strip() or None`. -/
def normalised (v : Supplied String) : Supplied String := v.map fun s => s.bind fun s => truthy (strip s)

/-- The columns that the supplied fields set. -/
def setFields (p : Package) (name : String) (body : PackageBody) : Package :=
  { p with
    name := name
    version := (normalised body.version).getD p.version
    notes := (normalised body.notes).getD p.notes
    wingetId := body.wingetId.getD p.wingetId
    wingetVersion := (normalised body.wingetVersion).getD p.wingetVersion
    installRun := body.installRun.getD p.installRun
    installArgs := body.installArgs.getD p.installArgs
    uninstallRun := (normalised body.uninstallRun).getD p.uninstallRun
    uninstallArgs := body.uninstallArgs.getD p.uninstallArgs
    successCodes := body.successCodes.getD p.successCodes
    detectName := (normalised body.detectName).getD p.detectName }

/-- The name of a file to run, as `_apply` checks it. -/
def checkRun (key : String) (run : Option String) : Except Refusal Unit :=
  match run with
  | none => .ok ()
  | some run =>
    if run ≠ msiexec ∧ validFileName run = false then
      .error (invalid "Nom de fichier à lancer invalide" (.field key))
    else .ok ()

/-- The step runs `msiexec`, and says nothing to it. -/
def bareMsiexec (run : Option String) (args : Option (List String)) : Bool :=
  run = some msiexec && (args.getD []).isEmpty

/-- The end of `_apply`: a coherent package of its kind. -/
def checkKind (p : Package) : Except Refusal Package :=
  match p.kind with
  | .winget =>
    if (truthy p.wingetId).all wingetIdMatches = false ∨ truthy p.wingetId = none then
      .error (invalid "Identifiant winget invalide (ex. Mozilla.Firefox)" .none)
    else if (truthy p.wingetVersion).all wingetVersionMatches = false then
      .error (invalid "Version winget invalide" .none)
    else if (truthy p.installRun).isSome ∨ (truthy p.uninstallRun).isSome then
      .error (invalid "Un paquet winget ne lance pas de fichier" .none)
    else .ok { p with detectName := (truthy p.detectName).getD p.name }
  | .files =>
    if (truthy p.wingetId).isSome ∨ (truthy p.wingetVersion).isSome then
      .error (invalid "Un paquet de fichiers n'a pas d'identifiant winget" .none)
    else do
      checkRun "install_run" p.installRun
      checkRun "uninstall_run" p.uninstallRun
      if bareMsiexec p.uninstallRun p.uninstallArgs then
        .error (invalid
          "Désinstallation par msiexec : indiquer les arguments (ex. /x \x7bcode produit\x7d /qn)" .none)
      else if bareMsiexec p.installRun p.installArgs then
        .error (invalid
          "Installation par msiexec : indiquer les arguments (ex. /i \x7bdir\x7d\\app.msi /qn)" .none)
      else .ok p

/-- `_apply`. -/
def applyBody (p : Package) (body : PackageBody) : Except Refusal Package :=
  match body.name with
  | none => checkKind (setFields p p.name body)
  | some none => .error unhandled
  | some (some name) => checkKind (setFields p (strip name) body)

/-! ### `refresh_manifest` -/

/-- The seven columns of the signature, cleared. -/
def Package.unsigned (p : Package) : Package :=
  { p with
    signature := none
    signatureAlgorithm := none
    signerCertificate := none
    signerThumbprint := none
    signerSubject := none
    signedBy := none }

/-- The manifest's bytes moved. -/
def Package.rebuilt (p : Package) (built : Bytes) : Package :=
  { p.unsigned with manifest := some built }

variable (cfg : Settings)

/-- `refresh_manifest`. -/
def refreshManifest (p : Package) (files : List PackageFile) : Except Refusal Package :=
  match p.kind with
  | .winget => .ok p
  | .files =>
    match build cfg p files with
    | none => .error unhandled
    | some built => if p.manifest = some built then .ok p else .ok (p.rebuilt built)

/-! ### `upload_files` -/

structure Upload where
  filename : Option String
  content : Bytes

/-- `rsplit(sep, 1)[-1]`. -/
def afterLast (sep : Char) (s : List Char) : List Char := (s.reverse.takeWhile (· ≠ sep)).reverse

/-- The name an upload is stored under. -/
def baseName (filename : Option String) : String :=
  String.ofList (afterLast '\\' (afterLast '/' (filename.getD "").toList))

/-- The row of an upload, once its content is stored. -/
def uploadRow (upload : Upload) : PackageFile where
  name := baseName upload.filename
  sha256 := hexdigest cfg upload.content
  size := upload.content.length

/-- One turn of the loop of `upload_files`: a file of the same name is replaced.  The last check is the
column's width. -/
def uploadFile (written : List PackageFile) (upload : Upload) : Except Refusal (List PackageFile) :=
  if validFileName (baseName upload.filename) = false then
    .error ⟨⟨.packageFileNameInvalid, 422, "Nom de fichier refusé"⟩, .name (baseName upload.filename)⟩
  else if cfg.packageMaxBytes < upload.content.length then
    .error ⟨⟨.packageFileTooLarge, 413, "Fichier trop volumineux"⟩, .maxBytes cfg.packageMaxBytes⟩
  else if 255 < (baseName upload.filename).length then .error unhandled
  else .ok (written.filter (·.name ≠ baseName upload.filename) ++ [uploadRow cfg upload])

/-! ### Requests -/

/-- The requests on a package that exists. -/
inductive Edit
  | update (payload : PackageBody)
  | upload (files : List Upload)
  | deleteFile (name : String)
  | attachSignature (document : SignatureDocument)
  | removeSignature

/-- What a request would write: the row, and rows of `package_files`. -/
structure Draft where
  package : Package
  written : List PackageFile
  deleted : Option String

/-- The files, once the draft's are written. -/
def Draft.files (d : Draft) (files : List PackageFile) : List PackageFile :=
  files.filter (fun f => f.name ∉ d.written.map PackageFile.name ∧ d.deleted ≠ some f.name) ++ d.written

/-- `_require_files_kind`. -/
def requireFilesKind (p : Package) : Except Refusal Unit :=
  match p.kind with
  | .winget => .error (invalid "Ce paquet est un paquet winget : il n'a pas de fichiers" .none)
  | .files => .ok ()

/-- `update_package`. -/
def updatePackage (p : Package) (files : List PackageFile) (payload : PackageBody) :
    Except Refusal Draft := do
  validate payload
  let applied ← applyBody p payload
  let refreshed ← refreshManifest cfg applied files
  return ⟨refreshed, [], none⟩

/-- `upload_files`. -/
def uploadFiles (p : Package) (files : List PackageFile) (uploads : List Upload) :
    Except Refusal Draft := do
  requireFilesKind p
  let written ← uploads.foldlM (uploadFile cfg) []
  let refreshed ← refreshManifest cfg p ((Draft.mk p written none).files files)
  return ⟨refreshed, written, none⟩

/-- `delete_file`. -/
def deleteFile (p : Package) (files : List PackageFile) (name : String) : Except Refusal Draft := do
  requireFilesKind p
  if name ∉ files.map PackageFile.name then
    .error ⟨⟨.packageNotFound, 404, "File not found"⟩, .none⟩
  else do
    let refreshed ← refreshManifest cfg p ((Draft.mk p [] (some name)).files files)
    return ⟨refreshed, [], some name⟩

/-- The columns of a signature that verified. -/
def Package.signed (p : Package) (v : Verified) (user : String) : Package :=
  { p with
    signature := some v.signature
    signatureAlgorithm := some v.algorithm
    signerCertificate := some v.certificate
    signerThumbprint := some v.thumbprint
    signerSubject := some v.subject
    signedBy := some user }

/-- `attach_signature`. -/
def attachSignature (user : String) (p : Package) (files : List PackageFile)
    (document : SignatureDocument) : Except Refusal Draft := do
  requireFilesKind p
  if problems p files ≠ [] then
    .error ⟨⟨.packageNotReady, 409, "Le paquet n'est pas complet"⟩,
      .problems ((problems p files).map Problem.message)⟩
  else
    match verify cfg (p.manifest.getD []) document with
    | .error message => .error ⟨⟨.packageSignatureInvalid, 422, message⟩, .none⟩
    | .ok v => .ok ⟨p.signed v user, [], none⟩

/-- A request on a package, from the row and the files it reads. -/
def work (user : String) (p : Package) (files : List PackageFile) : Edit → Except Refusal Draft
  | .update payload => updatePackage cfg p files payload
  | .upload uploads => uploadFiles cfg p files uploads
  | .deleteFile name => deleteFile cfg p files name
  | .attachSignature document => attachSignature cfg user p files document
  | .removeSignature => .ok ⟨p.unsigned, [], none⟩

/-- `create_package`, up to its commit. -/
def createPackage (id : Uuid) (kind : PackageKind) (payload : PackageBody) : Except Refusal Package :=
  match payload.name with
  | some (some name) => do
    validate payload
    let fields : PackageBody :=
      { payload with successCodes := some (payload.successCodes.getD (some defaultSuccessCodes)) }
    let applied ← applyBody (Package.new id kind name) fields
    refreshManifest cfg applied []
  | _ => .error invalidBody

/-! ### Tables -/

/-- The two tables; `package_files` by package. -/
structure Tables where
  packages : Store Uuid Package
  files : Store Uuid (List PackageFile)

def Tables.empty : Tables := ⟨[], []⟩

/-- `files_of`. -/
def Tables.filesOf (t : Tables) (id : Uuid) : List PackageFile := (t.files.get id).getD []

/-- `require_package`. -/
def requirePackage (t : Tables) (id : Uuid) : Except Refusal Package :=
  match t.packages.get id with
  | some p => .ok p
  | none => .error ⟨⟨.packageNotFound, 404, "Package not found"⟩, .none⟩

/-- The columns of the row that have changed since it was read. -/
def Package.writeBack (read new current : Package) : Package where
  id := current.id
  kind := current.kind
  name := Lib.writeBack read.name new.name current.name
  version := Lib.writeBack read.version new.version current.version
  notes := Lib.writeBack read.notes new.notes current.notes
  wingetId := Lib.writeBack read.wingetId new.wingetId current.wingetId
  wingetVersion := Lib.writeBack read.wingetVersion new.wingetVersion current.wingetVersion
  installRun := Lib.writeBack read.installRun new.installRun current.installRun
  installArgs := Lib.writeBack read.installArgs new.installArgs current.installArgs
  uninstallRun := Lib.writeBack read.uninstallRun new.uninstallRun current.uninstallRun
  uninstallArgs := Lib.writeBack read.uninstallArgs new.uninstallArgs current.uninstallArgs
  successCodes := Lib.writeBack read.successCodes new.successCodes current.successCodes
  detectName := Lib.writeBack read.detectName new.detectName current.detectName
  manifest := Lib.writeBack read.manifest new.manifest current.manifest
  signature := Lib.writeBack read.signature new.signature current.signature
  signatureAlgorithm := Lib.writeBack read.signatureAlgorithm new.signatureAlgorithm
    current.signatureAlgorithm
  signerCertificate := Lib.writeBack read.signerCertificate new.signerCertificate
    current.signerCertificate
  signerThumbprint := Lib.writeBack read.signerThumbprint new.signerThumbprint current.signerThumbprint
  signerSubject := Lib.writeBack read.signerSubject new.signerSubject current.signerSubject
  signedBy := Lib.writeBack read.signedBy new.signedBy current.signedBy

/-- The commit of a request on the package `id`, over whatever is committed by then. -/
def Draft.commit (d : Draft) (id : Uuid) (read : Package) (t : Tables) : Tables :=
  match t.packages.get id with
  | none => t
  | some current => ⟨t.packages.put id (read.writeBack d.package current),
      t.files.put id (d.files (t.filesOf id))⟩

/-- A request of an account; a package that is created gets the `uuid4` drawn for it. -/
inductive Request
  | create (id : Uuid) (kind : PackageKind) (payload : PackageBody)
  | edit (id : Uuid) (user : String) (edit : Edit)

/-- A request, with nothing in between. -/
def serve (t : Tables) : Request → Except Refusal Tables
  | .create id kind payload => do
    let p ← createPackage cfg id kind payload
    if (t.packages.get id).isSome then .error unhandled
    else return { t with packages := t.packages.put id p }
  | .edit id user edit => do
    let p ← requirePackage t id
    let d ← work cfg user p (t.filesOf id) edit
    return d.commit id p t

/-- The tables after a request: one that is refused leaves them as they were. -/
def serveStep (t : Tables) (request : Request) : Tables :=
  match serve cfg t request with
  | .ok t' => t'
  | .error _ => t

/-! ### What a change does to the row -/

/-- What `_apply` lets a package of files run. -/
def RunOk (run : Option String) : Prop := ∀ r, run = some r → r = msiexec ∨ validFileName r = true

section Change

variable {cfg} {p p' : Package} {files : List PackageFile} {body : PackageBody} {built : Bytes}

lemma checkRun_ok {key : String} {run : Option String} (h : checkRun key run = .ok ()) : RunOk run := by
  rintro r rfl
  simp only [checkRun] at h
  split at h
  · cases h
  · rename_i hrun
    rw [not_and, Bool.not_eq_false] at hrun
    exact or_iff_not_imp_left.2 hrun

lemma checkKind_ok (h : checkKind p = .ok p') :
    (∃ detect, p' = { p with detectName := detect }) ∧
      (p.kind = .files → RunOk p'.installRun ∧ RunOk p'.uninstallRun) := by
  unfold checkKind at h
  split at h
  · rename_i hkind
    split at h
    · cases h
    split at h
    · cases h
    split at h
    · cases h
    cases h
    exact ⟨⟨_, rfl⟩, fun hfiles => nomatch hkind.symm.trans hfiles⟩
  · split at h
    · cases h
    obtain ⟨⟨⟩, hinstall, h⟩ := bind_eq_ok h
    obtain ⟨⟨⟩, huninstall, h⟩ := bind_eq_ok h
    split at h
    · cases h
    split at h
    · cases h
    cases h
    exact ⟨⟨p.detectName, rfl⟩, fun _ => ⟨checkRun_ok hinstall, checkRun_ok huninstall⟩⟩

/-- **`_apply`** sets what the body supplies, and lets no other file be run than a valid name. -/
theorem applyBody_ok (h : applyBody p body = .ok p') :
    (∃ name detect, p' = { setFields p name body with detectName := detect }) ∧
      (p.kind = .files → RunOk p'.installRun ∧ RunOk p'.uninstallRun) := by
  unfold applyBody at h
  split at h
  · obtain ⟨⟨detect, rfl⟩, hruns⟩ := checkKind_ok h
    exact ⟨⟨_, detect, rfl⟩, hruns⟩
  · cases h
  · obtain ⟨⟨detect, rfl⟩, hruns⟩ := checkKind_ok h
    exact ⟨⟨_, detect, rfl⟩, hruns⟩

/-- **`refresh_manifest`** leaves the manifest as `build` has it now, and unsigned if it moved. -/
theorem refreshManifest_ok (h : refreshManifest cfg p files = .ok p') :
    (p.kind = .winget ∧ p' = p) ∨
      p.kind = .files ∧ ∃ built, build cfg p files = some built ∧
        (p.manifest = some built ∧ p' = p ∨ p.manifest ≠ some built ∧ p' = p.rebuilt built) := by
  unfold refreshManifest at h
  split at h
  · cases h
    exact .inl ⟨‹_›, rfl⟩
  rename_i hkind
  split at h
  · cases h
  rename_i built hbuilt
  refine .inr ⟨hkind, built, hbuilt, ?_⟩
  split at h
  · cases h
    exact .inl ⟨‹_›, rfl⟩
  · cases h
    exact .inr ⟨‹_›, rfl⟩

/-- The signature is no part of what the manifest covers. -/
lemma build_rebuilt : build cfg (p.rebuilt built) files = build cfg p files := rfl

lemma writeBack_self {read new : Package} (hid : new.id = read.id) (hkind : new.kind = read.kind) :
    read.writeBack new read = new := by
  have hcol {α : Type} [DecidableEq α] (r n : α) : Lib.writeBack r n r = n :=
    writeBack_eq_new fun h => h
  simp only [Package.writeBack, hcol]
  rw [← hid, ← hkind]

/-- What a request writes when it goes through. -/
inductive Worked (cfg : Settings) (user : String) (p : Package) (files : List PackageFile) :
    Edit → Draft → Prop
  | update (payload : PackageBody) (applied refreshed : Package) (hvalid : payload.valid = true)
      (happlied : applyBody p payload = .ok applied)
      (hrefreshed : refreshManifest cfg applied files = .ok refreshed) :
      Worked cfg user p files (.update payload) ⟨refreshed, [], none⟩
  | upload (uploads : List Upload) (written : List PackageFile) (refreshed : Package)
      (hkind : p.kind = .files) (hwritten : uploads.foldlM (uploadFile cfg) [] = .ok written)
      (hrefreshed : refreshManifest cfg p ((Draft.mk p written none).files files) = .ok refreshed) :
      Worked cfg user p files (.upload uploads) ⟨refreshed, written, none⟩
  | deleteFile (name : String) (refreshed : Package) (hkind : p.kind = .files)
      (hrefreshed : refreshManifest cfg p ((Draft.mk p [] (some name)).files files) = .ok refreshed) :
      Worked cfg user p files (.deleteFile name) ⟨refreshed, [], some name⟩
  | attachSignature (document : SignatureDocument) (v : Verified) (hkind : p.kind = .files)
      (hready : problems p files = []) (hverified : verify cfg (p.manifest.getD []) document = .ok v) :
      Worked cfg user p files (.attachSignature document) ⟨p.signed v user, [], none⟩
  | removeSignature : Worked cfg user p files .removeSignature ⟨p.unsigned, [], none⟩

lemma requireFilesKind_ok (h : requireFilesKind p = .ok ()) : p.kind = .files := by
  unfold requireFilesKind at h
  split at h
  · cases h
  · assumption

lemma validate_ok (h : validate body = .ok ()) : body.valid = true := by
  unfold validate at h
  split at h
  · assumption
  · cases h

/-- **Everything a request can do.** -/
theorem work_cases {user : String} {edit : Edit} {d : Draft} (h : work cfg user p files edit = .ok d) :
    Worked cfg user p files edit d := by
  cases edit with
  | update payload =>
    obtain ⟨⟨⟩, hvalid, h⟩ := bind_eq_ok h
    obtain ⟨applied, happlied, h⟩ := bind_eq_ok h
    obtain ⟨refreshed, hrefreshed, h⟩ := bind_eq_ok h
    obtain rfl := Except.ok.inj h
    exact .update payload applied refreshed (validate_ok hvalid) happlied hrefreshed
  | upload uploads =>
    obtain ⟨⟨⟩, hkind, h⟩ := bind_eq_ok h
    obtain ⟨written, hwritten, h⟩ := bind_eq_ok h
    obtain ⟨refreshed, hrefreshed, h⟩ := bind_eq_ok h
    obtain rfl := Except.ok.inj h
    exact .upload uploads written refreshed (requireFilesKind_ok hkind) hwritten hrefreshed
  | deleteFile name =>
    obtain ⟨⟨⟩, hkind, h⟩ := bind_eq_ok h
    split at h
    · cases h
    obtain ⟨refreshed, hrefreshed, h⟩ := bind_eq_ok h
    obtain rfl := Except.ok.inj h
    exact .deleteFile name refreshed (requireFilesKind_ok hkind) hrefreshed
  | attachSignature document =>
    obtain ⟨⟨⟩, hkind, h⟩ := bind_eq_ok h
    split at h
    · cases h
    rename_i hready
    split at h
    · cases h
    rename_i v hverified
    obtain rfl := Except.ok.inj h
    exact .attachSignature document v (requireFilesKind_ok hkind) (not_not.1 hready) hverified
  | removeSignature =>
    obtain rfl := Except.ok.inj h
    exact .removeSignature

lemma applyBody_key (h : applyBody p body = .ok p') : p'.id = p.id ∧ p'.kind = p.kind := by
  obtain ⟨⟨name, detect, rfl⟩, -⟩ := applyBody_ok h
  exact ⟨rfl, rfl⟩

lemma refreshManifest_key (h : refreshManifest cfg p files = .ok p') :
    p'.id = p.id ∧ p'.kind = p.kind := by
  rcases refreshManifest_ok h with ⟨-, rfl⟩ | ⟨-, built, -, ⟨-, rfl⟩ | ⟨-, rfl⟩⟩ <;> exact ⟨rfl, rfl⟩

lemma createPackage_id {id : Uuid} {kind : PackageKind}
    (h : createPackage cfg id kind body = .ok p) : p.id = id := by
  unfold createPackage at h
  split at h
  · obtain ⟨⟨⟩, -, h⟩ := bind_eq_ok h
    obtain ⟨applied, happlied, h⟩ := bind_eq_ok h
    exact (refreshManifest_key h).1.trans (applyBody_key happlied).1
  · cases h

/-- A package keeps its identifier and its kind. -/
lemma Worked.key {user : String} {edit : Edit} {d : Draft} (h : Worked cfg user p files edit d) :
    d.package.id = p.id ∧ d.package.kind = p.kind := by
  cases h with
  | update payload applied refreshed _ happlied hrefreshed =>
    have ha := applyBody_key happlied
    have hr := refreshManifest_key hrefreshed
    exact ⟨hr.1.trans ha.1, hr.2.trans ha.2⟩
  | upload uploads written refreshed _ _ hrefreshed => exact refreshManifest_key hrefreshed
  | deleteFile name refreshed _ hrefreshed => exact refreshManifest_key hrefreshed
  | attachSignature document v => exact ⟨rfl, rfl⟩
  | removeSignature => exact ⟨rfl, rfl⟩

/-- A draft that writes no file leaves them as they are. -/
@[simp] lemma Draft.files_none (p : Package) (files : List PackageFile) :
    (Draft.mk p [] none).files files = files := by
  simp [Draft.files]

end Change

/-! ### What holds of every package -/

/-- Every package of the tables has `P` with its files, and no other has files. -/
structure Tables.All (P : Package → List PackageFile → Prop) (t : Tables) : Prop where
  key : ∀ id p, t.packages.get id = some p → p.id = id
  holds : ∀ id p, t.packages.get id = some p → P p (t.filesOf id)
  orphan : ∀ id, t.packages.get id = none → t.filesOf id = []

section All

variable {P : Package → List PackageFile → Prop} {t t' : Tables} {id : Uuid} {p read current : Package}

lemma Tables.All.empty : Tables.empty.All P :=
  ⟨fun _ _ h => (nomatch h), fun _ _ h => (nomatch h), fun _ _ => rfl⟩

/-- The row of one package is written, and its files; the others' are not. -/
lemma Tables.All.put (hall : t.All P) (hid : p.id = id) (hpackages : t'.packages = t.packages.put id p)
    (hp : P p (t'.filesOf id)) (hother : ∀ other, other ≠ id → t'.filesOf other = t.filesOf other) :
    t'.All P := by
  have hget (other : Uuid) (h : other ≠ id) : t'.packages.get other = t.packages.get other := by
    rw [hpackages, Store.get_put_of_ne _ _ h]
  have hself : t'.packages.get id = some p := by rw [hpackages, Store.get_put_self]
  refine ⟨fun other q hq => ?_, fun other q hq => ?_, fun other hq => ?_⟩
  all_goals by_cases h : other = id
  · subst h
    obtain rfl := Option.some.inj (hself.symm.trans hq)
    exact hid
  · exact hall.key other q (hget other h ▸ hq)
  · subst h
    obtain rfl := Option.some.inj (hself.symm.trans hq)
    exact hp
  · rw [hother other h]
    exact hall.holds other q (hget other h ▸ hq)
  · subst h
    cases hself.symm.trans hq
  · rw [hother other h]
    exact hall.orphan other (hget other h ▸ hq)

/-- A new package, with no files yet. -/
lemma Tables.All.create (hall : t.All P) (hfree : t.packages.get id = none) (hid : p.id = id)
    (hp : P p []) : Tables.All P { t with packages := t.packages.put id p } :=
  hall.put hid rfl (hall.orphan id hfree ▸ hp) fun _ _ => rfl

/-- A commit on a package that is there. -/
lemma Tables.All.commit (hall : t.All P) {d : Draft} (hget : t.packages.get id = some current)
    (hp : P (read.writeBack d.package current) (d.files (t.filesOf id))) :
    (d.commit id read t).All P := by
  simp only [Draft.commit, hget]
  have hid : (read.writeBack d.package current).id = id := hall.key id current hget
  refine hall.put hid rfl ?_ fun other h => ?_
  · simpa [Tables.filesOf] using hp
  · simp only [Tables.filesOf, Store.get_put_of_ne _ _ h]

lemma requirePackage_ok (h : requirePackage t id = .ok p) : t.packages.get id = some p := by
  unfold requirePackage at h
  split at h
  · rename_i q hq
    cases h
    exact hq
  · cases h

end All

end Tiai.Packages
