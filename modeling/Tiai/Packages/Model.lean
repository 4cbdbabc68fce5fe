import Mathlib.Data.List.Sort
import Mathlib.Data.List.SplitLengths
import Tiai.Base
import Tiai.Deploy.Manifest
import Tiai.Packages.Names

/-!
# Packages, and the manifest of one

`features/package/models.py` and `features/package/manifest.py`.  The timestamps, the author and the
publishers are left out; JSON's bytes, SHA-256 and the text of an identifier are Python's (`Settings`).

* `problems` — what stands between a package and a deployment;
* `document`, `build` — the manifest, as data and as bytes.
-/

namespace Tiai.Packages

open Deploy (Bytes Manifest Step FileRef hexEncode)

/-- The setting the package routes read, and what they use of Python. -/
structure Settings where
  /-- `PACKAGE_MAX_BYTES`. -/
  packageMaxBytes : ℕ
  /-- `str`, of an identifier. -/
  uuidText : Uuid → String
  /-- `hashlib.sha256(…).digest()`. -/
  sha256 : Bytes → Bytes
  /-- The bytes `json.dumps` gives a manifest, indented and key-sorted. -/
  dumps : Manifest → Bytes
  /-- `base64.b64decode`, with `validate=True`. -/
  b64decode : String → Option Bytes
  /-- `x509.load_der_x509_certificate`. -/
  loadCertificate : Bytes → Option Deploy.Certificate
  /-- `RSAPublicKey.verify`, of a signature and what it is over. -/
  rsaVerify : ℕ → Bytes → Bytes → Bool
  /-- `EllipticCurvePublicKey.verify`. -/
  ecdsaVerify : ℕ → Bytes → Bytes → Bool
  /-- `encode_dss_signature`. -/
  encodeDss : ℕ → ℕ → Bytes
  packageMaxBytes_le : packageMaxBytes ≤ 8 * 1024 ^ 3
  sha256_length : ∀ content, (sha256 content).length = 32

/-! ### A server -/

/-- The bytes of an ASCII text. -/
def asciiBytes (s : List Char) : Bytes := s.map fun c => UInt8.ofNat c.toNat

/-- The text of a `uuid.UUID`. -/
def canonicalUuid (id : Uuid) : String :=
  let digits := Nat.toDigits 16 id
  let padded := List.replicate (32 - digits.length) '0' ++ digits
  String.ofList (['-'].intercalate ([8, 4, 4, 4, 12].splitLengths padded))

/-- A JSON text, with the two escapes of printable ASCII. -/
def jsonText (s : String) : List Char :=
  '"' :: s.toList.flatMap (fun c => if c = '"' ∨ c = '\\' then ['\\', c] else [c]) ++ ['"']

/-- What `json.dumps(indent=2)` puts between two brackets. -/
def jsonBlock (left right : Char) (indent : ℕ) (items : List (List Char)) : List Char :=
  if items.isEmpty then [left, right]
  else left :: '\n' ::
    [',', '\n'].intercalate (items.map (List.replicate (indent + 2) ' ' ++ ·)) ++
      '\n' :: List.replicate indent ' ' ++ [right]

def jsonObject (indent : ℕ) (fields : List (String × List Char)) : List Char :=
  jsonBlock '\x7b' '\x7d' indent (fields.map fun f => jsonText f.1 ++ ':' :: ' ' :: f.2)

def jsonStep : Option Step → List Char
  | none => ['n', 'u', 'l', 'l']
  | some s => jsonObject 2 [("args", jsonBlock '[' ']' 4 (s.args.map jsonText)), ("run", jsonText s.run)]

def jsonInt (n : ℤ) : List Char :=
  if n < 0 then '-' :: Nat.toDigits 10 n.natAbs else Nat.toDigits 10 n.natAbs

/-- A manifest, as `json.dumps` writes it. -/
def jsonManifest (m : Manifest) : List Char :=
  jsonObject 0 [
    ("files", jsonBlock '[' ']' 2 (m.files.map fun f => jsonObject 4
      [("name", jsonText f.name), ("sha256", jsonText f.sha256), ("size", jsonInt f.size)])),
    ("format", jsonText m.format),
    ("install", jsonStep m.install),
    ("name", jsonText m.name),
    ("package_id", jsonText m.packageID),
    ("success_codes", jsonBlock '[' ']' 2 (m.successCodes.map jsonInt)),
    ("uninstall", jsonStep m.uninstall),
    ("version", jsonText m.version)] ++ ['\n']

/-- The SHA-256 of no bytes. -/
def emptyDigest : Bytes :=
  [0xe3, 0xb0, 0xc4, 0x42, 0x98, 0xfc, 0x1c, 0x14, 0x9a, 0xfb, 0xf4, 0xc8, 0x99, 0x6f, 0xb9, 0x24,
    0x27, 0xae, 0x41, 0xe4, 0x64, 0x9b, 0x93, 0x4c, 0xa4, 0x95, 0x99, 0x1b, 0x78, 0x52, 0xb8, 0x55]

/-- A server with the setting's default.  Its texts are ASCII, every digest is the empty file's, and the
one signature that verifies over a manifest is the manifest itself. -/
def Settings.standard : Settings where
  packageMaxBytes := 2 * 1024 ^ 3
  uuidText := canonicalUuid
  sha256 _ := emptyDigest
  dumps m := asciiBytes (jsonManifest m)
  b64decode s := some (asciiBytes s.toList)
  loadCertificate der := some ⟨.rsa der.length, "CN=Tiai"⟩
  rsaVerify _ signature manifest := signature = manifest
  ecdsaVerify _ _ _ := false
  encodeDss _ _ := []
  packageMaxBytes_le := by decide
  sha256_length _ := rfl

/-! ### Rows -/

inductive PackageKind
  | winget
  | files
  deriving DecidableEq, Repr

/-- A row of `package_files`, less its package. -/
structure PackageFile where
  name : String
  sha256 : String
  size : ℕ
  deriving DecidableEq, Repr

/-- A row of `packages`.  The three JSON columns may hold a JSON `null`. -/
structure Package where
  id : Uuid
  kind : PackageKind
  name : String
  version : Option String
  notes : Option String
  wingetId : Option String
  wingetVersion : Option String
  installRun : Option String
  installArgs : Option (List String)
  uninstallRun : Option String
  uninstallArgs : Option (List String)
  successCodes : Option (List ℤ)
  detectName : Option String
  manifest : Option Bytes
  signature : Option Bytes
  signatureAlgorithm : Option String
  signerCertificate : Option Bytes
  signerThumbprint : Option String
  signerSubject : Option String
  signedBy : Option String
  deriving DecidableEq, Repr

/-- `DEFAULT_SUCCESS_CODES`. -/
def defaultSuccessCodes : List ℤ := [0, 3010, 1641]

/-- A new row, with the columns' defaults. -/
def Package.new (id : Uuid) (kind : PackageKind) (name : String) : Package where
  id := id
  kind := kind
  name := name
  version := none
  notes := none
  wingetId := none
  wingetVersion := none
  installRun := none
  installArgs := some []
  uninstallRun := none
  uninstallArgs := some []
  successCodes := some defaultSuccessCodes
  detectName := none
  manifest := none
  signature := none
  signatureAlgorithm := none
  signerCertificate := none
  signerThumbprint := none
  signerSubject := none
  signedBy := none

/-! ### The manifest -/

/-- `FORMAT`. -/
def format : String := "tiai-package-1"

/-- `MSIEXEC`. -/
def msiexec : String := "msiexec"

/-- A text that Python takes for true. -/
def truthy (s : Option String) : Option String := s.filter (· ≠ "")

structure Problem where
  code : String
  message : String
  deriving DecidableEq, Repr

/-- The file a step runs is neither `msiexec` nor in the package. -/
def absent (files : List PackageFile) (run : String) : Bool :=
  run ≠ msiexec && run ∉ files.map PackageFile.name

/-- `problems`. -/
def problems (p : Package) (files : List PackageFile) : List Problem :=
  (if files.isEmpty then [⟨"no_files", "Aucun fichier déposé"⟩] else []) ++
  (match truthy p.installRun with
    | none => [⟨"no_install", "Fichier à lancer non choisi"⟩]
    | some run =>
      if absent files run then [⟨"install_missing", "« " ++ run ++ " » n'est pas dans le paquet"⟩]
      else []) ++
  (match truthy p.uninstallRun with
    | none => []
    | some run =>
      if absent files run then [⟨"uninstall_missing", "« " ++ run ++ " » n'est pas dans le paquet"⟩]
      else [])

/-- The `install` or `uninstall` of the document; `none` is the `TypeError` of `list(None)`. -/
def stepOf (run : Option String) (args : Option (List String)) : Option (Option Step) :=
  match truthy run with
  | none => some none
  | some run => args.map fun args => some ⟨run, args⟩

def PackageFile.ref (f : PackageFile) : FileRef := ⟨f.name, f.sha256, f.size⟩

/-- `sorted(files, key=lambda f: f.name)`. -/
def sortedFiles (files : List PackageFile) : List PackageFile :=
  files.insertionSort fun f g => ¬g.name < f.name

variable (cfg : Settings)

/-- The document of `build`. -/
def document (p : Package) (files : List PackageFile) : Option Manifest := do
  let install ← stepOf p.installRun p.installArgs
  let uninstall ← stepOf p.uninstallRun p.uninstallArgs
  let successCodes ← p.successCodes
  return {
    format := format
    packageID := cfg.uuidText p.id
    name := p.name
    version := p.version.getD ""
    files := (sortedFiles files).map PackageFile.ref
    install := install
    uninstall := uninstall
    successCodes := successCodes }

/-- `build`. -/
def build (p : Package) (files : List PackageFile) : Option Bytes :=
  (document cfg p files).map cfg.dumps

/-- `hexdigest`, of a file's content. -/
def hexdigest (content : Bytes) : String := hexEncode (cfg.sha256 content)

/-! ### What the manifest covers -/

lemma sortedFiles_perm (files : List PackageFile) : (sortedFiles files).Perm files :=
  List.perm_insertionSort ..

section Covered

variable {cfg} {p : Package} {files : List PackageFile} {run : String}

lemma truthy_eq_some {s : Option String} : truthy s = some run ↔ s = some run ∧ run ≠ "" := by
  simp [truthy, Option.filter_eq_some_iff]

lemma truthy_some (h : run ≠ "") : truthy (some run) = some run := truthy_eq_some.2 ⟨rfl, h⟩

/-- **A package without problems** has files, one of which — or `msiexec` — is run. -/
theorem problems_eq_nil : problems p files = [] ↔
    files ≠ [] ∧ (∃ run, truthy p.installRun = some run ∧ absent files run = false) ∧
      ∀ run, truthy p.uninstallRun = some run → absent files run = false := by
  unfold problems
  rw [List.append_eq_nil_iff, List.append_eq_nil_iff, and_assoc]
  refine and_congr (by simp) (and_congr ?_ ?_)
  · cases truthy p.installRun with
    | none => simp
    | some run => simp
  · cases truthy p.uninstallRun with
    | none => simp
    | some run => simp

end Covered

end Tiai.Packages
