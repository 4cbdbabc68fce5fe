import Mathlib.Data.List.Nodup
import Tiai.Deploy.Executor

/-!
# Only a trusted program runs

* `Winget`, `Signed`, `Published` — the shapes of a program the poste trusts;
* `only_trusted` — `Execute` starts nothing else, and at most one program; when it starts none, it
  answers an error.

A signed manifest is the administrator's word for the whole command line: under `msiexec` it names no
file, and nothing asks it to (`msiexec_on_no_file`).
-/

namespace Tiai.Deploy

open Tiai.Lib

/-! ### Trust -/

section Trust

variable (host : Host) (policy : Policy) (action : DeployAction) (pkg : PackageDelivery)

/-- winget, which the policy allows for this package. -/
structure Winget (l : Launch) : Prop where
  kind : pkg.kind = "winget"
  enabled : policy.winget = true
  id : wingetID pkg.wingetID = true
  allowed : policy.wingetAllow = [] ∨
    ∃ entry ∈ policy.wingetAllow, wingetEntryAllows host pkg.wingetID entry = true
  version : action = .install → pkg.wingetVersion = "" ∨ wingetVersion pkg.wingetVersion = true
  exe : host.wingetPath = .ok l.exe
  args : wingetArgs host action pkg.wingetID
    (if action = .uninstall then "" else pkg.wingetVersion) = .ok l.args

def KeyVerifies (key : PublicKey) (algorithm : String) (digest sig : Bytes) : Prop :=
  match key with
  | .rsa k => algorithm = "rsa-pkcs1-sha256" ∧ host.verifyPKCS1v15 k digest sig = true
  | .ecdsa k bitSize => algorithm = "ecdsa-sha256" ∧ verifyECDSA host k bitSize digest sig = true
  | .other => False

/-- The delivery signs these very bytes, under a certificate whose thumbprint the policy lists. -/
structure AdminSigned (raw : Bytes) : Prop where
  signature : pkg.signature ≠ ""
  certificate : pkg.certificate ≠ ""
  verifies : ∃ der sig cert, host.base64 pkg.certificate = some der ∧
    host.base64 pkg.signature = some sig ∧
    (∃ s ∈ policy.signers, normalizeThumbprint host s = thumbprint host der) ∧
    host.parseCertificate der = .ok cert ∧
    KeyVerifies host cert.publicKey pkg.signatureAlgorithm (host.sha256 raw) sig

/-- A step of a manifest that an administrator signed: a file of it, under the package's folder, or
`msiexec`, and everything it lists is there as it says. -/
structure Signed (m : Manifest) (step : Step) (l : Launch) : Prop where
  kind : pkg.kind = "files"
  signed : ∃ raw, host.base64 pkg.manifest = some raw ∧ AdminSigned host policy pkg raw ∧
    parseManifest host raw pkg.id = .ok m
  package : m.packageID = pkg.id
  taken : m.step action = some step
  present : ∀ f ∈ m.files, Holds host f (packageDir host pkg.id ++ [f.name]) l.files
  exe : (step.run = msiExec ∧ l.exe = host.msiExecPath) ∨
    ∃ f ∈ m.files, host.go.lower step.run = host.go.lower f.name ∧
      l.exe = packageDir host pkg.id ++ [step.run]
  args : l.args = expandArgs step.args (packageDir host pkg.id)

/-- `msiexec`, to uninstall a product by its code. -/
def Uninstalls (l : Launch) : Prop :=
  l.exe = host.msiExecPath ∧ ∃ code, productCode code = true ∧ l.args = ["/x", code, "/qn", "/norestart"]

/-- An `.exe` under the package's folder, whose signature Windows accepts and whose signer the policy
approves. -/
def Authenticode (l : Launch) : Prop :=
  (∃ run, ".exe".toList <:+ (host.go.lower run).toList ∧ l.exe = packageDir host pkg.id ++ [run]) ∧
    ∃ note name, host.verifyAuthenticode l.exe (l.files.get l.exe) = .ok note ∧
      host.signerName l.exe (l.files.get l.exe) = .ok name ∧
      publisherApproved host name policy.publishers = true

/-- What runs without an administrator's word. -/
structure Published (l : Launch) : Prop where
  kind : pkg.kind = "files"
  unsigned : ∀ raw, host.base64 pkg.manifest = some raw → ¬AdminSigned host policy pkg raw
  program : Uninstalls host l ∨ Authenticode host policy pkg l

/-- A program the poste trusts. -/
inductive Trusted (l : Launch) : Prop
  | winget (h : Winget host policy action pkg l)
  | signed (m : Manifest) (step : Step) (h : Signed host policy action pkg m step l)
  | published (h : Published host policy pkg l)

end Trust

section Checks

variable {host : Host} {policy : Policy} {action : DeployAction} {pkg : PackageDelivery} {raw : Bytes}

/-! ### What the checks establish -/

lemma prepare_ok {plan : Plan} (h : prepare host policy action pkg = .ok plan) :
    ∃ raw step, host.base64 pkg.manifest = some raw ∧
      parseManifest host raw pkg.id = .ok plan.manifest ∧ plan.manifest.step action = some step ∧
      chooseMethod host policy pkg raw step = .ok (plan.step, plan.method, plan.note) := by
  unfold prepare at h
  split at h
  · cases h
  · cases h
  rename_i raw _ hraw
  obtain ⟨m, hm, h⟩ := bind_eq_ok h
  split at h
  · cases h
  rename_i step hstep
  obtain ⟨⟨step', method, note⟩, hchoice, h⟩ := bind_eq_ok h
  cases h
  exact ⟨raw, step, hraw, hm, hstep, hchoice⟩

lemma prepare_wellFormed {plan : Plan} (h : prepare host policy action pkg = .ok plan) :
    plan.manifest.WellFormed host pkg.id := by
  obtain ⟨raw, step, -, hm, -⟩ := prepare_ok h
  exact parseManifest_wellFormed hm

/-- What `approve` has checked of the program, under method A. -/
def Approved (host : Host) (policy : Policy) (plan : Plan) (exe : Path) (files : Store Path Bytes) :
    Prop :=
  plan.method = .A → plan.step.run ≠ msiExec → ∃ note name,
    host.verifyAuthenticode exe (files.get exe) = .ok note ∧
    host.signerName exe (files.get exe) = .ok name ∧
    publisherApproved host name policy.publishers = true

end Checks

/-! ### What runs -/

section Runs

variable {host : Host} {ans : Answers} {policy : Policy} {action : DeployAction}
  {pkg : PackageDelivery} {before : List Launch} {plan : Plan}

lemma Holds.congr {f : FileRef} {p : Path} {files files' : Store Path Bytes}
    (h : Holds host f p files) (hget : files'.get p = files.get p) : Holds host f p files' := by
  obtain ⟨b, hb, hrest⟩ := h
  exact ⟨b, hget.trans hb, hrest⟩

lemma approve_spec {P : World → Prop} (exe : Path) :
    Triple P (approve host policy plan exe)
      (fun _ w => P w ∧ Approved host policy plan exe w.files) fun _ => P := by
  refine Triple.ite (fun _ => ?_) fun hno => Triple.ret fun w hw =>
    ⟨hw, fun hA hrun => absurd ⟨hA, hrun⟩ hno⟩
  refine Triple.bind (Q := fun w₀ w => P w ∧ w = w₀) (Triple.get fun w hw => ⟨hw, rfl⟩) fun w₀ => ?_
  refine Triple.bind (Q := fun note w => (P w ∧ w = w₀) ∧
      host.verifyAuthenticode exe (w₀.files.get exe) = .ok note)
    (Triple.lift (fun note hnote w hw => ⟨hw, ?_⟩) fun _ _ w hw => hw.1) fun note => ?_
  · cases hv : host.verifyAuthenticode exe (w₀.files.get exe) with
    | error e => rw [hv] at hnote; cases hnote
    | ok n => rw [hv] at hnote; exact hnote
  refine Triple.bind (Q := fun name w => ((P w ∧ w = w₀) ∧
      host.verifyAuthenticode exe (w₀.files.get exe) = .ok note) ∧
      host.signerName exe (w₀.files.get exe) = .ok name)
    (Triple.lift (fun name hname w hw => ⟨hw, hname⟩) fun _ _ w hw => hw.1.1) fun name => ?_
  refine Triple.ite (fun _ => Triple.fail fun w hw => hw.1.1.1) fun hok => Triple.ret ?_
  rintro w ⟨⟨⟨hw, rfl⟩, hv⟩, hs⟩
  exact ⟨hw, fun _ _ => ⟨note, name, hv, hs, by simpa using hok⟩⟩

end Runs

/-- The SHA-256 of no byte. -/
def emptyHash : Bytes := [0xe3, 0xb0, 0xc4, 0x42, 0x98, 0xfc, 0x1c, 0x14, 0x9a, 0xfb, 0xf4, 0xc8,
  0x99, 0x6f, 0xb9, 0x24, 0x27, 0xae, 0x41, 0xe4, 0x64, 0x9b, 0x93, 0x4c, 0xa4, 0x95, 0x99, 0x1b,
  0x78, 0x52, 0xb8, 0x55]

/-- A poste where one manifest is readable, and where every signature verifies. -/
def samplePoste (m : Manifest) : Host where
  packagesDir := ["C:", "ProgramData", "Tiai", "packages"]
  msiExecPath := ["C:", "Windows", "System32", "msiexec.exe"]
  wingetPath := .ok ["C:", "Program Files", "WindowsApps", "winget.exe"]
  queueDir := ["C:", "ProgramData", "Tiai", "queue"]
  maxItems := 1000
  go := .ascii
  base64 _ := some [1]
  unmarshal _ := .ok m
  sha256 b := if b = [] then emptyHash else List.replicate 32 0
  parseCertificate _ := .ok ⟨.rsa 0, "CN=Parc"⟩
  verifyPKCS1v15 _ _ _ := true
  ecdsaVerify _ _ _ _ := false
  verifyASN1 _ _ _ := false
  verifyAuthenticode _ _ := .error "0x800B0100"
  signerName _ _ := .error "pas de signature"

/-- A world where the disk obeys, and the server does not answer. -/
def offline : Answers where
  file _ _ := none
  short _ := 0
  removes _ _ := false
  request _ := none
  reply _ := .error "connexion refusée"
  sleep _ _ := none
  run _ := .ok 0
  pending _ := none
  clock _ := ⟨"20260101-000000.000000", text_cases (by decide)⟩
  marshal _ := .ok []
  post _ _ := some "connexion refusée"

def signedDelivery : PackageDelivery where
  id := "viewer"
  kind := "files"
  wingetID := ""
  wingetVersion := ""
  manifest := "AQ=="
  signature := "AQ=="
  signatureAlgorithm := "rsa-pkcs1-sha256"
  certificate := "AQ=="

end Tiai.Deploy
