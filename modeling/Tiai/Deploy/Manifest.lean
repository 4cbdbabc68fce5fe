import Mathlib
import Tiai.Lib.Checked
import Tiai.Lib.Path
import Tiai.Deploy.Names

/-!
# A package, and what makes it trusted

The pure half of `internal/deploy/deploy.go`: the manifest, the two methods of trust, and the command
lines.  Errors are the texts the console shows.  JSON, base64, X.509 and the primitives of cryptography
are the agent's libraries (`Host`).
-/

namespace Tiai.Deploy

open Tiai.Lib

abbrev Bytes := List UInt8

/-! ### Data -/

/-- `Policy`. -/
structure Policy where
  signers : List String
  publishers : List String
  winget : Bool
  wingetAllow : List String

/-- `Policy.Enabled`. -/
def Policy.enabled (p : Policy) : Bool := !p.signers.isEmpty || !p.publishers.isEmpty || p.winget

/-- `Step`. -/
structure Step where
  run : String
  args : List String
  deriving DecidableEq, Repr

/-- `FileRef`. -/
structure FileRef where
  name : String
  sha256 : String
  size : ℤ
  deriving DecidableEq, Repr

/-- `Manifest`. -/
structure Manifest where
  format : String
  packageID : String
  name : String
  version : String
  files : List FileRef
  install : Option Step
  uninstall : Option Step
  successCodes : List ℤ
  deriving DecidableEq, Repr

/-- `PackageDelivery`. -/
structure PackageDelivery where
  id : String
  kind : String
  wingetID : String
  wingetVersion : String
  manifest : String
  signature : String
  signatureAlgorithm : String
  certificate : String

/-- A key, as `x509` names its kinds; what identifies it is opaque. -/
inductive PublicKey
  | rsa (key : ℕ)
  | ecdsa (key bitSize : ℕ)
  | other

structure Certificate where
  publicKey : PublicKey
  subject : String

/-- The poste an agent runs on: its folders, its libraries, and Windows' word on signatures. -/
structure Host where
  packagesDir : Path
  msiExecPath : Path
  wingetPath : Except String Path
  queueDir : Path
  maxItems : ℕ
  go : GoText
  /-- `base64.StdEncoding.DecodeString`. -/
  base64 : String → Option Bytes
  /-- `json.Unmarshal`, into a `Manifest`. -/
  unmarshal : Bytes → Except String Manifest
  /-- `sha256.Sum256`. -/
  sha256 : Bytes → Bytes
  /-- `x509.ParseCertificate`. -/
  parseCertificate : Bytes → Except String Certificate
  /-- `rsa.VerifyPKCS1v15`. -/
  verifyPKCS1v15 : ℕ → Bytes → Bytes → Bool
  /-- `ecdsa.Verify`. -/
  ecdsaVerify : ℕ → Bytes → ℕ → ℕ → Bool
  /-- `ecdsa.VerifyASN1`. -/
  verifyASN1 : ℕ → Bytes → Bytes → Bool
  /-- `VerifyAuthenticode`, of a path and what is there. -/
  verifyAuthenticode : Path → Option Bytes → Except String String
  /-- `SignerName`. -/
  signerName : Path → Option Bytes → Except String String

variable (host : Host)

/-! ### The manifest -/

/-- `MsiExec`. -/
def msiExec : String := "msiexec"

/-- `manifestFormat`. -/
def manifestFormat : String := "tiai-package-1"

/-- The loop of `ParseManifest` over the files; `seen` holds the names so far, in lower case. -/
def checkFiles (seen : List String) : List FileRef → Except String (List String)
  | [] => .ok seen
  | f :: fs =>
    if validFileName f.name = false ∨ host.go.lower f.name ∈ seen then
      .error ("nom de fichier refusé dans le manifeste : " ++ host.go.quote f.name)
    else if sha256Hex f.sha256 = false ∨ f.size < 0 then
      .error ("empreinte invalide pour " ++ host.go.quote f.name)
    else checkFiles (host.go.lower f.name :: seen) fs

/-- Its loop over the steps. -/
def checkStep (seen : List String) : Option Step → Except String Unit
  | none => .ok ()
  | some s =>
    if s.run ≠ msiExec ∧ host.go.lower s.run ∉ seen then
      .error (host.go.quote s.run ++ " n'est pas un fichier du paquet")
    else if s.args.any fun a => a.toList.any (·.toNat = 0) then .error "argument invalide"
    else .ok ()

/-- `ParseManifest`. -/
def parseManifest (raw : Bytes) (packageID : String) : Except String Manifest := do
  let m ← (host.unmarshal raw).mapError ("manifeste illisible : " ++ ·)
  if m.format ≠ manifestFormat then
    .error ("format de manifeste inconnu " ++ host.go.quote m.format)
  else if m.packageID ≠ packageID then .error "le manifeste ne décrit pas ce paquet"
  else if m.files.isEmpty then .error "manifeste sans fichier"
  else do
    let seen ← checkFiles host [] m.files
    checkStep host seen m.install
    checkStep host seen m.uninstall
    return { m with successCodes := if m.successCodes.isEmpty then [0, 3010, 1641] else m.successCodes }

/-! ### Method B -/

/-- `NormalizeThumbprint`. -/
def normalizeThumbprint (t : String) : String :=
  String.ofList ((host.go.upper t).toList.filter fun c => isDigit c || ('A' ≤ c ∧ c ≤ 'F'))

/-- `hex.EncodeToString`. -/
def hexEncode (b : Bytes) : String :=
  String.ofList (b.flatMap fun x => [Nat.digitChar (x.toNat / 16), Nat.digitChar (x.toNat % 16)])

/-- `big.Int.SetBytes`. -/
def setBytes (b : Bytes) : ℕ := b.foldl (fun n x => n * 256 + x.toNat) 0

/-- `verifyECDSA`. -/
def verifyECDSA (key bitSize : ℕ) (digest sig : Bytes) : Bool :=
  let size := (bitSize + 7) / 8
  (sig.length = 2 * size &&
      host.ecdsaVerify key digest (setBytes (sig.take size)) (setBytes (sig.drop size))) ||
    host.verifyASN1 key digest sig

/-- The switch of `VerifyAdminSignature` on the certificate's key. -/
def verifyKey (key : PublicKey) (algorithm : String) (digest sig : Bytes) : Except String Unit :=
  let changed := "signature invalide : le manifeste a changé depuis sa signature"
  match key with
  | .rsa k =>
    if algorithm ≠ "rsa-pkcs1-sha256" then .error "algorithme incompatible avec la clé"
    else if host.verifyPKCS1v15 k digest sig then .ok () else .error changed
  | .ecdsa k bitSize =>
    if algorithm ≠ "ecdsa-sha256" then .error "algorithme incompatible avec la clé"
    else if verifyECDSA host k bitSize digest sig then .ok () else .error changed
  | .other => .error "type de clé non pris en charge"

/-- The thumbprint of a certificate, as `certmgr` prints it. -/
def thumbprint (der : Bytes) : String := host.go.upper (hexEncode (host.sha256 der))

/-- `VerifyAdminSignature`. -/
def verifyAdminSignature (manifest : Bytes) (sigB64 algorithm certB64 : String)
    (signers : List String) : Except String String :=
  if sigB64 = "" ∨ certB64 = "" then .error "paquet non signé"
  else
    match host.base64 certB64 with
    | none => .error "certificat de signature mal encodé"
    | some der =>
      if ∀ s ∈ signers, normalizeThumbprint host s ≠ thumbprint host der then
        .error ("certificat de signature non approuvé sur ce poste (empreinte " ++
          thumbprint host der ++ " absente de DeploySigners)")
      else do
        let cert ← (host.parseCertificate der).mapError ("certificat de signature illisible : " ++ ·)
        match host.base64 sigB64 with
        | none => .error "signature mal encodée"
        | some sig =>
          verifyKey host cert.publicKey algorithm (host.sha256 manifest) sig
          return cert.subject

/-! ### Method A -/

/-- `PublisherApproved`. -/
def publisherApproved (name : String) (publishers : List String) : Bool :=
  trimSpace name ≠ "" &&
    publishers.any fun p => host.go.equalFold (trimSpace p) (trimSpace name)

/-- `MethodAStep`. -/
def methodAStep (step : Step) : Except String Step :=
  if step.run = msiExec then
    match step.args.find? productCode with
    | some a => .ok ⟨msiExec, ["/x", a, "/qn", "/norestart"]⟩
    | none => .error "méthode A : msiexec n'est accepté que pour désinstaller un code produit"
  else if (host.go.lower step.run).toList.reverse.take 4 ≠ ".exe".toList.reverse then
    .error ("méthode A : seul un exécutable (.exe) signé par un éditeur approuvé peut être lancé — " ++
      "signez le paquet (méthode B)")
  else .ok step

/-! ### Command lines -/

/-- A path, as Windows writes it. -/
def render (p : Path) : String :=
  match p with
  | [volume] => volume ++ "\\"
  | p => "\\".intercalate p

/-- `strings.ReplaceAll(a, "{dir}", dir)`, on characters. -/
def expandChars (dir : List Char) : List Char → List Char
  | '\x7b' :: 'd' :: 'i' :: 'r' :: '\x7d' :: cs => dir ++ expandChars dir cs
  | c :: cs => c :: expandChars dir cs
  | [] => []

/-- `ExpandArgs`. -/
def expandArgs (args : List String) (dir : Path) : List String :=
  args.map fun a => String.ofList (expandChars (render dir).toList a.toList)

/-- `ExitVerdict`: ok, and whether a restart is required. -/
def exitVerdict (code : ℤ) (success : List ℤ) : Bool × Bool :=
  let ok : Bool := code ∈ success
  (ok, ok && (code = 3010 || code = 1641))

/-! ### winget -/

/-- One entry of `DeployWingetAllow`. -/
def wingetEntryAllows (id entry : String) : Bool :=
  let allowed := (trimSpace entry).toList
  if allowed.getLast? = some '*' then
    (host.go.lower (String.ofList allowed.dropLast)).toList.isPrefixOf (host.go.lower id).toList
  else host.go.equalFold (trimSpace entry) id

/-- `WingetAllowed`. -/
def wingetAllowed (id : String) (p : Policy) : Except String Unit :=
  if p.winget = false then .error "winget non activé sur ce poste (valeur DeployWinget absente ou à 0)"
  else if wingetID id = false then .error ("identifiant winget refusé : " ++ host.go.quote id)
  else if p.wingetAllow.isEmpty ∨ p.wingetAllow.any (wingetEntryAllows host id) = true then .ok ()
  else .error ("identifiant winget " ++ host.go.quote id ++ " absent de DeployWingetAllow")

/-- What the server's command type asks for. -/
inductive DeployAction
  | install
  | uninstall
  deriving DecidableEq, Repr

def DeployAction.value : DeployAction → String
  | install => "install"
  | uninstall => "uninstall"

/-- `WingetArgs`. -/
def wingetArgs (action : DeployAction) (id version : String) : Except String (List String) :=
  if wingetID id = false then .error ("identifiant winget refusé : " ++ host.go.quote id)
  else
    match action with
    | .install =>
      let args := ["install", "--id", id, "--exact", "--source", "winget", "--scope", "machine",
        "--silent", "--accept-package-agreements", "--accept-source-agreements",
        "--disable-interactivity"]
      if version = "" then .ok args
      else if wingetVersion version = false then
        .error ("version winget refusée : " ++ host.go.quote version)
      else .ok (args ++ ["--version", version])
    | .uninstall =>
      .ok ["uninstall", "--id", id, "--exact", "--source", "winget", "--scope", "machine", "--silent",
        "--accept-source-agreements", "--disable-interactivity"]

/-- `%08X` of a 32-bit code. -/
def hexCode (n : ℕ) : String :=
  let digits := (Nat.toDigits 16 n).map Char.toUpper
  String.ofList (List.replicate (8 - digits.length) '0' ++ digits)

/-- `WingetVerdict`. -/
def wingetVerdict (code : ℤ) : Bool × String :=
  let u := (code % 2 ^ 32).toNat
  if u = 0 then (true, "")
  else if u = 0x8A150061 ∨ u = 0x8A15002B then (true, "déjà installé, rien à faire")
  else if u = 0x8A150014 then (false, "aucun paquet winget ne correspond à cet identifiant")
  else (false, "winget a échoué (code 0x" ++ hexCode u ++ ")")

/-! ### A manifest that parses -/

/-- What `ParseManifest` promises. -/
structure Manifest.WellFormed (host : Host) (packageID : String) (m : Manifest) : Prop where
  package : m.packageID = packageID
  nonempty : m.files ≠ []
  named : ∀ f ∈ m.files, BareName f.name
  distinct : (m.files.map fun f => host.go.lower f.name).Nodup
  steps : ∀ s, m.install = some s ∨ m.uninstall = some s → s.run = msiExec ∨
    ∃ f ∈ m.files, host.go.lower s.run = host.go.lower f.name

section Parsing

variable {host} {fs : List FileRef} {seen seen' : List String} {m : Manifest} {packageID : String}

lemma checkFiles_ok (h : checkFiles host seen fs = .ok seen') :
    (∀ f ∈ fs, BareName f.name) ∧ (fs.map fun f => host.go.lower f.name).Nodup ∧
      (∀ f ∈ fs, host.go.lower f.name ∉ seen) ∧
      ∀ n ∈ seen', n ∈ seen ∨ ∃ f ∈ fs, n = host.go.lower f.name := by
  induction fs generalizing seen with
  | nil =>
    obtain rfl := Except.ok.inj h
    exact ⟨by simp, by simp, by simp, fun n hn => .inl hn⟩
  | cons f fs ih =>
    unfold checkFiles at h
    split at h
    · cases h
    split at h
    · cases h
    rename_i hname _
    rw [not_or, Bool.not_eq_false] at hname
    obtain ⟨hbare, hnodup, hnew, hseen⟩ := ih h
    refine ⟨?_, ?_, ?_, ?_⟩
    · rw [List.forall_mem_cons]
      exact ⟨validFileName_bare hname.1, hbare⟩
    · rw [List.map_cons, List.nodup_cons]
      refine ⟨fun hf => ?_, hnodup⟩
      obtain ⟨g, hg, hgf⟩ := List.mem_map.1 hf
      exact hnew g hg (hgf ▸ List.mem_cons_self)
    · rw [List.forall_mem_cons]
      exact ⟨hname.2, fun g hg hg' => hnew g hg (List.mem_cons_of_mem _ hg')⟩
    · intro n hn
      rcases hseen n hn with hn | ⟨g, hg, rfl⟩
      · rcases List.mem_cons.1 hn with rfl | hn
        · exact .inr ⟨f, List.mem_cons_self, rfl⟩
        · exact .inl hn
      · exact .inr ⟨g, List.mem_cons_of_mem _ hg, rfl⟩

lemma checkStep_ok {s : Step} (h : checkStep host seen (some s) = .ok ()) :
    s.run = msiExec ∨ host.go.lower s.run ∈ seen := by
  simp only [checkStep] at h
  split at h
  · cases h
  · rename_i hrun
    rw [not_and, not_not] at hrun
    exact or_iff_not_imp_left.2 hrun

/-- **What parses is well formed.** -/
theorem parseManifest_wellFormed {raw : Bytes} (h : parseManifest host raw packageID = .ok m) :
    m.WellFormed host packageID := by
  unfold parseManifest at h
  obtain ⟨m', -, h⟩ := bind_eq_ok h
  split at h
  · cases h
  split at h
  · cases h
  split at h
  · cases h
  rename_i hpackage hfiles
  obtain ⟨seen, hseen, h⟩ := bind_eq_ok h
  obtain ⟨⟨⟩, hinstall, h⟩ := bind_eq_ok h
  obtain ⟨⟨⟩, huninstall, h⟩ := bind_eq_ok h
  obtain rfl := Except.ok.inj h
  obtain ⟨hbare, hnodup, -, hin⟩ := checkFiles_ok hseen
  have hstep (s : Step) (hs : checkStep host seen (some s) = .ok ()) :
      s.run = msiExec ∨ ∃ f ∈ m'.files, host.go.lower s.run = host.go.lower f.name :=
    (checkStep_ok hs).imp_right fun hs => (hin _ hs).resolve_left List.not_mem_nil
  exact {
    package := not_not.1 hpackage
    nonempty := fun hnil => hfiles (List.isEmpty_iff.2 hnil)
    named := hbare
    distinct := hnodup
    steps := by
      rintro s (hs | hs)
      · exact hstep s (hs ▸ hinstall)
      · exact hstep s (hs ▸ huninstall) }

end Parsing

end Tiai.Deploy
