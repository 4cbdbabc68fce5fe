import Tiai.Deploy.Download

/-!
# Executing a delivery

`internal/deploy/executor.go`.  What is decided before the first file is written is `prepare`; the rest
of `executeFiles` acts.
-/

namespace Tiai.Deploy

open Tiai.Lib

/-! ### What is decided first -/

/-- `Result`. -/
structure Result where
  output : String
  rebootRequired : Bool
  deriving DecidableEq, Repr

/-- The two methods of trust for a package of files. -/
inductive Method
  | A
  | B
  deriving DecidableEq, Repr

def Method.value : Method → String
  | .A => "A"
  | .B => "B"

/-- The step an action takes. -/
def Manifest.step (m : Manifest) : DeployAction → Option Step
  | .install => m.install
  | .uninstall => m.uninstall

def DeployAction.noun : DeployAction → String
  | .install => "installation"
  | .uninstall => "désinstallation"

def DeployAction.verb : DeployAction → String
  | .install => "Installation"
  | .uninstall => "Désinstallation"

def actionOf (cmdType : String) : DeployAction :=
  if cmdType = "package_uninstall" then .uninstall else .install

/-- What `executeFiles` knows once it has decided to go on. -/
structure Plan where
  manifest : Manifest
  step : Step
  method : Method
  note : String

section Code

variable (host : Host) (ans : Answers) (policy : Policy)

/-- Method B first, and method A failing it. -/
def chooseMethod (pkg : PackageDelivery) (raw : Bytes) (step : Step) :
    Except String (Step × Method × String) :=
  let methodA := (methodAStep host step).map fun s => (s, .A, "")
  if policy.signers ≠ [] ∧ pkg.signature ≠ "" then
    match verifyAdminSignature host raw pkg.signature pkg.signatureAlgorithm pkg.certificate
      policy.signers with
    | .ok subject => .ok (step, .B, "paquet signé par " ++ subject)
    | .error e => if policy.publishers = [] then .error e else methodA
  else if policy.publishers = [] then
    if policy.signers = [] then
      .error ("aucune méthode de confiance pour les paquets de fichiers n'est activée sur ce poste " ++
        "(DeploySigners / DeployPublishers)")
    else .error "paquet non signé, et aucun éditeur approuvé sur ce poste (DeployPublishers)"
  else methodA

/-- `executeFiles`, up to the folder it makes. -/
def prepare (action : DeployAction) (pkg : PackageDelivery) : Except String Plan :=
  match host.base64 pkg.manifest with
  | none | some [] => .error "manifeste absent ou mal encodé"
  | some raw => do
    let m ← parseManifest host raw pkg.id
    match m.step action with
    | none => .error ("le paquet ne définit pas de " ++ action.noun)
    | some step =>
      let (step, method, note) ← chooseMethod host policy pkg raw step
      return ⟨m, step, method, note⟩

/-! ### What is done -/

/-- `Env.Run`. -/
def run (exe : Path) (args : List String) (dir : Path) : Act ℤ := do
  .modify fun w => { w with launched := w.launched ++ [⟨exe, args, dir, w.files⟩] }
  let r ← ask ans.run
  .lift r

def executeWinget (action : DeployAction) (pkg : PackageDelivery) : Act Result := do
  .lift (wingetAllowed host pkg.wingetID policy)
  let version := if action = .uninstall then "" else pkg.wingetVersion
  let args ← .lift (wingetArgs host action pkg.wingetID version)
  let exe ← .lift host.wingetPath
  let code ← (run ans exe args exe.up).mapError ("winget : " ++ ·)
  let (ok, note) := wingetVerdict code
  if ok = false then .fail note
  else
    return {
      output := "winget " ++ action.value ++ " " ++ pkg.wingetID ++ " : terminé" ++
        if note = "" then "" else " (" ++ note ++ ")"
      rebootRequired := false }

/-- The check of what a package names without an administrator's word; the answer is the note. -/
def approve (plan : Plan) (exe : Path) : Act String :=
  if plan.method = .A ∧ plan.step.run ≠ msiExec then do
    let w ← .get
    let note ← .lift ((host.verifyAuthenticode exe (w.files.get exe)).mapError fun e =>
      "signature de " ++ plan.step.run ++ " refusée par Windows : " ++ e)
    let name ← .lift (host.signerName exe (w.files.get exe))
    if publisherApproved host name policy.publishers = false then
      .fail ("éditeur " ++ host.go.quote name ++ " non approuvé sur ce poste (DeployPublishers)")
    else return "éditeur approuvé : " ++ name ++ if note = "" then "" else " (" ++ note ++ ")"
  else return plan.note

/-- Where a package is unpacked. -/
def packageDir (packageID : String) : Path := join host.packagesDir packageID

def Plan.exe (plan : Plan) (dir : Path) : Path :=
  if plan.step.run = msiExec then host.msiExecPath else join dir plan.step.run

def downloadAll (packageID : String) (dir : Path) (files : List FileRef) : Act Unit :=
  .forEach files fun f =>
    (download host ans packageID f (join dir f.name)).mapError fun e =>
      "téléchargement de " ++ f.name ++ " : " ++ e

/-- The end of `executeFiles`. -/
def conclude (action : DeployAction) (plan : Plan) (dir : Path) (note : String) (code : ℤ) :
    Act Result :=
  let (ok, reboot) := exitVerdict code plan.manifest.successCodes
  if ok = false then
    .fail (plan.step.run ++ " a renvoyé le code " ++ toString code ++ " (" ++ note ++ ")")
  else do
    -- A failed run keeps its files for a retry.
    remove ans (isBelow dir)
    let line := action.verb ++ " de " ++ plan.manifest.name ++ " " ++ plan.manifest.version ++
      " terminée (méthode " ++ plan.method.value ++ ", " ++ note ++ ")"
    return {
      output := "\n".intercalate (line :: if reboot then ["Redémarrage requis pour terminer."] else [])
      rebootRequired := reboot }

def executeFiles (action : DeployAction) (pkg : PackageDelivery) : Act Result := do
  let plan ← .lift (prepare host policy action pkg)
  let dir := packageDir host pkg.id
  (fileCall ans .mkdirAll).mapError ("dossier du paquet : " ++ ·)
  downloadAll host ans pkg.id dir plan.manifest.files
  let note ← approve host policy plan (plan.exe host dir)
  let code ← (run ans (plan.exe host dir) (expandArgs plan.step.args dir) dir).mapError fun e =>
    "lancement de " ++ plan.step.run ++ " : " ++ e
  conclude ans action plan dir note code

/-- `Execute`. -/
def execute (cmdType : String) (pkg : Option PackageDelivery) : Act Result :=
  match pkg with
  | none => .fail "commande sans paquet"
  | some pkg =>
    if policy.enabled = false then
      .fail "déploiement non activé sur ce poste (aucune clé Deploy* posée par GPO)"
    else if pkg.kind = "winget" then executeWinget host ans policy (actionOf cmdType) pkg
    else if pkg.kind = "files" then executeFiles host ans policy (actionOf cmdType) pkg
    else .fail ("type de paquet inconnu " ++ host.go.quote pkg.kind)

end Code

end Tiai.Deploy
