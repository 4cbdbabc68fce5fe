import Mathlib.Data.List.Perm.Basic
import Mathlib.Data.String.Basic
import Tiai.Agent.Console
import Tiai.Lib.Trim

/-!
# Installing the updates

`collector/wu.go`: a script searches, downloads and installs, and what it did is summarised for the console.  Of Windows
Update there is what it says of each update: whether it may ask the user something, whether its licence is or can be
accepted, whether it is downloaded or can be, and how its installation ended.

* `wuInstallScript`, `summarizeInstall` — the script, and the summary;
* `Accounts` — every update that was found is skipped, not downloaded, or shown with its own result;
* `wuInstallScript_eq` — what the script counts;
* `accounts_iff` — when every update is accounted for;
* `truthful_iff` — when the summary is true.
-/

namespace Tiai.UpdateInstall

open Lib

/-! ### The script -/

structure Update where
  title : String
  kbArticleIds : List String
  canRequestUserInput : Bool
  eulaAccepted : Bool
  /-- `AcceptEula()` does not throw. -/
  acceptsEula : Bool
  isDownloaded : Bool
  /-- Its download succeeds. -/
  downloads : Bool
  resultCode : ℤ
  hresult : ℤ

/-- What `Install()` says of the whole batch. -/
structure Outcome where
  rebootRequired : Bool
  resultCode : ℤ

structure RawWUInstallUpdate where
  title : String
  kbArticleIds : List String
  resultCode : ℤ
  hresult : ℤ

structure RawWUInstall where
  selected : ℤ
  skippedInteractive : ℤ
  installed : ℤ
  resultCode : ℤ
  rebootRequired : Bool
  updates : List RawWUInstallUpdate

/-- One turn of the loop over what was found: the selected ones, and how many may ask something. -/
def selectUpdate (s : List Update × ℕ) (u : Update) : List Update × ℕ :=
  if u.canRequestUserInput then (s.1, s.2 + 1)
  else if !u.eulaAccepted && !u.acceptsEula then s
  else (s.1 ++ [u], s.2)

/-- `IsDownloaded`, after `Download()`. -/
def Update.isDownloadedAfter (u : Update) : Bool := u.isDownloaded || u.downloads

def Update.result (u : Update) : RawWUInstallUpdate := ⟨u.title, u.kbArticleIds, u.resultCode, u.hresult⟩

/-- `wuInstallScript`; the last argument is what the system says of a restart when all is done. -/
def wuInstallScript (found : List Update) (outcome : Outcome) (rebootRequired : Bool) : RawWUInstall :=
  let s := found.foldl selectUpdate ([], 0)
  let selected := s.1
  let toInstall := selected.filter Update.isDownloadedAfter
  { selected := selected.length
    skippedInteractive := s.2
    installed := toInstall.length
    resultCode := if 0 < toInstall.length then outcome.resultCode else 2
    rebootRequired := (if 0 < toInstall.length then outcome.rebootRequired else false) || rebootRequired
    updates := toInstall.map Update.result }

/-! ### The summary -/

def wuResultInProgress : ℤ := 1
def wuResultSucceeded : ℤ := 2
def wuResultSucceededWithErrors : ℤ := 3
def wuResultFailed : ℤ := 4
def wuResultAborted : ℤ := 5

def wuResultLabel (code : ℤ) : String :=
  if code = wuResultSucceeded then "installée"
  else if code = wuResultSucceededWithErrors then "installée avec des erreurs"
  else if code = wuResultFailed then "échec"
  else if code = wuResultAborted then "abandonnée"
  else if code = wuResultInProgress then "encore en cours"
  else "non démarrée"

def wuResultOK (code : ℤ) : Bool := code = wuResultSucceeded || code = wuResultSucceededWithErrors

/-- `strings.TrimSpace`, of a text. -/
def trimSpace (s : String) : String := String.ofList (trimBy Console.isSpaceChar s.toList)

-- `strings.ToUpper`
variable (toUpper : String → String)

def formatKB (ids : List String) : String :=
  ", ".intercalate ((ids.map trimSpace).filterMap fun id =>
    if id = "" then none
    else some (toUpper (if "KB".toList.isPrefixOf (toUpper id).toList then id else "KB" ++ id)))

/-- `%08x`, of a `uint32`. -/
def hex8 (n : ℤ) : String :=
  let digits := Nat.toDigits 16 (n % 4294967296).toNat
  String.ofList (List.replicate (8 - digits.length) '0' ++ digits)

def formatInstalledUpdate (u : RawWUInstallUpdate) : String :=
  let kb := formatKB toUpper u.kbArticleIds
  let title := trimSpace u.title
  let name := if kb = "" then title else if title ≠ "" then kb ++ " — " ++ title else kb
  if wuResultOK u.resultCode ∧ u.hresult = 0 then name ++ " : " ++ wuResultLabel u.resultCode
  else name ++ " : " ++ wuResultLabel u.resultCode ++ " (0x" ++ hex8 u.hresult ++ ")"

def upToDate : String := "Aucune mise à jour applicable : le poste est à jour."

def heading (raw : RawWUInstall) : String :=
  if raw.selected = 0 ∧ raw.skippedInteractive = 0 then upToDate
  else if raw.selected = 0 then "Aucune mise à jour installable sans intervention sur le poste."
  else toString raw.selected ++ " mise(s) à jour retenue(s), " ++ toString raw.installed ++ " installée(s)."

/-- The line about those that were skipped. -/
def skippedLine (n : ℤ) : List String :=
  if 0 < n then
    [toString n ++ " ignorée(s) : elles réclament une interaction utilisateur, impossible depuis un service."]
  else []

/-- The line about those whose download failed. -/
def missingLine (n : ℤ) : List String :=
  if 0 < n then
    [toString n ++ " mise(s) à jour n'ont pas pu être téléchargée(s), et n'ont donc pas été installée(s)."]
  else []

def rebootLines (required : Bool) : List String :=
  if required then ["", "Redémarrage requis pour finaliser l'installation (commande « Redémarrer »)."] else []

/-- `lines`. -/
def summaryLines (raw : RawWUInstall) : List String :=
  [heading raw] ++ skippedLine raw.skippedInteractive ++ raw.updates.map (formatInstalledUpdate toUpper) ++
    missingLine (raw.selected - raw.installed) ++ rebootLines raw.rebootRequired

/-- `failed`. -/
def failedCount (raw : RawWUInstall) : ℤ :=
  let failed : ℤ := raw.updates.countP fun u => !wuResultOK u.resultCode
  let missing := raw.selected - raw.installed
  if 0 < missing then failed + missing else failed

/-- The output, and the error if there is one. -/
def summarizeInstall (raw : RawWUInstall) : String × Option String :=
  let output := "\n".intercalate (summaryLines toUpper raw)
  if 0 < failedCount raw then
    (output, some (toString (failedCount raw) ++ " mise(s) à jour sur " ++ toString raw.selected ++
      " n'ont pas été installées"))
  else if 0 < raw.installed ∧ wuResultOK raw.resultCode = false then
    (output, some ("installation " ++ wuResultLabel raw.resultCode ++ " (code " ++ toString raw.resultCode ++ ")"))
  else (output, none)

/-! ### What is asked of it -/

/-- The update reached the installer, and is installed. -/
def Update.Applied (u : Update) : Prop :=
  u.canRequestUserInput = false ∧ (u.eulaAccepted = true ∨ u.acceptsEula = true) ∧ u.isDownloadedAfter = true ∧
    wuResultOK u.resultCode = true

/-- Every update that was found is skipped, not downloaded, or has a result of its own, and the lines say how many are
the first two and show each of the others. -/
def Accounts (found : List Update) (raw : RawWUInstall) : Prop :=
  ∃ skipped missing own : List Update, found.Perm (skipped ++ missing ++ own) ∧
    (∀ u ∈ skipped, u.canRequestUserInput = true) ∧ (∀ u ∈ missing, u.isDownloadedAfter = false) ∧
    raw.skippedInteractive = skipped.length ∧ raw.selected - raw.installed = missing.length ∧
    raw.updates = own.map Update.result ∧
    summaryLines toUpper raw = [heading raw] ++ skippedLine skipped.length ++
      own.map (fun u => formatInstalledUpdate toUpper u.result) ++ missingLine missing.length ++
      rebootLines raw.rebootRequired

/-- What is asked of the summary of an installation. -/
structure Truthful (found : List Update) (raw : RawWUInstall) : Prop where
  success : (summarizeInstall toUpper raw).2 = none → ∀ u ∈ found, u.Applied ∨ u.canRequestUserInput = true
  accounts : Accounts toUpper found raw
  upToDate : heading raw = upToDate → found = []

/-! ### What the script counts -/

variable {toUpper} {found : List Update} {raw : RawWUInstall} {outcome : Outcome} {rebootRequired : Bool} {u : Update}

/-- The update is handed on: it asks nothing, and its licence is accepted. -/
def Update.isSelected (u : Update) : Bool := !u.canRequestUserInput && (u.eulaAccepted || u.acceptsEula)

lemma foldl_selectUpdate (selected : List Update) (skipped : ℕ) : found.foldl selectUpdate (selected, skipped) =
    (selected ++ found.filter Update.isSelected, skipped + found.countP Update.canRequestUserInput) := by
  induction found generalizing selected skipped with
  | nil => simp
  | cons u found ih =>
    rw [List.foldl_cons, selectUpdate]
    by_cases hasks : u.canRequestUserInput = true
    · rw [if_pos hasks, ih, List.countP_cons_of_pos hasks, List.filter_cons_of_neg (by simp [Update.isSelected, hasks])]
      simp only [Prod.mk.injEq, true_and]
      omega
    · rw [if_neg hasks, List.countP_cons_of_neg hasks]
      by_cases hlicence : (!u.eulaAccepted && !u.acceptsEula) = true
      · have hrefused : u.isSelected ≠ true := by simpa [Update.isSelected, hasks] using hlicence
        rw [if_pos hlicence, ih, List.filter_cons_of_neg hrefused]
      · have hselected : u.isSelected = true := by
          rw [Bool.not_eq_true] at hasks
          revert hlicence
          cases h : u.eulaAccepted <;> cases h' : u.acceptsEula <;> simp [Update.isSelected, hasks, h, h']
        rw [if_neg hlicence, ih, List.filter_cons_of_pos hselected]
        simp

/-- Those that are installed, and those that could not be downloaded. -/
def toInstall (found : List Update) : List Update := (found.filter Update.isSelected).filter Update.isDownloadedAfter
def notDownloaded (found : List Update) : List Update :=
  (found.filter Update.isSelected).filter (!Update.isDownloadedAfter ·)

theorem wuInstallScript_eq : wuInstallScript found outcome rebootRequired =
    { selected := (found.filter Update.isSelected).length
      skippedInteractive := found.countP Update.canRequestUserInput
      installed := (toInstall found).length
      resultCode := if 0 < (toInstall found).length then outcome.resultCode else 2
      rebootRequired := (if 0 < (toInstall found).length then outcome.rebootRequired else false) || rebootRequired
      updates := (toInstall found).map Update.result } := by
  unfold wuInstallScript
  rw [foldl_selectUpdate, List.nil_append, Nat.zero_add]
  rfl

/-- The licence of an update that asks nothing is accepted, or can be. -/
def Licensed (found : List Update) : Prop :=
  ∀ u ∈ found, u.canRequestUserInput = false → u.eulaAccepted = true ∨ u.acceptsEula = true

lemma selected_split (found : List Update) :
    (found.filter Update.isSelected).length = (toInstall found).length + (notDownloaded found).length := by
  unfold toInstall notDownloaded
  rw [← List.countP_eq_length_filter, ← List.countP_eq_length_filter (l := found.filter Update.isSelected),
    ← List.countP_eq_length_filter]
  have := List.length_eq_countP_add_countP Update.isDownloadedAfter (l := found.filter Update.isSelected)
  rw [← List.countP_eq_length_filter] at this
  simpa using this

/-- An update that is licensed is skipped or selected. -/
lemma Licensed.isSelected (h : Licensed found) (hu : u ∈ found) : u.isSelected = !u.canRequestUserInput := by
  unfold Update.isSelected
  cases hasks : u.canRequestUserInput with
  | true => rfl
  | false => simpa using h u hu hasks

lemma Licensed.perm (h : Licensed found) :
    found.Perm (found.filter Update.canRequestUserInput ++ notDownloaded found ++ toInstall found) := by
  have hselected : found.filter Update.isSelected = found.filter (!Update.canRequestUserInput ·) :=
    List.filter_congr fun u hu => h.isSelected hu
  have hdownloaded := (List.filter_append_perm Update.isDownloadedAfter (found.filter Update.isSelected)).symm
  have hasks := (List.filter_append_perm Update.canRequestUserInput found).symm
  rw [← hselected] at hasks
  rw [List.append_assoc]
  exact hasks.trans ((hdownloaded.trans List.perm_append_comm).append_left _)

/-- Where all are counted, none is refused for its licence. -/
lemma licensed_of_length (h : found.length = found.countP Update.canRequestUserInput +
    (found.filter Update.isSelected).length) : Licensed found := by
  have hsplit : found.length =
      found.countP Update.canRequestUserInput + (found.filter (!Update.canRequestUserInput ·)).length := by
    have := List.length_eq_countP_add_countP Update.canRequestUserInput (l := found)
    rw [← List.countP_eq_length_filter]
    simpa using this
  have hselected : found.filter Update.isSelected =
      (found.filter (!Update.canRequestUserInput ·)).filter fun u => u.eulaAccepted || u.acceptsEula := by
    rw [List.filter_filter]
    exact List.filter_congr fun u _ => Bool.and_comm _ _
  have hall : ∀ u ∈ found.filter (!Update.canRequestUserInput ·), (u.eulaAccepted || u.acceptsEula) = true := by
    refine List.length_filter_eq_length_iff.1 ?_
    rw [← hselected]
    omega
  intro u hu hasks
  exact Bool.or_eq_true _ _ ▸ hall u (List.mem_filter.2 ⟨hu, by simp [hasks]⟩)

/-! ### When the summary is true -/

/-- Every update has an account exactly when none is refused for its licence. -/
theorem accounts_iff : Accounts toUpper found (wuInstallScript found outcome rebootRequired) ↔ Licensed found := by
  have hsplit := selected_split found
  constructor
  · rintro ⟨skipped, missing, own, hperm, -, -, hskipped, hmissing, hown, -⟩
    have hlength := hperm.length_eq
    have hupdates := congrArg List.length hown
    simp only [wuInstallScript_eq, List.length_map, List.length_append] at hskipped hmissing hupdates hlength
    refine licensed_of_length ?_
    omega
  · intro h
    have hcount : (found.filter Update.canRequestUserInput).length = found.countP Update.canRequestUserInput :=
      List.countP_eq_length_filter.symm
    have hmissing : ((found.filter Update.isSelected).length : ℤ) - (toInstall found).length =
        (notDownloaded found).length := by omega
    refine ⟨found.filter Update.canRequestUserInput, notDownloaded found, toInstall found, h.perm, ?_, ?_, ?_, ?_, ?_, ?_⟩
    · exact fun u hu => (List.mem_filter.1 hu).2
    · exact fun u hu => by simpa using (List.mem_filter.1 hu).2
    · rw [wuInstallScript_eq, hcount]
    · rw [wuInstallScript_eq]
      exact hmissing
    · rw [wuInstallScript_eq]
    · rw [summaryLines, wuInstallScript_eq, hcount, ← hmissing, List.map_map]
      rfl

/-- No failure is counted when the summary is a success. -/
lemma failedCount_of_success (h : (summarizeInstall toUpper raw).2 = none) : failedCount raw ≤ 0 := by
  by_contra hpos
  rw [summarizeInstall, if_pos (not_le.1 hpos)] at h
  cases h

/-- **A success** installs every update that is selected. -/
theorem applied_of_success
    (h : (summarizeInstall toUpper (wuInstallScript found outcome rebootRequired)).2 = none) :
    ∀ u ∈ found, u.isSelected = true → u.Applied := by
  have hfailed := failedCount_of_success h
  have hsplit := selected_split found
  rw [wuInstallScript_eq, failedCount] at hfailed
  dsimp only at hfailed
  have hmissing : (notDownloaded found).length = 0 := by
    split at hfailed <;> omega
  have hresults : ((toInstall found).map Update.result).countP (fun u => !wuResultOK u.resultCode) = 0 := by
    split at hfailed <;> omega
  intro u hu hselected
  have hmem : u ∈ found.filter Update.isSelected := List.mem_filter.2 ⟨hu, hselected⟩
  have hdownloaded : u.isDownloadedAfter = true := by
    by_contra hno
    have hin : u ∈ notDownloaded found := List.mem_filter.2 ⟨hmem, by simpa using hno⟩
    rw [List.length_eq_zero_iff.1 hmissing] at hin
    cases hin
  have hok := List.countP_eq_zero.1 hresults u.result
    (List.mem_map.2 ⟨u, List.mem_filter.2 ⟨hmem, hdownloaded⟩, rfl⟩)
  rw [Update.isSelected, Bool.and_eq_true, Bool.or_eq_true, Bool.not_eq_true'] at hselected
  exact ⟨hselected.1, hselected.2, hdownloaded, by simpa [Update.result] using hok⟩

/-- The heading that says so is the first of three. -/
lemma heading_eq_upToDate (h : heading raw = upToDate) : raw.selected = 0 ∧ raw.skippedInteractive = 0 := by
  by_contra hno
  rw [heading, if_neg hno] at h
  split at h
  · exact absurd h (by decide)
  · -- it ends in another letter
    have hlast := congrArg (fun s : String => s.toList.reverse.take 3) h
    simp [upToDate] at hlast

/-- **When the summary of an installation is true.**  It is a success only when every update that was found is installed
or may ask the user something, it accounts for each, and it says that the machine is up to date only when none was
found: exactly when no update that asks nothing has a licence that is not accepted and cannot be. -/
theorem truthful_iff (toUpper : String → String) (found : List Update) (outcome : Outcome) (rebootRequired : Bool) :
    Truthful toUpper found (wuInstallScript found outcome rebootRequired) ↔ Licensed found := by
  constructor
  · exact fun h => accounts_iff.1 h.accounts
  · intro h
    refine ⟨fun hsuccess u hu => ?_, accounts_iff.2 h, fun hheading => ?_⟩
    · cases hasks : u.canRequestUserInput with
      | true => exact .inr rfl
      | false => exact .inl (applied_of_success hsuccess u hu (by rw [h.isSelected hu, hasks]; rfl))
    · obtain ⟨hselected, hskipped⟩ := heading_eq_upToDate hheading
      rw [wuInstallScript_eq] at hselected hskipped
      have hlength := h.perm.length_eq
      have hsplit := selected_split found
      have hcount : (found.filter Update.canRequestUserInput).length = found.countP Update.canRequestUserInput :=
        List.countP_eq_length_filter.symm
      simp only [List.length_append] at hlength
      refine List.length_eq_zero_iff.1 ?_
      dsimp only at hselected hskipped
      omega

/-- One update, whose licence cannot be accepted. -/
def refused : List Update := [⟨"Service Pack", ["976932"], false, false, false, true, true, 0, 0⟩]

/-- The machine is said to be up to date. -/
theorem refused_is_up_to_date :
    summarizeInstall id (wuInstallScript refused ⟨false, 2⟩ false) = (upToDate, none) ∧
      ¬ Truthful id refused (wuInstallScript refused ⟨false, 2⟩ false) := by
  have hsummary : summarizeInstall id (wuInstallScript refused ⟨false, 2⟩ false) = (upToDate, none) := by decide
  refine ⟨hsummary, fun h => ?_⟩
  have hnone : refused = [] := h.upToDate (by decide)
  cases hnone

end Tiai.UpdateInstall
