import Mathlib
import Tiai.Agent.Console
import Tiai.Agent.Worker

/-!
# The result of a tool

`collector/maintenance.go` and `collector/maintenance_windows.go`: what a tool of the catalogue printed, and how it
ended, become the output and the error of its result.

* `decodeToolOutput` — the bytes are read as UTF-16, as UTF-8, or by a code page of Windows;
* `maintenanceTools` — the tools, with the encoding and the verdict of each;
* `runMaintenance`, `resultOf` — the result that is posted;
* `nul_mem_runMaintenance` — the output has a NUL exactly when the decoded text shows one.
-/

namespace Tiai.Console

open Lib Utf8

/-! ### Decoding -/

inductive ToolEncoding
  | oem
  | ansi
  | utf16le
  deriving DecidableEq

/-- The code pages that are asked for, `CP_OEMCP` and `CP_ACP`. -/
inductive CodePage
  | oem
  | ansi

/-- The calls of Windows that read a code page; `UTF16ToString` stops at a NUL. -/
structure Platform where
  multiByteToWideChar : CodePage → Bytes → Option (List UInt16)
  utf16ToString : List UInt16 → Bytes
  stops : ∀ units, 0 ∉ utf16ToString units

def isProbablyUTF8 (b : Bytes) : Bool := validUtf8 b && b.any fun c => 0x80 ≤ c

/-- The bytes at the odd positions. -/
def oddBytes : Bytes → Bytes
  | _ :: b :: s => b :: oddBytes s
  | _ => []

def looksUTF16LE (b : Bytes) : Bool :=
  if b.length < 4 then false
  else if [0xff, 0xfe].isPrefixOf b then true
  else
    let odd := oddBytes (b.take 512)
    0 < odd.length && odd.length < odd.count 0 * 2

/-- The units, least significant byte first; a last odd byte is left out. -/
def units : Bytes → List UInt16
  | lo :: hi :: s => (lo.toUInt16 ||| hi.toUInt16 <<< 8) :: units s
  | _ => []

/-- `utf16.Decode`: U+FFFD stands for a surrogate that is alone. -/
def decodeUnits : List UInt16 → List Char
  | [] => []
  | [u] => [if 0xd800 ≤ u ∧ u < 0xe000 then '\uFFFD' else Char.ofNat u.toNat]
  | u :: v :: us =>
    if 0xd800 ≤ u ∧ u < 0xdc00 ∧ 0xdc00 ≤ v ∧ v < 0xe000 then
      Char.ofNat ((u.toNat - 0xd800) * 0x400 + (v.toNat - 0xdc00) + 0x10000) :: decodeUnits us
    else (if 0xd800 ≤ u ∧ u < 0xe000 then '\uFFFD' else Char.ofNat u.toNat) :: decodeUnits (v :: us)

def decodeUTF16LE (b : Bytes) : Bytes :=
  encode (decodeUnits (units (if [0xff, 0xfe].isPrefixOf b then b.drop 2 else b)))

variable (p : Platform)

/-- The bytes as they are, where Windows does not convert them. -/
def codePageText (raw : Bytes) (cp : CodePage) : Bytes :=
  if raw = [] then []
  else
    match p.multiByteToWideChar cp raw with
    | none => raw
    | some [] => raw
    | some wide => p.utf16ToString wide

def decodeToolOutput (raw : Bytes) (enc : ToolEncoding) : Bytes :=
  if enc = .utf16le ∧ looksUTF16LE raw = true then decodeUTF16LE raw
  else if isProbablyUTF8 raw then raw
  else codePageText p raw (if enc = .ansi then .ansi else .oem)

/-! ### Verdicts -/

/-- `%08x`, of the low 32 bits. -/
def hex8 (code : ℤ) : List Char :=
  [7, 6, 5, 4, 3, 2, 1, 0].map fun i => Nat.digitChar ((code % 2 ^ 32).toNat / 16 ^ i % 16)

def formatExitCode (code : ℤ) : String :=
  if code < 0 ∨ 0xffff < code then "0x" ++ String.ofList (hex8 code) else toString code.toNat

/-- How a verdict reads the exit code and the output: the output to report, and the error unless it succeeded. -/
abbrev Reading := ℤ → Bytes → Bytes × Option Bytes

def verdictExitCode : Reading := fun code output =>
  if code = 0 then (output, none) else (output, some (utf8 ("code de retour " ++ formatExitCode code)))

def verdictSFC : Reading := fun code output =>
  if code = 0 then (output, none)
  else
    let summary := lastSignificantLine output
    if summary ≠ [] then
      (output, some (utf8 ("sfc a terminé en erreur (code " ++ formatExitCode code ++ ") : ") ++ summary))
    else (output, some (utf8 ("sfc a terminé en erreur (code " ++ formatExitCode code ++ ")")))

def dismSourceMissing : String := "0x800f081f"

def dismRebootRequired : ℤ := 3010

/-- `strings.ToLower`, of the letters that the searched text has. -/
def toLower (s : Bytes) : Bytes := s.map fun b => if 65 ≤ b ∧ b ≤ 90 then b + 32 else b

def verdictDISM : Reading := fun code output =>
  if utf8 dismSourceMissing <:+: toLower output then
    (output, some (utf8 ("source de réparation inaccessible (" ++ dismSourceMissing ++
      ") : ce poste ne joint ni Windows Update ni son serveur WSUS, ou la source de réparation n'y est pas publiée")))
  else if code = 0 then (output, none)
  else if code = dismRebootRequired then
    (output ++ utf8 "\n\nRedémarrage requis pour finaliser l'opération.", none)
  else (output, some (utf8 ("dism a terminé en erreur (code " ++ formatExitCode code ++ ")")))

def chkdskMeanings : List (ℤ × String) :=
  [(1, "des erreurs ont été trouvées"), (2, "le volume n'a pas pu être entièrement vérifié"),
    (3, "le volume n'a pas pu être vérifié")]

def verdictChkdsk : Reading := fun code output =>
  if code = 0 then (output, none)
  else
    match chkdskMeanings.lookup code with
    | none => (output, some (utf8 ("chkdsk a terminé avec le code " ++ formatExitCode code)))
    | some msg => (output, some (utf8 ("chkdsk : " ++ msg ++ " (code " ++ toString code.toNat ++
        ") — une réparation hors ligne (chkdsk /spotfix, appliquée au redémarrage) est nécessaire")))

def w32tmServiceStopped : String := "0x80070426"

def verdictTimeResync : Reading := fun code output =>
  if code = 0 then (output, none)
  else if utf8 w32tmServiceStopped <:+: output then
    (output, some (utf8 ("le service de temps Windows (W32Time) est arrêté sur ce poste (" ++ w32tmServiceStopped ++
      ")")))
  else (output, some (utf8 ("la resynchronisation de l'horloge a échoué (code " ++ formatExitCode code ++ ")")))

/-! ### The catalogue -/

structure MaintenanceSpec where
  enc : ToolEncoding
  verdict : Reading

/-- `maintenanceCatalogue`, but for the command that runs no tool. -/
def maintenanceTools : List (String × MaintenanceSpec) :=
  [("gpo_update", ⟨.oem, verdictExitCode⟩), ("flush_dns", ⟨.oem, verdictExitCode⟩),
    ("time_resync", ⟨.oem, verdictTimeResync⟩), ("cert_pulse", ⟨.ansi, verdictExitCode⟩),
    ("sfc_scan", ⟨.utf16le, verdictSFC⟩), ("dism_restore_health", ⟨.oem, verdictDISM⟩),
    ("dism_component_cleanup", ⟨.oem, verdictDISM⟩), ("chkdsk_scan", ⟨.oem, verdictChkdsk⟩),
    ("gpo_report", ⟨.oem, verdictExitCode⟩), ("net_config", ⟨.oem, verdictExitCode⟩)]

example : maintenanceTools.map Prod.fst = (maintenanceCatalogue.map Prod.fst).erase "spooler_reset" := by decide

def maxOutputBytes : ℕ := 64 * 1024

/-- How a tool ended: with a code, or not at all, which `runSystem32` says why. -/
inductive Ending
  | exited (code : ℤ)
  | failed (message : Bytes)

/-- `RunMaintenance`, from what the tool printed. -/
def runMaintenance (spec : MaintenanceSpec) (raw : Bytes) (ending : Ending) : Bytes × Option Bytes :=
  let output := truncateOutput (normalizeConsoleOutput (decodeToolOutput p raw spec.enc)) maxOutputBytes
  match ending with
  | .failed message => (output, some message)
  | .exited code => spec.verdict code output

/-- A text of a result, as the server reads it: an empty one is left out of the request. -/
def posted (s : Bytes) : Option String := if s = [] then none else some (String.ofList (text s))

/-- The `CommandResult` that is posted, or queued. -/
def resultOf (spec : MaintenanceSpec) (raw : Bytes) (ending : Ending) : CommandResult :=
  let (output, error) := runMaintenance p spec raw ending
  Verdict.toResult ⟨error.isSome, posted output, error.bind posted⟩

/-! ### The NULs of a result -/

lemma nulFree_formatExitCode (code : ℤ) : NulFree (formatExitCode code) := by
  unfold formatExitCode
  split
  · refine NulFree.append (nulFree_ofList (by decide)) fun h => ?_
    rw [String.toList_ofList] at h
    obtain ⟨i, -, hi⟩ := List.mem_map.1 h
    have hdigit : ∀ d : Fin 16, Nat.digitChar d ≠ '\x00' := by decide
    exact hdigit ⟨_, Nat.mod_lt _ (by decide)⟩ hi
  · exact nulFree_toString _

/-- A verdict reports the output, and adds no NUL to it; the error has one only if the output has. -/
def AddsNoNul (v : Reading) : Prop :=
  ∀ code output, (∃ suffix, 0 ∉ suffix ∧ (v code output).1 = output ++ suffix) ∧
    ∀ e, (v code output).2 = some e → 0 ∈ e → 0 ∈ output

variable {output e : Bytes}

/-- A message without a NUL. -/
lemma nul_not_mem_message {s : String} (hs : NulFree s) (h : some (utf8 s) = some e) : 0 ∉ e := by
  rw [← Option.some.inj h, nul_mem_utf8, not_not]
  exact hs

lemma same_output (output : Bytes) : ∃ suffix, 0 ∉ suffix ∧ output = output ++ suffix :=
  ⟨[], List.not_mem_nil, (List.append_nil output).symm⟩

lemma addsNoNul_exitCode : AddsNoNul verdictExitCode := by
  intro code output
  unfold verdictExitCode
  split
  · exact ⟨same_output output, fun e h => by cases h⟩
  · refine ⟨same_output output, fun e h hnul => absurd hnul (nul_not_mem_message ?_ h)⟩
    exact NulFree.append (nulFree_ofList (by decide)) (nulFree_formatExitCode code)

lemma addsNoNul_sfc : AddsNoNul verdictSFC := by
  intro code output
  unfold verdictSFC
  split
  · exact ⟨same_output output, fun e h => by cases h⟩
  dsimp only
  split
  · refine ⟨same_output output, fun e h hnul => ?_⟩
    have hmessage : (0 : UInt8) ∉ utf8 ("sfc a terminé en erreur (code " ++ formatExitCode code ++ ") : ") := by
      rw [nul_mem_utf8, not_not]
      exact (nulFree_formatExitCode code).between (by decide) (by decide)
    rw [← Option.some.inj h, List.mem_append, or_iff_right hmessage] at hnul
    exact nul_mem_of_lastSignificantLine hnul
  · refine ⟨same_output output, fun e h hnul => absurd hnul (nul_not_mem_message ?_ h)⟩
    exact (nulFree_formatExitCode code).between (by decide) (by decide)

lemma addsNoNul_dism : AddsNoNul verdictDISM := by
  intro code output
  unfold verdictDISM
  split
  · refine ⟨same_output output, fun e h hnul => absurd hnul (nul_not_mem_message ?_ h)⟩
    exact NulFree.between (nulFree_ofList (by decide)) (by decide) (by decide)
  split
  · exact ⟨same_output output, fun e h => by cases h⟩
  split
  · refine ⟨⟨_, ?_, rfl⟩, fun e h => by cases h⟩
    rw [nul_mem_utf8, not_not]
    exact nulFree_ofList (by decide)
  · refine ⟨same_output output, fun e h hnul => absurd hnul (nul_not_mem_message ?_ h)⟩
    exact (nulFree_formatExitCode code).between (by decide) (by decide)

lemma addsNoNul_chkdsk : AddsNoNul verdictChkdsk := by
  intro code output
  unfold verdictChkdsk
  split
  · exact ⟨same_output output, fun e h => by cases h⟩
  split
  · refine ⟨same_output output, fun e h hnul => absurd hnul (nul_not_mem_message ?_ h)⟩
    exact NulFree.append (nulFree_ofList (by decide)) (nulFree_formatExitCode code)
  · rename_i msg hmsg
    have hmeaning : NulFree msg := by
      have hall : ∀ m ∈ chkdskMeanings, NulFree m.2 := by simp [chkdskMeanings, NulFree]
      obtain ⟨before, after, hlist, -⟩ := List.lookup_eq_some_iff.1 hmsg
      exact hall (code, msg) (by rw [hlist]; simp)
    refine ⟨same_output output, fun e h hnul => absurd hnul (nul_not_mem_message ?_ h)⟩
    exact ((hmeaning.between (by decide) (by decide)).append (nulFree_toString _)).append (nulFree_ofList (by decide))

lemma addsNoNul_timeResync : AddsNoNul verdictTimeResync := by
  intro code output
  unfold verdictTimeResync
  split
  · exact ⟨same_output output, fun e h => by cases h⟩
  split
  · refine ⟨same_output output, fun e h hnul => absurd hnul (nul_not_mem_message ?_ h)⟩
    exact NulFree.between (nulFree_ofList (by decide)) (by decide) (by decide)
  · refine ⟨same_output output, fun e h hnul => absurd hnul (nul_not_mem_message ?_ h)⟩
    exact (nulFree_formatExitCode code).between (by decide) (by decide)

/-- The verdicts of the catalogue add no NUL. -/
lemma addsNoNul_of_mem {type : String} {spec : MaintenanceSpec} (h : (type, spec) ∈ maintenanceTools) :
    AddsNoNul spec.verdict := by
  unfold maintenanceTools at h
  simp only [List.mem_cons, Prod.mk.injEq, List.not_mem_nil, or_false] at h
  rcases h with ⟨-, rfl⟩ | ⟨-, rfl⟩ | ⟨-, rfl⟩ | ⟨-, rfl⟩ | ⟨-, rfl⟩ | ⟨-, rfl⟩ | ⟨-, rfl⟩ | ⟨-, rfl⟩ | ⟨-, rfl⟩ |
    ⟨-, rfl⟩
  · exact addsNoNul_exitCode
  · exact addsNoNul_exitCode
  · exact addsNoNul_timeResync
  · exact addsNoNul_exitCode
  · exact addsNoNul_sfc
  · exact addsNoNul_dism
  · exact addsNoNul_dism
  · exact addsNoNul_chkdsk
  · exact addsNoNul_exitCode
  · exact addsNoNul_exitCode

/-- A code page that Windows reads leaves no NUL. -/
theorem nul_not_mem_codePageText {raw : Bytes} {cp : CodePage} {unit : UInt16} {wide : List UInt16}
    (h : p.multiByteToWideChar cp raw = some (unit :: wide)) : 0 ∉ codePageText p raw cp := by
  unfold codePageText
  split
  · exact List.not_mem_nil
  · rw [h]
    exact p.stops _

section

variable {p} {spec : MaintenanceSpec} {raw : Bytes} {code : ℤ}

/-- The output is the cut text, and what the verdict adds. -/
lemma exists_suffix (hverdict : AddsNoNul spec.verdict) : ∃ suffix, 0 ∉ suffix ∧
    (runMaintenance p spec raw (.exited code)).1 =
      truncateOutput (normalizeConsoleOutput (decodeToolOutput p raw spec.enc)) maxOutputBytes ++ suffix :=
  (hverdict code _).1

/-- **The NULs of an output** are those that the decoded text shows. -/
theorem nul_mem_runMaintenance (hverdict : AddsNoNul spec.verdict) :
    0 ∈ (runMaintenance p spec raw (.exited code)).1 ↔ ShowsNul maxOutputBytes (decodeToolOutput p raw spec.enc) := by
  obtain ⟨suffix, hsuffix, houtput⟩ := exists_suffix hverdict
  rw [houtput, List.mem_append, or_iff_left hsuffix, nul_mem_truncateOutput, nul_mem_normalized]

/-- One of them stands among the first bytes. -/
lemma exists_of_runMaintenance (hverdict : AddsNoNul spec.verdict)
    (h : 0 ∈ (runMaintenance p spec raw (.exited code)).1) :
    ∃ x y, (runMaintenance p spec raw (.exited code)).1 = x ++ 0 :: y ∧ x.length < maxOutputBytes := by
  obtain ⟨suffix, hsuffix, houtput⟩ := exists_suffix hverdict
  rw [houtput, List.mem_append, or_iff_left hsuffix] at h
  obtain ⟨x, y, hxy, hlength⟩ := exists_of_truncateOutput h
  exact ⟨x, y ++ suffix, by rw [houtput, hxy, List.append_assoc, List.cons_append], hlength⟩

/-- An error has a NUL only if the output has. -/
lemma nul_mem_error (hverdict : AddsNoNul spec.verdict) {e : Bytes}
    (he : (runMaintenance p spec raw (.exited code)).2 = some e) (h : 0 ∈ e) :
    0 ∈ (runMaintenance p spec raw (.exited code)).1 := by
  obtain ⟨suffix, -, houtput⟩ := exists_suffix hverdict
  rw [houtput]
  exact List.mem_append_left _ ((hverdict code _).2 e he h)

/-- A posted text has a NUL where its bytes have one. -/
lemma nulFree_posted {s : Bytes} : (∀ t ∈ posted s, NulFree t) ↔ 0 ∉ s := by
  unfold posted
  split
  · rename_i hs
    rw [hs]
    exact iff_of_true (fun t ht => by cases ht) List.not_mem_nil
  · rw [← nul_mem_text]
    constructor
    · intro h
      have hfree := h _ rfl
      rwa [NulFree, String.toList_ofList] at hfree
    · intro h t ht
      cases ht
      rwa [NulFree, String.toList_ofList]

end

end Tiai.Console
