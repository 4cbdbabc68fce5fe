import Tiai.Deploy.Executor

/-!
# Handling a package command

`Agent.execute` on a package command (`internal/agent/agent.go`), with the queue its result goes to when
the server cannot be reached (`internal/queue/queue.go`).
-/

namespace Tiai.Deploy

open Tiai.Lib

/-- `Command`, with what a package command carries. -/
structure PackageCommand where
  id : String
  type : String
  package : Option PackageDelivery

section Code

variable (host : Host) (ans : Answers) (policy : Policy)

/-! ### The queue -/

/-- A queued item: a `.json` file directly under the queue's folder. -/
def isItem (p : Path) : Bool :=
  host.queueDir.isPrefixOf p && p.length = host.queueDir.length + 1 &&
    ".json".toList.isSuffixOf (p.getLastD "").toList

/-- `listFiles`. -/
def listFiles : Act (List Path) := do
  fileCall ans .readDir
  let w ← Action.get
  return ((w.files.map Prod.fst).filter (isItem host)).mergeSort fun p q => render p ≤ render q

/-- The name of an item, by its time and its command. -/
def itemName (createdAt commandID : String) : String := createdAt ++ "_" ++ commandID ++ ".json"

/-- How `Enqueue` makes room. -/
def dropOldest : Act Unit := do
  match ← (listFiles host ans).attempt with
  | .ok (oldest :: rest) =>
    if host.maxItems ≤ (oldest :: rest).length then remove ans (· = oldest) else pure ()
  | _ => pure ()

/-- `Enqueue`. -/
def enqueue (commandID : String) (result : CommandResult) : Act Unit := do
  dropOldest host ans
  let createdAt ← ask ans.clock
  match ans.marshal ⟨commandID, result, createdAt⟩ with
  | .error e => .fail ("marshal queue item: " ++ e)
  | .ok data =>
    let name := itemName createdAt.val commandID
    let tmp := join host.queueDir (name ++ ".tmp")
    let final := join host.queueDir name
    (writeFile ans tmp data).mapError ("write queue item: " ++ ·)
    rename ans tmp final

/-! ### The command -/

/-- Posts a result, or queues it. -/
def report (commandID : String) (result : CommandResult) : Act Unit := do
  match ← ask fun n => ans.post n result with
  | none => pure ()
  | some _ =>
    -- An error of the queue is logged.
    let _ ← (enqueue host ans commandID result).attempt

/-- `refuse`. -/
def refuse (commandID reason : String) : Act Unit :=
  report host ans commandID ⟨.failed, none, some reason⟩

/-- `execute`, on a package command. -/
def handle (cmd : PackageCommand) : Act Unit := do
  match ← ask ans.pending with
  | some kind =>
    refuse host ans cmd.id ("un " ++ kind ++ " de ce poste est déjà programmé : commande non " ++
      "exécutée, à relancer une fois le poste revenu en ligne")
  | none =>
    -- `reportRunning`: its failure is ignored.
    let _ ← ask fun n => ans.post n ⟨.running, none, none⟩
    match ← (execute host ans policy cmd.type cmd.package).attempt with
    | .ok r => report host ans cmd.id ⟨.succeeded, some r.output, none⟩
    | .error e => report host ans cmd.id ⟨.failed, none, some e⟩

end Code

/-! ### What handling a command keeps -/

section Frame

variable {host : Host} {ans : Answers} {policy : Policy} {F : Path → Prop} {I : World → Prop}

lemma isItem_below {p : Path} (h : isItem host p = true) : Below host.queueDir p := by
  unfold isItem at h
  simp only [Bool.and_eq_true, decide_eq_true_iff] at h
  obtain ⟨⟨hin, hlength⟩, -⟩ := h
  refine isBelow_iff.1 ?_
  simp [isBelow, hin, hlength]

lemma listFiles_spec (hI : Stable ans F I) :
    Triple I (listFiles host ans) (fun ps w => I w ∧ ∀ p ∈ ps, isItem host p = true) fun _ => I := by
  refine Triple.bind (hI.fileCall _) fun _ => Triple.bind Keeps.get fun w =>
    Triple.ret fun _ hw => ⟨hw, fun p hp => ?_⟩
  rw [List.mem_mergeSort, List.mem_filter] at hp
  exact hp.2

/-- `F` holds of every path that queuing the result of a command touches. -/
structure QueueFrame (host : Host) (F : Path → Prop) (commandID : String) : Prop where
  item : ∀ p, isItem host p = true → F p
  final : ∀ createdAt : Stamp, F (join host.queueDir (itemName createdAt.val commandID))
  tmp : ∀ createdAt : Stamp, F (join host.queueDir (itemName createdAt.val commandID ++ ".tmp"))

lemma dropOldest_keeps (hI : Stable ans F I) (hF : ∀ p, isItem host p = true → F p) :
    Keeps I (dropOldest host ans) := by
  refine Triple.bind (Triple.attempt (R := fun r w => I w ∧ ∀ ps, r = .ok ps →
    ∀ p ∈ ps, isItem host p = true) ((listFiles_spec hI).conseq (fun _ hw => hw)
      (fun ps w hw => ⟨hw.1, fun qs hqs => Except.ok.inj hqs ▸ hw.2⟩)
      fun _ w hw => ⟨hw, fun _ h => by cases h⟩)) fun r => ?_
  rcases r with e | _ | ⟨oldest, rest⟩
  · exact Triple.ret fun w hw => hw.1
  · exact Triple.ret fun w hw => hw.1
  · refine Triple.ite (fun _ => ?_) fun _ => Triple.ret fun w hw => hw.1
    by_cases hitem : isItem host oldest = true
    · refine Triple.mono_pre (hI.remove fun p hp => ?_) fun w hw => hw.1
      obtain rfl : p = oldest := by simpa using hp
      exact hF p hitem
    · exact fun w hw => absurd (hw.2 _ rfl oldest List.mem_cons_self) hitem

variable {commandID : String}

lemma enqueue_keeps (hI : Stable ans F I) (hF : QueueFrame host F commandID)
    (result : CommandResult) : Keeps I (enqueue host ans commandID result) := by
  refine (dropOldest_keeps hI hF.item).bind fun _ => (hI.ask _).bind fun createdAt => ?_
  cases ans.marshal ⟨commandID, result, createdAt⟩ with
  | error e => exact .fail _
  | ok data =>
    exact ((hI.writeFile (hF.tmp _) data).mapError).bind fun _ =>
      hI.rename (hF.tmp createdAt) (hF.final createdAt)

lemma report_keeps (hI : Stable ans F I) (hF : QueueFrame host F commandID)
    (result : CommandResult) : Keeps I (report host ans commandID result) := by
  refine (hI.ask _).bind fun e => ?_
  cases e with
  | none => exact .ret ()
  | some e => exact (enqueue_keeps hI hF result).attempt.bind fun _ => .ret ()

/-- The command is handled in three moves: an answer of the clock, the execution, and its report. -/
lemma handle_keeps {cmd : PackageCommand} (hI : Stable ans F I) (hF : QueueFrame host F cmd.id)
    (hexecute : Keeps I (execute host ans policy cmd.type cmd.package)) :
    Keeps I (handle host ans policy cmd) := by
  refine (hI.ask _).bind fun pending => ?_
  cases pending with
  | some kind => exact report_keeps hI hF _
  | none =>
    refine (hI.ask _).bind fun _ => hexecute.attempt.bind fun r => ?_
    cases r with
    | ok r => exact report_keeps hI hF _
    | error e => exact report_keeps hI hF _

end Frame

end Tiai.Deploy
