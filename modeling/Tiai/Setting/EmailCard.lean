import Mathlib
import Tiai.JsText
import Tiai.Setting.EmailPolicy

/-!
# The card « Envoi des e-mails », saved untouched

`frontend/src/utils/emailSettings.ts` over `_email_out` and the patch of `settings_routes.py`: the form that the served
settings fill, the payload of that form, and what is left after the patch.  Of what is served, only what the payload is
made of is here.

* `emailFormFrom`, `emailPayload` — the form and its payload;
* `SavedByApi`, `held_of_saved` — the rows that patches leave, and what a row of them holds;
* `untouched_iff_fields` — the save changes nothing when it changes no field;
* `keeps_choice`, `keeps_number`, `keeps_host`, `keeps_text_iff`, `keeps_fromEmail_iff` — field by field;
* `untouched_iff` — it changes nothing exactly when the two languages trim the stored texts alike.
-/

namespace Tiai.EmailCard

open MailSettings

/-! ### What is served -/

/-- A field of a policy. -/
def field (policy : EmailPolicy) : Name → Json
  | .provider => policy.provider
  | .fromEmail => policy.fromEmail
  | .fromName => policy.fromName
  | .smtpHost => policy.smtpHost
  | .smtpPort => policy.smtpPort
  | .smtpSecurity => policy.smtpSecurity
  | .smtpUser => policy.smtpUser
  | .smtpVerifyTls => policy.smtpVerifyTls
  | .smtpTimeoutSeconds => policy.smtpTimeoutSeconds
  | .mailgunDomain => policy.mailgunDomain
  | .mailgunBaseUrl => policy.mailgunBaseUrl
  | .smtpPassword => policy.smtpPassword
  | .mailgunApiKey => policy.mailgunApiKey

/-- The environment's own value of a field. -/
def own (environment : Settings) : Name → Json := field (MailSettings.resolve .empty environment)

/-- `EmailSettings`: what the console stored, `null` where nothing is, and what the environment has. -/
structure EmailSettings where
  values : Name → Json
  env : Name → Json

/-- `_email_out`. -/
def emailOut (stored : StoredEmailSettings) (environment : Settings) : EmailSettings where
  values name := (stored.values name).getD .null
  env := own environment

/-! ### The form -/

/-- What a number box hands back. -/
inductive NumberBox
  | empty
  | number (n : ℤ)

structure EmailForm where
  provider : Json
  fromEmail : String
  fromName : String
  smtpHost : String
  smtpPort : NumberBox
  smtpSecurity : Json
  smtpUser : String
  smtpPassword : String
  clearSmtpPassword : Bool
  smtpVerifyTls : Json
  smtpTimeout : NumberBox
  mailgunDomain : String
  mailgunApiKey : String
  clearMailgunApiKey : Bool
  mailgunBaseUrl : String

/-- `value ?? other`. -/
def nullish (value other : Json) : Json := if value.isNull then other else value

/-- `value ?? ''`, in a text box. -/
def textBox : Json → String
  | .str s => s
  | _ => ""

/-- `value ?? ''`, in a number box. -/
def numberBox : Json → NumberBox
  | .int n => .number n
  | _ => .empty

def emailFormFrom (s : EmailSettings) : EmailForm where
  provider := nullish (s.values .provider) (s.env .provider)
  fromEmail := textBox (s.values .fromEmail)
  fromName := textBox (s.values .fromName)
  smtpHost := textBox (s.values .smtpHost)
  smtpPort := numberBox (s.values .smtpPort)
  smtpSecurity := nullish (s.values .smtpSecurity) (s.env .smtpSecurity)
  smtpUser := textBox (s.values .smtpUser)
  smtpPassword := ""
  clearSmtpPassword := false
  smtpVerifyTls := nullish (s.values .smtpVerifyTls) (s.env .smtpVerifyTls)
  smtpTimeout := numberBox (s.values .smtpTimeoutSeconds)
  mailgunDomain := textBox (s.values .mailgunDomain)
  mailgunApiKey := ""
  clearMailgunApiKey := false
  mailgunBaseUrl := textBox (s.values .mailgunBaseUrl)

/-! ### The payload -/

def text (value : String) : Json :=
  let trimmed := jsTrim value
  if trimmed = "" then .null else .str trimmed

def int : NumberBox → Json
  | .empty => .null
  | .number n => .int n

/-- `===`, of texts and flags. -/
def same : Json → Json → Bool
  | .str a, .str b => a = b
  | .bool a, .bool b => a = b
  | .null, .null => true
  | _, _ => false

/-- A choice equal to the environment's is not pinned. -/
def choice (value env : Json) : Json := if same value env then .null else value

/-- A typed secret replaces; an explicit « effacer » clears; otherwise not sent. -/
def secret (typed : String) (clear : Bool) : Option Json :=
  if typed ≠ "" then some (.str typed) else if clear then some .null else none

def emailPayload (form : EmailForm) (s : EmailSettings) : List (Name × Json) :=
  [(.provider, choice form.provider (s.env .provider)),
    (.fromEmail, text form.fromEmail),
    (.fromName, text form.fromName),
    (.smtpHost, text form.smtpHost),
    (.smtpPort, int form.smtpPort),
    (.smtpSecurity, choice form.smtpSecurity (s.env .smtpSecurity)),
    (.smtpUser, text form.smtpUser),
    (.smtpVerifyTls, choice form.smtpVerifyTls (s.env .smtpVerifyTls)),
    (.smtpTimeoutSeconds, int form.smtpTimeout),
    (.mailgunDomain, text form.mailgunDomain),
    (.mailgunBaseUrl, text form.mailgunBaseUrl)] ++
  (secret form.smtpPassword form.clearSmtpPassword).toList.map (.smtpPassword, ·) ++
  (secret form.mailgunApiKey form.clearMailgunApiKey).toList.map (.mailgunApiKey, ·)

/-! ### The claim -/

/-- What is read of a field by others, as it is documented. -/
structure Documented (reading : Reading) : Prop where
  int : ∀ n, reading.int (.int n) = some n
  bool : ∀ b, reading.bool (.bool b) = some b
  /-- Lower case is made character by character, but for a sigma; white space and what an address is cut at have none. -/
  lower_part : ∀ s part, reading.lower s = s → part.toList <:+: s.toList → reading.lower part = part
  lower_lower : ∀ s, reading.lower (reading.lower s) = reading.lower s
  lower_empty : ∀ s, reading.lower s = "" → s = ""
  lower_email : ∀ s, isEmail s = true → isEmail (reading.lower s) = true
  lower_strip : ∀ s, strip s = s → strip (reading.lower s) = reading.lower s

/-- The rows that patches leave, of a table without e-mail settings; the key of the cipher may have changed between. -/
inductive SavedByApi (reading : Reading) : Rows → Prop
  | fresh {rows : Rows} : (∀ name : Name, rows name.key = none) → SavedByApi reading rows
  | save {rows rows' : Rows} {body patch : List (Name × Json)} {box : Secretbox} {nonce : Name → ℕ}
      {details : List (String × Option String)} : SavedByApi reading rows →
      EmailSettingsIn.changes reading body = some patch → write box nonce rows patch = some (rows', details) →
      SavedByApi reading rows'

/-- **The save of the untouched card** is accepted and written, and leaves the policy and what is unreadable as they
were; a second time it leaves the rows as they are. -/
def Untouched (reading : Reading) (box : Secretbox) (environment : Settings) (rows : Rows) : Prop :=
  let s := emailOut (storedFrom box rows) environment
  ∃ patch, EmailSettingsIn.changes reading (emailPayload (emailFormFrom s) s) = some patch ∧
    ∀ nonce, ∃ rows' details, write box nonce rows patch = some (rows', details) ∧
      MailSettings.resolve (storedFrom box rows') environment =
        MailSettings.resolve (storedFrom box rows) environment ∧
      (storedFrom box rows').unreadable = (storedFrom box rows).unreadable ∧
      ∀ nonce', ∃ details', write box nonce' rows' patch = some (rows', details')

/-- The texts that may hold characters outside ASCII. -/
def freeTexts : List Name := [.fromEmail, .fromName, .smtpUser, .mailgunBaseUrl]

/-- JavaScript trims nothing off the stored texts, or nothing is left of one that the environment has too; and the
stored address is no longer than an address may be. -/
structure Kept (environment : Settings) (rows : Rows) : Prop where
  trimmed : ∀ name ∈ freeTexts, ∀ t, rows name.key = some (.str t) →
    jsTrim t = t ∨ strip (jsTrim t) = "" ∧ own environment name = .str t
  short : ∀ t, rows Name.fromEmail.key = some (.str t) → t.length ≤ 255

/-! ### Field by field -/

def plainNames : List Name :=
  [.provider, .fromEmail, .fromName, .smtpHost, .smtpPort, .smtpSecurity, .smtpUser, .smtpVerifyTls,
    .smtpTimeoutSeconds, .mailgunDomain, .mailgunBaseUrl]

/-- What the untouched form sends of a field. -/
def resent (s : EmailSettings) (name : Name) : Json :=
  match name with
  | .provider | .smtpSecurity | .smtpVerifyTls => choice (nullish (s.values name) (s.env name)) (s.env name)
  | .smtpPort | .smtpTimeoutSeconds => int (numberBox (s.values name))
  | _ => text (textBox (s.values name))

lemma payload_untouched (s : EmailSettings) :
    emailPayload (emailFormFrom s) s = plainNames.map fun name => (name, resent s name) := rfl

lemma isSecret_plain {name : Name} (h : name ∈ plainNames) : name.isSecret = false := by
  revert h
  cases name <;> decide

lemma mem_plainNames {name : Name} (h : name.isSecret = false) : name ∈ plainNames := by
  revert h
  cases name <;> decide

/-- What is in force of a field. -/
def inForce (box : Secretbox) (environment : Settings) (rows : Rows) (name : Name) : Json :=
  ((storedFrom box rows).values name).getD (own environment name)

/-- A field sent is accepted and written, and what is in force stays. -/
def Keeps (reading : Reading) (box : Secretbox) (environment : Settings) (rows : Rows) (name : Name) (sent : Json) :
    Prop :=
  ∃ v, EmailSettingsIn.validate reading name sent = some v ∧ v.storable = true ∧
    (if v.isNull then own environment name else v) = inForce box environment rows name

section Policy

variable {box : Secretbox} {environment : Settings} {rows rows' : Rows}

lemma field_resolve (stored : StoredEmailSettings) (environment : Settings) (name : Name) :
    field (MailSettings.resolve stored environment) name =
      (if name.isSecret then stored.secrets name else stored.values name).getD (own environment name) := by
  cases name <;> rfl

lemma policy_ext {p q : EmailPolicy} (hfield : ∀ name, field p name = field q name)
    (htimeout : p.mailgunTimeoutSeconds = q.mailgunTimeoutSeconds) : p = q := by
  obtain ⟨⟩ := p
  obtain ⟨⟩ := q
  simp only [EmailPolicy.mk.injEq]
  exact ⟨hfield .provider, hfield .fromEmail, hfield .fromName, hfield .smtpHost, hfield .smtpPort,
    hfield .smtpSecurity, hfield .smtpUser, hfield .smtpPassword, hfield .smtpVerifyTls, hfield .smtpTimeoutSeconds,
    hfield .mailgunDomain, hfield .mailgunApiKey, hfield .mailgunBaseUrl, htimeout⟩

/-- With the same rows of secrets, the policy stays when every plain field does. -/
lemma resolve_eq_iff (hsecret : ∀ name : Name, name.isSecret = true → rows' name.key = rows name.key) :
    MailSettings.resolve (storedFrom box rows') environment =
      MailSettings.resolve (storedFrom box rows) environment ↔
      ∀ name ∈ plainNames, inForce box environment rows' name = inForce box environment rows name := by
  constructor
  · intro h name hname
    have hfield := congrArg (field · name) h
    simp only [field_resolve, isSecret_plain hname, Bool.false_eq_true, if_false] at hfield
    exact hfield
  · intro h
    refine policy_ext (fun name => ?_) rfl
    rw [field_resolve, field_resolve]
    cases hs : name.isSecret with
    | false =>
      simp only [Bool.false_eq_true, if_false]
      exact h name (mem_plainNames hs)
    | true => simp [storedFrom, hs, hsecret name hs]

lemma unreadable_eq (hsecret : ∀ name : Name, name.isSecret = true → rows' name.key = rows name.key) :
    (storedFrom box rows').unreadable = (storedFrom box rows).unreadable := by
  funext name
  cases hs : name.isSecret with
  | false => simp [storedFrom, hs]
  | true => simp [storedFrom, hs, hsecret name hs]

end Policy

/-! ### Writing plain fields -/

def overwrite (rows : Rows) (c : Name × Json) : Rows := Function.update rows c.1.key (some c.2)

section Writing

variable {box : Secretbox} {nonce : Name → ℕ}

lemma writeOne_plain {c : Name × Json} (hc : c.1.isSecret = false) (rows : Rows)
    (details : List (String × Option String)) : writeOne box nonce (rows, details) c =
      if c.2.storable then some (overwrite rows c, details ++ [detail c.1 c.2]) else none := by
  unfold writeOne rowValue setValue overwrite
  simp only [hc, Bool.false_eq_true, if_false, Option.bind_eq_bind, Option.bind_some]
  cases hstorable : c.2.storable <;> simp

lemma foldlM_writeOne_plain {patch : List (Name × Json)} (hplain : ∀ c ∈ patch, c.1.isSecret = false) (rows : Rows)
    (details : List (String × Option String)) : patch.foldlM (writeOne box nonce) (rows, details) =
      if patch.all (·.2.storable) then some (patch.foldl overwrite rows, details ++ patch.map fun c => detail c.1 c.2)
      else none := by
  induction patch generalizing rows details with
  | nil => simp
  | cons c patch ih =>
    rw [List.foldlM_cons, writeOne_plain (hplain c (by simp))]
    cases hstorable : c.2.storable with
    | false => simp [hstorable]
    | true =>
      simp only [if_true, Option.bind_eq_bind, Option.bind_some]
      rw [ih fun c' h => hplain c' (List.mem_cons_of_mem _ h)]
      simp only [List.all_cons, hstorable, Bool.true_and, List.foldl_cons, List.map_cons, List.append_assoc,
        List.singleton_append]

/-- A row after a patch of plain fields. -/
lemma foldl_overwrite {patch : List (Name × Json)} {v : Name → Json} (hv : ∀ c ∈ patch, c.2 = v c.1) (rows : Rows)
    (name : Name) : patch.foldl overwrite rows name.key =
      if name ∈ patch.map Prod.fst then some (v name) else rows name.key := by
  induction patch generalizing rows with
  | nil => simp
  | cons c patch ih =>
    rw [List.foldl_cons, ih fun c' h => hv c' (List.mem_cons_of_mem _ h)]
    by_cases hname : name = c.1
    · subst hname
      simp [overwrite, hv c (by simp)]
    · have hmem : name ∈ (c :: patch).map Prod.fst ↔ name ∈ patch.map Prod.fst := by
        rw [List.map_cons, List.mem_cons, or_iff_right hname]
      rw [if_congr hmem rfl rfl, overwrite, Function.update_of_ne (mt Name.key_inj.1 hname)]

/-- Rows that hold what is written stay. -/
lemma foldl_overwrite_self {patch : List (Name × Json)} {rows : Rows}
    (h : ∀ c ∈ patch, rows c.1.key = some c.2) : patch.foldl overwrite rows = rows := by
  induction patch with
  | nil => rfl
  | cons c patch ih =>
    have hc : overwrite rows c = rows := Function.update_eq_self_iff.2 (h c (by simp)).symm
    rw [List.foldl_cons, hc]
    exact ih fun c' h' => h c' (List.mem_cons_of_mem _ h')

end Writing

/-! ### The save is the save of its fields -/

lemma changes_map (reading : Reading) (sent : Name → Json) (names : List Name) :
    EmailSettingsIn.changes reading (names.map fun name => (name, sent name)) =
      if names.all fun name => (EmailSettingsIn.validate reading name (sent name)).isSome then
        some (names.map fun name => (name, (EmailSettingsIn.validate reading name (sent name)).getD .null))
      else none := by
  unfold EmailSettingsIn.changes
  induction names with
  | nil => rfl
  | cons name names ih =>
    rw [List.map_cons, List.mapM_cons, ih, List.all_cons]
    cases hone : EmailSettingsIn.validate reading name (sent name) with
    | none => rfl
    | some v =>
      cases names.all fun name => (EmailSettingsIn.validate reading name (sent name)).isSome with
      | false => rfl
      | true => simp [hone]

section Fields

variable {reading : Reading} {box : Secretbox} {environment : Settings} {rows : Rows}

lemma inForce_of_row {name : Name} {v : Json} (hs : name.isSecret = false) (hrow : rows name.key = some v)
    (hv : Admissible name v) :
    inForce box environment rows name = if v.isNull then own environment name else v := by
  unfold inForce storedFrom
  simp only [hs, Bool.false_eq_true, if_false, hrow]
  rw [filter_valid hs hv]
  cases v.isNull <;> rfl

/-- What the patch of plain fields leaves. -/
lemma write_plain (box : Secretbox) (nonce : Name → ℕ) (rows : Rows) (v : Name → Json) :
    ∃ rows' details, write box nonce rows (plainNames.map fun name => (name, v name)) =
        (if plainNames.all fun name => (v name).storable then some (rows', details) else none) ∧
      (∀ name ∈ plainNames, rows' name.key = some (v name)) ∧
      (∀ name : Name, name.isSecret = true → rows' name.key = rows name.key) ∧
      ((∀ name ∈ plainNames, rows name.key = some (v name)) → rows' = rows) := by
  set patch := sorted (plainNames.map fun name => (name, v name)) with hpatch
  have hmem : ∀ c, c ∈ patch ↔ ∃ name ∈ plainNames, (name, v name) = c := fun c => by
    rw [hpatch, sorted, (List.mergeSort_perm _ _).mem_iff, List.mem_map]
  have hplain : ∀ c ∈ patch, c.1.isSecret = false := by
    intro c hc
    obtain ⟨name, hname, rfl⟩ := (hmem c).1 hc
    exact isSecret_plain hname
  have hvalue : ∀ c ∈ patch, c.2 = v c.1 := by
    intro c hc
    obtain ⟨name, hname, rfl⟩ := (hmem c).1 hc
    rfl
  have hnames (name : Name) : name ∈ patch.map Prod.fst ↔ name ∈ plainNames := by
    rw [List.mem_map]
    constructor
    · rintro ⟨c, hc, rfl⟩
      exact mem_plainNames (hplain c hc)
    · exact fun hname => ⟨(name, v name), (hmem _).2 ⟨name, hname, rfl⟩, rfl⟩
  have hstorable : patch.all (·.2.storable) = plainNames.all fun name => (v name).storable := by
    rw [Bool.eq_iff_iff, List.all_eq_true, List.all_eq_true]
    constructor
    · exact fun h name hname => h _ ((hmem _).2 ⟨name, hname, rfl⟩)
    · intro h c hc
      obtain ⟨name, hname, rfl⟩ := (hmem c).1 hc
      exact h name hname
  refine ⟨patch.foldl overwrite rows, [] ++ patch.map fun c => detail c.1 c.2, ?_, fun name hname => ?_,
    fun name hs => ?_, fun hrows => ?_⟩
  · unfold write
    rw [← hpatch, foldlM_writeOne_plain hplain, hstorable]
  · rw [foldl_overwrite hvalue, if_pos ((hnames name).2 hname)]
  · rw [foldl_overwrite hvalue, if_neg]
    intro hname
    rw [isSecret_plain ((hnames name).1 hname)] at hs
    cases hs
  · refine foldl_overwrite_self fun c hc => ?_
    obtain ⟨name, hname, rfl⟩ := (hmem c).1 hc
    exact hrows name hname

/-- **The save changes nothing** when it changes no field. -/
theorem untouched_iff_fields (hlower : ∀ s, reading.lower s = "" → s = "") : Untouched reading box environment rows ↔
    ∀ name ∈ plainNames, Keeps reading box environment rows name
      (resent (emailOut (storedFrom box rows) environment) name) := by
  unfold Untouched Keeps
  simp only [payload_untouched, changes_map]
  generalize resent (emailOut (storedFrom box rows) environment) = sent
  constructor
  · rintro ⟨patch, hchanges, hwrite⟩ name hname
    rw [Option.ite_none_right_eq_some, List.all_eq_true, Option.some.injEq] at hchanges
    obtain ⟨hvalid, rfl⟩ := hchanges
    obtain ⟨v, hv⟩ := Option.isSome_iff_exists.1 (hvalid name hname)
    obtain ⟨rows₁, details₁, hwrite₁, hrows, hsecret, -⟩ := write_plain box (fun _ => 0) rows
      fun name => (EmailSettingsIn.validate reading name (sent name)).getD .null
    obtain ⟨rows', details, hwritten, hresolve, -⟩ := hwrite fun _ => 0
    rw [hwrite₁, Option.ite_none_right_eq_some, List.all_eq_true, Option.some.injEq, Prod.mk.injEq] at hwritten
    obtain ⟨hstorable, rfl, rfl⟩ := hwritten
    have hkeeps := (resolve_eq_iff hsecret).1 hresolve name hname
    have hstored := hstorable name hname
    have hrow := hrows name hname
    rw [hv, Option.getD_some] at hstored hrow
    rw [inForce_of_row (isSecret_plain hname) hrow (admissible_of_validate hlower hv)] at hkeeps
    exact ⟨v, hv, hstored, hkeeps⟩
  · intro h
    have : Nonempty Json := ⟨.null⟩
    choose! v hv hstorable hkeeps using h
    have hpatch : (plainNames.map fun name =>
        (name, (EmailSettingsIn.validate reading name (sent name)).getD .null)) =
        plainNames.map fun name => (name, v name) :=
      List.map_congr_left fun name hname => by rw [hv name hname, Option.getD_some]
    refine ⟨_, if_pos (List.all_eq_true.2 fun name hname => by rw [hv name hname]; rfl), fun nonce => ?_⟩
    rw [hpatch]
    obtain ⟨rows', details, hwrite, hrows, hsecret, -⟩ := write_plain box nonce rows v
    rw [if_pos (List.all_eq_true.2 hstorable)] at hwrite
    refine ⟨rows', details, hwrite, (resolve_eq_iff hsecret).2 fun name hname => ?_, unreadable_eq hsecret,
      fun nonce' => ?_⟩
    · rw [inForce_of_row (isSecret_plain hname) (hrows name hname) (admissible_of_validate hlower (hv name hname))]
      exact hkeeps name hname
    · obtain ⟨rows₂, details₂, hwrite₂, -, -, hsame⟩ := write_plain box nonce' rows' v
      rw [if_pos (List.all_eq_true.2 hstorable), hsame hrows] at hwrite₂
      exact ⟨details₂, hwrite₂⟩

end Fields

/-! ### What a saved row holds -/

/-- The row of a plain field holds what the API accepted of it. -/
def Held (reading : Reading) (rows : Rows) : Prop := ∀ name : Name, name.isSecret = false → ∀ v,
  rows name.key = some v → (∃ sent, EmailSettingsIn.validate reading name sent = some v) ∧ v.storable = true

section Held

variable {reading : Reading} {box : Secretbox} {rows rows' : Rows} {details details' : List (String × Option String)}

lemma held_writeOne {nonce : Name → ℕ} {c : Name × Json} (h : Held reading rows)
    (hc : ∃ sent, EmailSettingsIn.validate reading c.1 sent = some c.2)
    (hwrite : writeOne box nonce (rows, details) c = some (rows', details')) : Held reading rows' := by
  intro name hs v hrow
  by_cases hname : c.1 = name
  · obtain ⟨cname, value⟩ := c
    simp only at hname
    subst hname
    rw [writeOne_plain hs, Option.ite_none_right_eq_some, Option.some.injEq, Prod.mk.injEq] at hwrite
    obtain ⟨hstorable, rfl, -⟩ := hwrite
    rw [overwrite, Function.update_self, Option.some.injEq] at hrow
    rw [← hrow]
    exact ⟨hc, hstorable⟩
  · obtain ⟨value, -, rfl⟩ := writeOne_eq_some hwrite
    rw [Function.update_of_ne (mt Name.key_inj.1 (Ne.symm hname))] at hrow
    exact h name hs v hrow

lemma held_foldlM {nonce : Name → ℕ} {patch : List (Name × Json)} (h : Held reading rows)
    (hpatch : ∀ c ∈ patch, ∃ sent, EmailSettingsIn.validate reading c.1 sent = some c.2)
    (hwrite : patch.foldlM (writeOne box nonce) (rows, details) = some (rows', details')) : Held reading rows' := by
  induction patch generalizing rows details with
  | nil =>
    obtain ⟨rfl, -⟩ := Prod.mk.inj (Option.some.inj hwrite)
    exact h
  | cons c patch ih =>
    rw [List.foldlM_cons, Option.bind_eq_bind, Option.bind_eq_some_iff] at hwrite
    obtain ⟨⟨between, detailsBetween⟩, hone, hrest⟩ := hwrite
    exact ih (held_writeOne h (hpatch c (by simp)) hone) (fun c' h' => hpatch c' (List.mem_cons_of_mem _ h')) hrest

lemma validated_of_changes {body patch : List (Name × Json)}
    (h : EmailSettingsIn.changes reading body = some patch) :
    ∀ c ∈ patch, ∃ sent, EmailSettingsIn.validate reading c.1 sent = some c.2 := by
  unfold EmailSettingsIn.changes at h
  induction body generalizing patch with
  | nil =>
    obtain rfl : [] = patch := Option.some.inj h
    simp
  | cons sent body ih =>
    simp only [List.mapM_cons, Option.bind_eq_bind, Option.bind_eq_some_iff, Option.map_eq_some_iff] at h
    obtain ⟨_, ⟨v, hv, rfl⟩, rest, hrest, hpatch⟩ := h
    obtain rfl : (sent.1, v) :: rest = patch := Option.some.inj hpatch
    intro c hc
    rcases List.mem_cons.1 hc with rfl | hc
    · exact ⟨sent.2, hv⟩
    · exact ih hrest c hc

theorem held_of_saved (h : SavedByApi reading rows) : Held reading rows := by
  induction h with
  | fresh hnone =>
    intro name hs v hrow
    rw [hnone name] at hrow
    cases hrow
  | save _ hchanges hwrite ih =>
    refine held_foldlM ih (fun c hc => validated_of_changes hchanges c ?_) hwrite
    exact (List.mergeSort_perm _ _).mem_iff.1 hc

end Held

/-! ### The fields, one kind at a time -/

section Kinds

variable {reading : Reading} {box : Secretbox} {environment : Settings} {rows : Rows} {name : Name}

/-- What is read of a saved row: nothing, or a value that the API accepted. -/
lemma stored_cases (hlower : ∀ s, reading.lower s = "" → s = "") (hheld : Held reading rows)
    (hs : name.isSecret = false) : (storedFrom box rows).values name = none ∧ (∀ t, rows name.key ≠ some (.str t)) ∨
      ∃ v sent, (storedFrom box rows).values name = some v ∧ rows name.key = some v ∧ v.isNull = false ∧
        EmailSettingsIn.validate reading name sent = some v ∧ v.storable = true := by
  have hvalues : (storedFrom box rows).values name = (rows name.key).filter (valid name) := by
    simp [storedFrom, hs]
  rw [hvalues]
  cases hrow : rows name.key with
  | none => exact .inl ⟨rfl, fun t => Option.some_ne_none _ ∘ Eq.symm⟩
  | some v =>
    obtain ⟨⟨sent, hsent⟩, hstorable⟩ := hheld name hs v hrow
    rw [filter_valid hs (admissible_of_validate hlower hsent)]
    cases hnull : v.isNull with
    | false => exact .inr ⟨v, sent, rfl, rfl, hnull, hsent, hstorable⟩
    | true =>
      refine .inl ⟨rfl, fun t ht => ?_⟩
      rw [Option.some.injEq] at ht
      rw [ht] at hnull
      cases hnull

lemma validate_null (reading : Reading) (name : Name) :
    EmailSettingsIn.validate reading name .null = some .null := by
  cases name <;> rfl

/-- A field handed back to an environment that has what is in force. -/
lemma keeps_null (h : inForce box environment rows name = own environment name) :
    Keeps reading box environment rows name .null :=
  ⟨.null, validate_null reading name, rfl, h.symm⟩

/-- A field sent as it is stored. -/
lemma keeps_again {v : Json} (hv : (storedFrom box rows).values name = some v) (hnull : v.isNull = false)
    (hagain : EmailSettingsIn.validate reading name v = some v) (hstorable : v.storable = true) :
    Keeps reading box environment rows name v := by
  refine ⟨v, hagain, hstorable, ?_⟩
  rw [hnull, inForce, hv]
  rfl

lemma inForce_none (h : (storedFrom box rows).values name = none) :
    inForce box environment rows name = own environment name := by
  rw [inForce, h, Option.getD_none]

/-- Values that are the same are equal. -/
lemma eq_of_same {a b : Json} (h : same a b = true) : a = b := by
  cases a <;> cases b <;> simp_all [same]

/-- **A choice** stays, pinned or not. -/
theorem keeps_choice (hreading : Documented reading) (hheld : Held reading rows)
    (hname : name ∈ [Name.provider, .smtpSecurity, .smtpVerifyTls]) :
    Keeps reading box environment rows name (resent (emailOut (storedFrom box rows) environment) name) := by
  have hs : name.isSecret = false := by revert hname; cases name <;> decide
  have hown : same (own environment name) (own environment name) = true := by
    revert hname
    cases name <;> simp [own, field, MailSettings.resolve, StoredEmailSettings.empty, same]
  have hresent : resent (emailOut (storedFrom box rows) environment) name =
      choice (nullish (((storedFrom box rows).values name).getD .null) (own environment name))
        (own environment name) := by
    revert hname
    cases name <;> simp [resent, emailOut]
  rw [hresent]
  rcases stored_cases hreading.lower_empty hheld hs with ⟨hnone, -⟩ | ⟨v, sent, hv, -, hnull, hsent, hstorable⟩
  · have hbox : nullish .null (own environment name) = own environment name := rfl
    rw [hnone, Option.getD_none, hbox, choice, if_pos hown]
    exact keeps_null (inForce_none hnone)
  · rw [hv, Option.getD_some, nullish, if_neg (by simp [hnull]), choice]
    split
    · next hsame =>
      refine keeps_null ?_
      rw [inForce, hv, Option.getD_some, eq_of_same hsame]
    · refine keeps_again hv hnull ?_ hstorable
      -- What was accepted is accepted again.
      simp only [List.mem_cons, List.not_mem_nil, or_false] at hname
      rcases hname with rfl | rfl | rfl
      case inr.inr =>
        rcases boolOrNone_eq_some hsent with rfl | ⟨b, rfl⟩
        · rfl
        · simp [EmailSettingsIn.validate, boolOrNone, hreading.bool]
      all_goals
        rcases textOrNone_eq_some hsent with rfl | ⟨s, -, hok, rfl⟩
        · rfl
        · simpa [EmailSettingsIn.validate, textOrNone] using hok

/-- **A number** stays. -/
theorem keeps_number (hreading : Documented reading) (hheld : Held reading rows)
    (hname : name ∈ [Name.smtpPort, .smtpTimeoutSeconds]) :
    Keeps reading box environment rows name (resent (emailOut (storedFrom box rows) environment) name) := by
  have hs : name.isSecret = false := by revert hname; cases name <;> decide
  have hresent : resent (emailOut (storedFrom box rows) environment) name =
      int (numberBox (((storedFrom box rows).values name).getD .null)) := by
    revert hname
    cases name <;> simp [resent, emailOut]
  rw [hresent]
  rcases stored_cases hreading.lower_empty hheld hs with ⟨hnone, -⟩ | ⟨v, sent, hv, -, hnull, hsent, hstorable⟩
  · rw [hnone]
    exact keeps_null (inForce_none hnone)
  · have hint : ∃ n, v = .int n ∧ EmailSettingsIn.validate reading name (.int n) = some (.int n) := by
      simp only [List.mem_cons, List.not_mem_nil, or_false] at hname
      rcases hname with rfl | rfl
      all_goals
        rcases intOrNone_eq_some hsent with rfl | hv
        · cases hnull
        · cases v with
          | int n =>
            exact ⟨n, rfl, by simpa [EmailSettingsIn.validate, intOrNone, hreading.int, isInt] using hv⟩
          | _ => cases hv
    obtain ⟨n, rfl, hagain⟩ := hint
    rw [hv]
    exact keeps_again hv hnull hagain hstorable

/-- The constraints on a text, and what is made of it. -/
def textOk : Name → String → Bool
  | .fromEmail => fun s => isEmail s && s.length ≤ 255
  | .fromName => (·.length ≤ 100)
  | .smtpUser => (·.length ≤ 255)
  | .mailgunBaseUrl => fun s => isUrl s && s.length ≤ 255
  | _ => fun s => isHost s && s.length ≤ 255

lemma blankIsNull_text (t : String) :
    blankIsNull (text t) = if strip (jsTrim t) = "" then .null else .str (strip (jsTrim t)) := by
  unfold text
  by_cases h : jsTrim t = ""
  · have hstrip : strip "" = "" := rfl
    simp [h, hstrip, blankIsNull]
  · simp [h, blankIsNull]

/-- What a text was that is accepted: trimmed, not empty, within its constraints. -/
lemma accepted_text {ok : String → Bool} {sent v : Json} (h : textOrNone ok (blankIsNull sent) = some v) :
    v = .null ∨ ∃ t, v = .str t ∧ strip t = t ∧ t ≠ "" ∧ ok t = true := by
  rcases textOrNone_eq_some h with rfl | ⟨t, ht, hok, rfl⟩
  · exact .inl rfl
  · refine .inr ⟨t, rfl, ?_, ?_, hok⟩
    all_goals
      cases sent with
      | str s =>
        simp only [blankIsNull] at ht
        split at ht
        · cases ht
        · next hne =>
          rw [Json.str.injEq] at ht
          rw [← ht]
          first | exact strip_strip s | exact hne
      | _ => cases ht

lemma inForce_text {t : String} (hrow : (storedFrom box rows).values name = some (.str t)) :
    inForce box environment rows name = .str t := by
  rw [inForce, hrow, Option.getD_some]

/-- **A text** that is not made anything of stays exactly when both languages trim it alike. -/
theorem keeps_text_iff {t : String} (hrow : (storedFrom box rows).values name = some (.str t))
    (hvalidate : EmailSettingsIn.validate reading name = fun sent => textOrNone (textOk name) (blankIsNull sent))
    (hstrip : strip t = t) (hne : t ≠ "") (hok : textOk name t = true)
    (hstorable : (Json.str t).storable = true) : Keeps reading box environment rows name (text t) ↔
      jsTrim t = t ∨ strip (jsTrim t) = "" ∧ own environment name = .str t := by
  unfold Keeps
  rw [hvalidate, inForce_text hrow]
  simp only [blankIsNull_text]
  constructor
  · rintro ⟨v, hv, -, hkeeps⟩
    split at hv
    · next hempty =>
      obtain rfl : .null = v := Option.some.inj hv
      exact .inr ⟨hempty, hkeeps⟩
    · rcases textOrNone_eq_some hv with rfl | ⟨s, hsent, -, rfl⟩
      · simp only [textOrNone] at hv
        split at hv
        · cases hv
        · cases hv
      · have heq : s = t := Json.str.inj hkeeps
        rw [heq, Json.str.injEq] at hsent
        exact .inl (jsTrim_of_strip_jsTrim hsent)
  · rintro (htrim | ⟨hempty, hown⟩)
    · rw [htrim, hstrip, if_neg hne]
      exact ⟨.str t, by simp [textOrNone, hok], hstorable, rfl⟩
    · rw [if_pos hempty]
      exact ⟨.null, rfl, rfl, hown⟩

/-- Nothing is trimmed off a host name. -/
lemma jsTrim_host {t : String} (h : isHost t = true) : jsTrim t = t := by
  refine jsTrim_of_forall fun c hc => ?_
  simp only [isHost, Bool.and_eq_true, List.all_eq_true, Bool.or_eq_true, decide_eq_true_eq] at h
  rcases h.2 c hc with halnum | hmark
  · have hrange : 48 ≤ c.toNat ∧ c.toNat ≤ 122 := by
      simp only [Char.isAlphanum, Char.isAlpha, Char.isUpper, Char.isLower, Char.isDigit, Bool.or_eq_true,
        Bool.and_eq_true, decide_eq_true_eq, ge_iff_le, UInt32.le_iff_toNat_le] at halnum
      change ((65 ≤ c.toNat ∧ c.toNat ≤ 90) ∨ (97 ≤ c.toNat ∧ c.toNat ≤ 122)) ∨
        (48 ≤ c.toNat ∧ c.toNat ≤ 57) at halnum
      omega
    simp only [isJsSpace, Bool.or_eq_false_iff, decide_eq_false_iff_not]
    omega
  · simp only [List.mem_cons, List.not_mem_nil, or_false] at hmark
    rcases hmark with rfl | rfl | rfl | rfl | rfl <;> decide

/-- What is stored of an address. -/
lemma stored_email (hreading : Documented reading) {sent : Json} {v : Json} (hnull : v.isNull = false)
    (h : EmailSettingsIn.validate reading .fromEmail sent = some v) :
    ∃ t, v = .str t ∧ reading.lower t = t ∧ strip t = t ∧ isEmail t = true := by
  obtain ⟨w, hw, rfl⟩ := Option.map_eq_some_iff.1 h
  rcases accepted_text hw with rfl | ⟨s, rfl, hstrip, -, hok⟩
  · cases hnull
  · rw [Bool.and_eq_true] at hok
    refine ⟨reading.lower s, by rw [normalizeEmail, hstrip], hreading.lower_lower s, hreading.lower_strip s hstrip,
      hreading.lower_email s hok.1⟩

/-- **An address** stays exactly when JavaScript trims nothing off it, and it is no longer than an address may be. -/
theorem keeps_fromEmail_iff (hreading : Documented reading) {t : String}
    (hrow : (storedFrom box rows).values .fromEmail = some (.str t)) (hlow : reading.lower t = t) (hstrip : strip t = t)
    (hemail : isEmail t = true) (hstorable : (Json.str t).storable = true) :
    Keeps reading box environment rows .fromEmail (text t) ↔ jsTrim t = t ∧ t.length ≤ 255 := by
  have hat : '@' ∈ (jsTrim t).toList := mem_jsTrim (at_mem_of_isEmail hemail) (by decide)
  have hne : strip (jsTrim t) ≠ "" := by
    intro hempty
    have := mem_stripChars hat (by decide)
    rw [← toList_strip, hempty] at this
    simp at this
  have hpart : reading.lower (strip (jsTrim t)) = strip (jsTrim t) := by
    refine hreading.lower_part t _ hlow ?_
    rw [toList_strip, toList_jsTrim, stripChars_eq_trimBy]
    exact (Lib.trimBy_within _ _).trans (Lib.trimBy_within _ _)
  unfold Keeps
  rw [inForce_text hrow]
  simp only [EmailSettingsIn.validate, blankIsNull_text, if_neg hne]
  constructor
  · rintro ⟨v, hv, -, hkeeps⟩
    obtain ⟨w, hw, rfl⟩ := Option.map_eq_some_iff.1 hv
    simp only [textOrNone, Option.ite_none_right_eq_some, Option.some.injEq, Bool.and_eq_true, decide_eq_true_eq] at hw
    obtain ⟨⟨-, hshort⟩, rfl⟩ := hw
    simp only [normalizeEmail, Json.isNull, Bool.false_eq_true, if_false, strip_strip, hpart, Json.str.injEq] at hkeeps
    exact ⟨jsTrim_of_strip_jsTrim hkeeps, hkeeps ▸ hshort⟩
  · rintro ⟨htrim, hshort⟩
    refine ⟨.str t, ?_, hstorable, rfl⟩
    simp [htrim, hstrip, textOrNone, hemail, hshort, normalizeEmail, hlow]

lemma resent_text (hname : name ∈ [Name.fromEmail, .fromName, .smtpHost, .smtpUser, .mailgunDomain, .mailgunBaseUrl]) :
    resent (emailOut (storedFrom box rows) environment) name =
      text (textBox (((storedFrom box rows).values name).getD .null)) := by
  revert hname
  cases name <;> simp [resent, emailOut]

lemma validate_text (hname : name ∈ [Name.fromName, .smtpHost, .smtpUser, .mailgunDomain, .mailgunBaseUrl]) :
    EmailSettingsIn.validate reading name = fun sent => textOrNone (textOk name) (blankIsNull sent) := by
  simp only [List.mem_cons, List.not_mem_nil, or_false] at hname
  rcases hname with rfl | rfl | rfl | rfl | rfl <;> rfl

/-- An empty box is sent as nothing. -/
lemma keeps_empty (hnone : (storedFrom box rows).values name = none) :
    Keeps reading box environment rows name (text (textBox (((storedFrom box rows).values name).getD .null))) := by
  rw [hnone]
  exact keeps_null (inForce_none hnone)

/-- **The texts**, by what is trimmed off them. -/
theorem keeps_texts_iff (hreading : Documented reading) (hheld : Held reading rows)
    (hname : name ∈ [Name.fromName, .smtpHost, .smtpUser, .mailgunDomain, .mailgunBaseUrl]) :
    Keeps reading box environment rows name (resent (emailOut (storedFrom box rows) environment) name) ↔
      ∀ t, rows name.key = some (.str t) → jsTrim t = t ∨ strip (jsTrim t) = "" ∧ own environment name = .str t := by
  have hs : name.isSecret = false := by revert hname; cases name <;> decide
  rw [resent_text (List.mem_cons_of_mem _ hname)]
  rcases stored_cases hreading.lower_empty hheld hs with ⟨hnone, hno⟩ | ⟨v, sent, hv, hrow, hnull, hsent, hstorable⟩
  · exact iff_of_true (keeps_empty hnone) fun t ht => absurd ht (hno t)
  · rw [validate_text hname] at hsent
    rcases accepted_text hsent with rfl | ⟨t, rfl, hstrip, hne, hok⟩
    · cases hnull
    · rw [hv, Option.getD_some, textBox, keeps_text_iff hv (validate_text hname) hstrip hne hok hstorable, hrow]
      simp

/-- **A host** stays. -/
theorem keeps_host (hreading : Documented reading) (hheld : Held reading rows)
    (hname : name ∈ [Name.smtpHost, .mailgunDomain]) :
    Keeps reading box environment rows name (resent (emailOut (storedFrom box rows) environment) name) := by
  have hs : name.isSecret = false := by revert hname; cases name <;> decide
  have htext : name ∈ [Name.fromName, .smtpHost, .smtpUser, .mailgunDomain, .mailgunBaseUrl] := by
    revert hname
    cases name <;> decide
  refine (keeps_texts_iff hreading hheld htext).2 fun t ht => .inl (jsTrim_host ?_)
  obtain ⟨⟨sent, hsent⟩, -⟩ := hheld name hs _ ht
  rw [validate_text htext] at hsent
  obtain ⟨s, hst, -, -, hok⟩ := (accepted_text hsent).resolve_left nofun
  rw [Json.str.injEq] at hst
  rw [hst]
  simp only [List.mem_cons, List.not_mem_nil, or_false] at hname
  rcases hname with rfl | rfl <;> exact (Bool.and_eq_true_iff.1 hok).1

theorem keeps_address_iff (hreading : Documented reading) (hheld : Held reading rows) :
    Keeps reading box environment rows .fromEmail (resent (emailOut (storedFrom box rows) environment) .fromEmail) ↔
      ∀ t, rows Name.fromEmail.key = some (.str t) → jsTrim t = t ∧ t.length ≤ 255 := by
  rw [resent_text (by simp)]
  rcases stored_cases hreading.lower_empty hheld (show Name.fromEmail.isSecret = false from rfl) with ⟨hnone, hno⟩ | ⟨v, sent, hv, hrow, hnull, hsent, hstorable⟩
  · exact iff_of_true (keeps_empty hnone) fun t ht => absurd ht (hno t)
  · obtain ⟨t, rfl, hlow, hstrip, hemail⟩ := stored_email hreading hnull hsent
    rw [hv, Option.getD_some, textBox, keeps_fromEmail_iff hreading hv hlow hstrip hemail hstorable, hrow]
    simp

end Kinds

/-! ### The card -/

/-- An address is not trimmed to nothing. -/
lemma trimmed_of_kept {reading : Reading} (hreading : Documented reading) {environment : Settings} {rows : Rows}
    (hheld : Held reading rows) (h : Kept environment rows) {t : String}
    (ht : rows Name.fromEmail.key = some (.str t)) : jsTrim t = t := by
  refine (h.trimmed .fromEmail (by simp [freeTexts]) t ht).resolve_right fun hempty => ?_
  obtain ⟨⟨sent, hsent⟩, -⟩ := hheld .fromEmail rfl _ ht
  obtain ⟨s, hst, -, -, hemail⟩ := stored_email hreading rfl hsent
  rw [Json.str.injEq] at hst
  have hat := mem_stripChars (mem_jsTrim (at_mem_of_isEmail (hst ▸ hemail)) (by decide)) (by decide)
  rw [← toList_strip, hempty.1] at hat
  simp at hat

/-- **The untouched card** changes nothing exactly when its texts are kept. -/
theorem untouched_iff {reading : Reading} (hreading : Documented reading) (box : Secretbox) (environment : Settings)
    {rows : Rows} (hrows : SavedByApi reading rows) :
    Untouched reading box environment rows ↔ Kept environment rows := by
  have hheld := held_of_saved hrows
  rw [untouched_iff_fields hreading.lower_empty]
  constructor
  · intro h
    have haddress := (keeps_address_iff hreading hheld).1 (h .fromEmail (by decide))
    refine ⟨fun name hname t ht => ?_, fun t ht => (haddress t ht).2⟩
    simp only [freeTexts, List.mem_cons, List.not_mem_nil, or_false] at hname
    rcases hname with rfl | hname
    · exact .inl (haddress t ht).1
    · refine (keeps_texts_iff hreading hheld ?_).1 (h name ?_) t ht
      · rcases hname with rfl | rfl | rfl <;> decide
      · rcases hname with rfl | rfl | rfl <;> decide
  · intro h name hname
    cases name with
    | provider | smtpSecurity | smtpVerifyTls => exact keeps_choice hreading hheld (by decide)
    | smtpPort | smtpTimeoutSeconds => exact keeps_number hreading hheld (by decide)
    | smtpHost | mailgunDomain => exact keeps_host hreading hheld (by decide)
    | fromName | smtpUser | mailgunBaseUrl =>
      exact (keeps_texts_iff hreading hheld (by decide)).2 (h.trimmed _ (by decide))
    | fromEmail =>
      exact (keeps_address_iff hreading hheld).2 fun t ht => ⟨trimmed_of_kept hreading hheld h ht, h.short t ht⟩
    | smtpPassword | mailgunApiKey => exact absurd hname (by decide)

/-- Values as they are typed, of texts in lower case. -/
def typedLower : Reading := { typed with lower := id }

lemma typedLower_documented : Documented typedLower :=
  ⟨fun _ => rfl, fun _ => rfl, fun _ _ _ _ => rfl, fun _ => rfl, fun _ h => h, fun _ h => h, fun _ h => h⟩

/-- A table where a patch has set one plain field. -/
def savedRows (name : Name) (value : Json) : Rows := fun key => if key = name.key then some value else none

lemma saved_one {name : Name} {sent value : Json} (hs : name.isSecret = false)
    (hsent : EmailSettingsIn.validate typedLower name sent = some value) (hstorable : value.storable = true) :
    SavedByApi typedLower (savedRows name value) := by
  have hrows : Function.update (fun _ => none : Rows) name.key (some value) = savedRows name value := by
    funext key
    simp [Function.update_apply, savedRows]
  have hchanges : EmailSettingsIn.changes typedLower [(name, sent)] = some [(name, value)] := by
    simp [EmailSettingsIn.changes, hsent]
  have hwrite : write marked (fun _ => 0) (fun _ => none) [(name, value)] =
      some (savedRows name value, [detail name value]) := by
    have hsorted : sorted [(name, value)] = [(name, value)] := List.mergeSort_singleton _
    unfold write
    rw [hsorted, List.foldlM_cons, writeOne_plain hs, if_pos hstorable, overwrite, hrows]
    rfl
  exact .save (.fresh fun _ => rfl) hchanges hwrite

/-- A sender's name in accents, saved and saved again. -/
theorem untouched_iff_name : Untouched typedLower marked workstation (savedRows .fromName (.str "Lycée")) := by
  have hsaved : SavedByApi typedLower (savedRows .fromName (.str "Lycée")) :=
    saved_one rfl (show EmailSettingsIn.validate typedLower .fromName (.str "Lycée") = _ from rfl) rfl
  refine (untouched_iff typedLower_documented marked workstation hsaved).2 ⟨fun name _ t ht => .inl ?_, fun t ht => ?_⟩
  · simp only [savedRows, Option.ite_none_right_eq_some, Option.some.injEq, Json.str.injEq] at ht
    rw [← ht.2]
    decide
  · simp only [savedRows, Option.ite_none_right_eq_some, Option.some.injEq, Json.str.injEq] at ht
    rw [← ht.2]
    decide

/-- A sender's name pasted with U+FEFF before it: the server keeps the mark, and the card takes it off. -/
theorem marked_name_changes : SavedByApi typedLower (savedRows .fromName (.str "\uFEFFTia'i")) ∧
    ¬ Untouched typedLower marked workstation (savedRows .fromName (.str "\uFEFFTia'i")) := by
  have hsaved : SavedByApi typedLower (savedRows .fromName (.str "\uFEFFTia'i")) :=
    saved_one rfl (show EmailSettingsIn.validate typedLower .fromName (.str "\uFEFFTia'i") = _ from rfl) rfl
  refine ⟨hsaved, fun h => ?_⟩
  have hkeeps := (untouched_iff_fields typedLower_documented.lower_empty).1 h .fromName (by decide)
  rw [keeps_texts_iff typedLower_documented (held_of_saved hsaved) (by decide)] at hkeeps
  rcases hkeeps "\uFEFFTia'i" rfl with htrim | ⟨hempty, -⟩
  · exact absurd htrim (by decide)
  · exact absurd hempty (by decide)

end Tiai.EmailCard
