import Mathlib.Data.Int.Notation
import Mathlib.Data.List.Nodup
import Mathlib.Data.List.TakeWhile
import Mathlib.Data.Rat.Init
import Mathlib.Logic.Function.Basic
import Tiai.Text

/-!
# How mail leaves the console

`features/setting/email_policy.py`, `EmailSettingsIn` (`api/routes/settings_routes.py`), and the two calls the routes
make: a test mail merges an unsaved form with what is stored, a patch writes it.  A row is its value under its key; who
wrote it and when is left out.  What the server does not have written down itself is a parameter: the cipher of
`core/secretbox.py`, pydantic's reading of a number or a flag, `str.lower`.

* `StoredEmailSettings.merged`, `storedFrom`, `resolve`, `write` — the two ways;
* `EmailSettingsIn.validate`, `admissible_of_validate` — what the API accepts is what a row of the field can hold;
* `change_storedFrom`, `merged_eq_storedFrom` — one field merged is the field written and read back, and so a form;
* `merged_perm` — in whatever order the fields come;
* `test_is_saving` — the policy a test is sent with, and the secrets that are not readable.
-/

namespace Tiai.MailSettings

/-! ### Values -/

/-- A value of a request, of a row, of the policy; `null` is `None`. -/
inductive Json
  | null
  | bool (b : Bool)
  | int (n : ℤ)
  | float (q : ℚ)
  | str (s : String)
  | arr (items : List Json)
  | obj (fields : List (String × Json))

/-- `value or None`, of a text. -/
def Json.ofText : Option String → Json
  | some s => .str s
  | none => .null

def Json.isNull : Json → Bool
  | .null => true
  | _ => false

/-- `str(value)`, of a value a field can have. -/
def Json.pyStr : Json → Option String
  | .str s => some s
  | .int n => some (toString n)
  | .bool true => some "True"
  | .bool false => some "False"
  | _ => none

/-- JSONB refuses U+0000 in a text. -/
def Json.storable : Json → Bool
  | .str s => '\x00' ∉ s.toList
  | _ => true

/-! ### The fields -/

inductive Provider | mailgun | smtp
deriving DecidableEq

def Provider.value : Provider → String
  | mailgun => "mailgun"
  | smtp => "smtp"

inductive Security | starttls | tls | none
deriving DecidableEq

def Security.value : Security → String
  | starttls => "starttls"
  | tls => "tls"
  | none => "none"

/-- `PROVIDERS`, `SECURITIES`. -/
def providers : List String := [Provider.mailgun, .smtp].map Provider.value
def securities : List String := [Security.starttls, .tls, .none].map Security.value

/-- `PORT_MIN`, `PORT_MAX`, `TIMEOUT_MIN`, `TIMEOUT_MAX`. -/
def portMin : ℤ := 1
def portMax : ℤ := 65535
def timeoutMin : ℤ := 1
def timeoutMax : ℤ := 120

/-- The console's fields. -/
inductive Name
  | provider
  | fromEmail
  | fromName
  | smtpHost
  | smtpPort
  | smtpSecurity
  | smtpUser
  | smtpVerifyTls
  | smtpTimeoutSeconds
  | mailgunDomain
  | mailgunBaseUrl
  | smtpPassword
  | mailgunApiKey
deriving DecidableEq

namespace Name

/-- Its API name. -/
def text : Name → String
  | provider => "provider"
  | fromEmail => "from_email"
  | fromName => "from_name"
  | smtpHost => "smtp_host"
  | smtpPort => "smtp_port"
  | smtpSecurity => "smtp_security"
  | smtpUser => "smtp_user"
  | smtpVerifyTls => "smtp_verify_tls"
  | smtpTimeoutSeconds => "smtp_timeout_seconds"
  | mailgunDomain => "mailgun_domain"
  | mailgunBaseUrl => "mailgun_base_url"
  | smtpPassword => "smtp_password"
  | mailgunApiKey => "mailgun_api_key"

/-- `name in SECRET_KEYS`; the others are in `PLAIN_KEYS`. -/
def isSecret : Name → Bool
  | smtpPassword | mailgunApiKey => true
  | _ => false

/-- `PLAIN_KEYS[name]`, `SECRET_KEYS[name]`. -/
def key : Name → String
  | provider => "email.provider"
  | fromEmail => "email.from_email"
  | fromName => "email.from_name"
  | smtpHost => "email.smtp_host"
  | smtpPort => "email.smtp_port"
  | smtpSecurity => "email.smtp_security"
  | smtpUser => "email.smtp_user"
  | smtpVerifyTls => "email.smtp_verify_tls"
  | smtpTimeoutSeconds => "email.smtp_timeout_seconds"
  | mailgunDomain => "email.mailgun_domain"
  | mailgunBaseUrl => "email.mailgun_base_url"
  | smtpPassword => "email.smtp_password"
  | mailgunApiKey => "email.mailgun_api_key"

def all : List Name :=
  [provider, fromEmail, fromName, smtpHost, smtpPort, smtpSecurity, smtpUser, smtpVerifyTls, smtpTimeoutSeconds,
    mailgunDomain, mailgunBaseUrl, smtpPassword, mailgunApiKey]

lemma find_key (a : Name) : all.find? (·.key = a.key) = some a := by cases a <;> rfl

theorem key_inj {a b : Name} : a.key = b.key ↔ a = b := by
  refine ⟨fun h => ?_, congrArg key⟩
  have hb := find_key b
  rw [← h, find_key a] at hb
  exact Option.some.inj hb

end Name

/-- `_is_int`. -/
def isInt (low high : ℤ) : Json → Bool
  | .int n => low ≤ n ∧ n ≤ high
  | _ => false

/-- `value in …`, of a tuple of texts. -/
def isOneOf (texts : List String) : Json → Bool
  | .str s => s ∈ texts
  | _ => false

/-- `_valid`. -/
def valid (name : Name) (value : Json) : Bool :=
  match name with
  | .provider => isOneOf providers value
  | .smtpSecurity => isOneOf securities value
  | .smtpPort => isInt portMin portMax value
  | .smtpTimeoutSeconds => isInt timeoutMin timeoutMax value
  | .smtpVerifyTls => match value with
    | .bool _ => true
    | _ => false
  | _ => match value with
    | .str s => s ≠ ""
    | _ => false

/-! ### What is stored, and what is not saved yet -/

/-- `core/secretbox.py`; a token depends on a nonce drawn for it. -/
structure Secretbox where
  encrypt : ℕ → String → String
  decrypt : String → Option String

/-- A token is read back as what it was made of, and is no empty text. -/
def Secretbox.RoundTrips (box : Secretbox) : Prop :=
  ∀ nonce s, box.encrypt nonce s ≠ "" ∧ box.decrypt (box.encrypt nonce s) = some s

/-- `app_settings`: the value under a key, where there is a row. -/
abbrev Rows := String → Option Json

@[ext]
structure StoredEmailSettings where
  values : Name → Option Json
  secrets : Name → Option Json
  unreadable : Name → Bool

namespace StoredEmailSettings

/-- `StoredEmailSettings()`. -/
def empty : StoredEmailSettings := ⟨fun _ => none, fun _ => none, fun _ => false⟩

/-- One turn of the loop of `merged`. -/
def change (s : StoredEmailSettings) (c : Name × Json) : StoredEmailSettings :=
  let value := if c.2.isNull then none else some c.2
  if c.1.isSecret then ⟨s.values, Function.update s.secrets c.1 value, Function.update s.unreadable c.1 false⟩
  else ⟨Function.update s.values c.1 value, s.secrets, Function.update s.unreadable c.1 false⟩

def merged (s : StoredEmailSettings) (changes : List (Name × Json)) : StoredEmailSettings :=
  changes.foldl change s

end StoredEmailSettings

/-- `token = values.get(key)`, past the test on it. -/
def token : Option Json → Option String
  | some (.str s) => if s = "" then none else some s
  | _ => none

def storedFrom (box : Secretbox) (rows : Rows) : StoredEmailSettings where
  values name := if name.isSecret then none else (rows name.key).filter (valid name)
  secrets name := if name.isSecret then ((token (rows name.key)).bind box.decrypt).map .str else none
  unreadable name := name.isSecret && (token (rows name.key)).any fun t => (box.decrypt t).isNone

/-! ### The policy -/

/-- What `resolve` reads of the environment. -/
structure Settings where
  projectName : String
  emailProvider : Provider
  emailFromEmail : Option String
  emailFromName : Option String
  mailgunApiBaseUrl : String
  mailgunDomain : Option String
  mailgunApiKey : Option String
  mailgunFromEmail : Option String
  mailgunFromName : Option String
  mailgunTimeoutSeconds : ℤ
  smtpHost : Option String
  smtpPort : ℤ
  smtpUser : Option String
  smtpPassword : Option String
  smtpSecurity : Security
  smtpVerifyTls : Bool
  smtpTimeoutSeconds : ℤ

/-- `… or …`: an empty text gives way like none. -/
def orElse (a b : Option String) : Option String := if a.all (· = "") then b else a

namespace Settings

variable (environment : Settings)

/-- `email_from_email`. -/
def fromEmail : Option String := orElse environment.emailFromEmail environment.mailgunFromEmail

/-- `email_from_name`. -/
def fromName : Option String :=
  orElse environment.emailFromName (orElse environment.mailgunFromName (some environment.projectName))

end Settings

structure EmailPolicy where
  provider : Json
  fromEmail : Json
  fromName : Json
  smtpHost : Json
  smtpPort : Json
  smtpSecurity : Json
  smtpUser : Json
  smtpPassword : Json
  smtpVerifyTls : Json
  smtpTimeoutSeconds : Json
  mailgunDomain : Json
  mailgunApiKey : Json
  mailgunBaseUrl : Json
  mailgunTimeoutSeconds : ℤ

def resolve (stored : StoredEmailSettings) (environment : Settings) : EmailPolicy :=
  let v := stored.values
  let s := stored.secrets
  { provider := (v .provider).getD (.str environment.emailProvider.value)
    fromEmail := (v .fromEmail).getD (.ofText environment.fromEmail)
    fromName := (v .fromName).getD (.ofText environment.fromName)
    smtpHost := (v .smtpHost).getD (.ofText environment.smtpHost)
    smtpPort := (v .smtpPort).getD (.int environment.smtpPort)
    smtpSecurity := (v .smtpSecurity).getD (.str environment.smtpSecurity.value)
    smtpUser := (v .smtpUser).getD (.ofText environment.smtpUser)
    smtpPassword := (s .smtpPassword).getD (.ofText environment.smtpPassword)
    smtpVerifyTls := (v .smtpVerifyTls).getD (.bool environment.smtpVerifyTls)
    smtpTimeoutSeconds := (v .smtpTimeoutSeconds).getD (.int environment.smtpTimeoutSeconds)
    mailgunDomain := (v .mailgunDomain).getD (.ofText environment.mailgunDomain)
    mailgunApiKey := (s .mailgunApiKey).getD (.ofText environment.mailgunApiKey)
    mailgunBaseUrl := (v .mailgunBaseUrl).getD (.str environment.mailgunApiBaseUrl)
    mailgunTimeoutSeconds := environment.mailgunTimeoutSeconds }

/-! ### Writing -/

/-- What `write` stores of a field; `none` where there is no text to encrypt. -/
def rowValue (box : Secretbox) (nonce : Name → ℕ) (name : Name) (value : Json) : Option Json :=
  if name.isSecret then
    match value with
    | .null => some .null
    | .str s => some (.str (box.encrypt (nonce name) s))
    | _ => none
  else some value

/-- `set_value`, and the flush that follows. -/
def setValue (rows : Rows) (key : String) (value : Json) : Option Rows :=
  if value.storable then some (Function.update rows key (some value)) else none

/-- What the audit line says of a field. -/
def detail (name : Name) (value : Json) : String × Option String :=
  ("email." ++ name.text,
    if name.isSecret then some (if value.isNull then "effacé" else "modifié") else value.pyStr)

/-- One turn of the loop of `write`. -/
def writeOne (box : Secretbox) (nonce : Name → ℕ) (written : Rows × List (String × Option String))
    (c : Name × Json) : Option (Rows × List (String × Option String)) := do
  let value ← rowValue box nonce c.1 c.2
  let rows ← setValue written.1 c.1.key value
  some (rows, written.2 ++ [detail c.1 c.2])

/-- `sorted(changes)`. -/
def sorted (changes : List (Name × Json)) : List (Name × Json) :=
  changes.mergeSort fun a b => decide (a.1.text ≤ b.1.text)

/-- The rows after it, and what the audit line says. -/
def write (box : Secretbox) (nonce : Name → ℕ) (rows : Rows) (changes : List (Name × Json)) :
    Option (Rows × List (String × Option String)) :=
  (sorted changes).foldlM (writeOne box nonce) (rows, [])

/-! ### What the API accepts -/

/-- What is read of a field by others: pydantic's `int` and `bool` of a value, `str.lower`. -/
structure Reading where
  int : Json → Option ℤ
  bool : Json → Option Bool
  lower : String → String

/-- `\s`, of the patterns. -/
def isWhite (c : Char) : Bool :=
  let n := c.toNat
  (9 ≤ n ∧ n ≤ 13) || n = 32 || n = 0x85 || n = 0xA0 || n = 0x1680 || (0x2000 ≤ n ∧ n ≤ 0x200A) || n = 0x2028 ||
    n = 0x2029 || n = 0x202F || n = 0x205F || n = 0x3000

/-- `^[^@\s]+@[^@\s]+\.[^@\s]+$`. -/
def isEmail (s : String) : Bool :=
  match s.toList.splitOn '@' with
  | [name, domain] => name ≠ [] && (name ++ domain).all (!isWhite ·) && '.' ∈ domain.tail.dropLast
  | _ => false

/-- `_HOST`. -/
def isHost (s : String) : Bool :=
  s ≠ "" && s.toList.all fun c => c.isAlphanum || c ∈ ['.', '-', '[', ']', ':']

/-- `^https?://[^\s/]+(/\S*)?$`. -/
def isUrl (s : String) : Bool :=
  let cs := s.toList
  let rest := if "https://".toList <+: cs then some (cs.drop 8) else if "http://".toList <+: cs then some (cs.drop 7)
    else none
  rest.any fun rest => rest.all (!isWhite ·) && rest.takeWhile (· ≠ '/') ≠ []

/-- `_blank_is_null`. -/
def blankIsNull : Json → Json
  | .str s => if strip s = "" then .null else .str (strip s)
  | value => value

/-- `str | None`, under the constraints on the text. -/
def textOrNone (ok : String → Bool) : Json → Option Json
  | .null => some .null
  | .str s => if ok s then some (.str s) else none
  | _ => none

/-- `int | None`, between two bounds. -/
def intOrNone (reading : Reading) (low high : ℤ) : Json → Option Json
  | .null => some .null
  | value => (reading.int value).bind fun n => if low ≤ n ∧ n ≤ high then some (.int n) else none

/-- `bool | None`. -/
def boolOrNone (reading : Reading) : Json → Option Json
  | .null => some .null
  | value => (reading.bool value).map .bool

/-- `normalize_email`, of a value that passed the pattern. -/
def normalizeEmail (reading : Reading) : Json → Json
  | .str s => .str (reading.lower (strip s))
  | value => value

namespace EmailSettingsIn

/-- The value of a field that was sent. -/
def validate (reading : Reading) (name : Name) (sent : Json) : Option Json :=
  match name with
  | .provider => textOrNone (· ∈ providers) sent
  | .fromEmail => (textOrNone (fun s => isEmail s && s.length ≤ 255) (blankIsNull sent)).map (normalizeEmail reading)
  | .fromName => textOrNone (·.length ≤ 100) (blankIsNull sent)
  | .smtpHost => textOrNone (fun s => isHost s && s.length ≤ 255) (blankIsNull sent)
  | .smtpPort => intOrNone reading portMin portMax sent
  | .smtpSecurity => textOrNone (· ∈ securities) sent
  | .smtpUser => textOrNone (·.length ≤ 255) (blankIsNull sent)
  | .smtpPassword => textOrNone (fun s => 1 ≤ s.length && s.length ≤ 1024) sent
  | .smtpVerifyTls => boolOrNone reading sent
  | .smtpTimeoutSeconds => intOrNone reading timeoutMin timeoutMax sent
  | .mailgunDomain => textOrNone (fun s => isHost s && s.length ≤ 255) (blankIsNull sent)
  | .mailgunApiKey => textOrNone (fun s => 1 ≤ s.length && s.length ≤ 1024) sent
  | .mailgunBaseUrl => textOrNone (fun s => isUrl s && s.length ≤ 255) (blankIsNull sent)

/-- `changes`, of a body: its fields in the order a set gives them, or a refusal. -/
def changes (reading : Reading) (body : List (Name × Json)) : Option (List (Name × Json)) :=
  body.mapM fun field => (validate reading field.1 field.2).map (field.1, ·)

end EmailSettingsIn

/-! ### What is accepted is what a row can hold -/

/-- What a change can be: the field handed back, or a value that is read of its row. -/
def Admissible (name : Name) (value : Json) : Prop :=
  value = .null ∨ if name.isSecret then ∃ s, value = .str s else valid name value = true

lemma mem_stripChars {c : Char} {cs : List Char} (h : c ∈ cs) (hc : isSpace c = false) : c ∈ stripChars cs := by
  have drop : ∀ l : List Char, c ∈ l → c ∈ l.dropWhile isSpace := by
    intro l hl
    rw [← List.takeWhile_append_dropWhile (p := isSpace) (l := l), List.mem_append] at hl
    rcases hl with hl | hl
    · have := List.mem_takeWhile_imp hl
      simp [hc] at this
    · exact hl
  simpa [stripChars] using drop _ (List.mem_reverse.2 (drop cs h))

lemma at_mem_of_isEmail {s : String} (h : isEmail s = true) : '@' ∈ s.toList := by
  by_contra hno
  have hone : s.toList.splitOn '@' = [s.toList] := List.splitOn_eq_singleton hno
  simp [isEmail, hone] at h

/-- Of a text that is an address something is left. -/
lemma strip_ne_empty_of_isEmail {s : String} (h : isEmail s = true) : strip s ≠ "" := by
  intro hs
  have := mem_stripChars (at_mem_of_isEmail h) (by decide)
  rw [← toList_strip, hs] at this
  simp at this

lemma textOrNone_eq_some {ok : String → Bool} {sent v : Json} (h : textOrNone ok sent = some v) :
    v = .null ∨ ∃ s, sent = .str s ∧ ok s = true ∧ v = .str s := by
  cases sent with
  | null => exact .inl (Option.some.inj h).symm
  | str s =>
    simp only [textOrNone, Option.ite_none_right_eq_some, Option.some.injEq] at h
    exact .inr ⟨s, rfl, h.1, h.2.symm⟩
  | _ => cases h

/-- A text that may be blank is none. -/
lemma textOrNone_blankIsNull {ok : String → Bool} {sent v : Json} (h : textOrNone ok (blankIsNull sent) = some v) :
    v = .null ∨ ∃ s, s ≠ "" ∧ ok s = true ∧ v = .str s := by
  rcases textOrNone_eq_some h with hv | ⟨s, hs, hok, hv⟩
  · exact .inl hv
  · refine .inr ⟨s, ?_, hok, hv⟩
    rintro rfl
    cases sent with
    | str t =>
      simp only [blankIsNull] at hs
      split at hs
      · cases hs
      · rename_i ht
        exact ht (Json.str.inj hs)
    | _ => cases hs

lemma intOrNone_eq_some {reading : Reading} {low high : ℤ} {sent v : Json}
    (h : intOrNone reading low high sent = some v) : v = .null ∨ isInt low high v = true := by
  unfold intOrNone at h
  split at h
  · exact .inl (Option.some.inj h).symm
  · obtain ⟨n, -, hn⟩ := Option.bind_eq_some_iff.1 h
    simp only [Option.ite_none_right_eq_some, Option.some.injEq] at hn
    exact .inr (by simpa [← hn.2, isInt] using hn.1)

lemma boolOrNone_eq_some {reading : Reading} {sent v : Json} (h : boolOrNone reading sent = some v) :
    v = .null ∨ ∃ b, v = .bool b := by
  unfold boolOrNone at h
  split at h
  · exact .inl (Option.some.inj h).symm
  · obtain ⟨b, -, hb⟩ := Option.map_eq_some_iff.1 h
    exact .inr ⟨b, hb.symm⟩

theorem admissible_of_validate {reading : Reading} (hlower : ∀ s, reading.lower s = "" → s = "") {name : Name}
    {sent v : Json} (h : EmailSettingsIn.validate reading name sent = some v) : Admissible name v := by
  cases name <;> simp only [EmailSettingsIn.validate] at h
  case fromEmail =>
    obtain ⟨w, hw, rfl⟩ := Option.map_eq_some_iff.1 h
    rcases textOrNone_blankIsNull hw with rfl | ⟨s, -, hok, rfl⟩
    · exact .inl rfl
    · simp only [Bool.and_eq_true] at hok
      have hs : reading.lower (strip s) ≠ "" := fun h' => strip_ne_empty_of_isEmail hok.1 (hlower _ h')
      exact .inr (by simpa [Name.isSecret, valid, normalizeEmail] using hs)
  case smtpPort | smtpTimeoutSeconds =>
    rcases intOrNone_eq_some h with rfl | hv
    · exact .inl rfl
    · exact .inr (by simpa [Name.isSecret, valid] using hv)
  case smtpVerifyTls =>
    rcases boolOrNone_eq_some h with rfl | ⟨b, rfl⟩
    · exact .inl rfl
    · exact .inr (by simp [Name.isSecret, valid])
  case provider | smtpSecurity =>
    rcases textOrNone_eq_some h with rfl | ⟨s, -, hok, rfl⟩
    · exact .inl rfl
    · exact .inr (by simpa [Name.isSecret, valid, isOneOf] using hok)
  case smtpPassword | mailgunApiKey =>
    rcases textOrNone_eq_some h with rfl | ⟨s, -, -, rfl⟩
    · exact .inl rfl
    · exact .inr (by simp [Name.isSecret])
  all_goals
    rcases textOrNone_blankIsNull h with rfl | ⟨s, hs, -, rfl⟩
    · exact .inl rfl
    · exact .inr (by simpa [Name.isSecret, valid] using hs)

/-! ### Merged, and written -/

variable {box : Secretbox} {nonce : Name → ℕ} {rows rows' : Rows} {details details' : List (String × Option String)}

lemma writeOne_eq_some {c : Name × Json} (h : writeOne box nonce (rows, details) c = some (rows', details')) :
    ∃ value, rowValue box nonce c.1 c.2 = some value ∧ rows' = Function.update rows c.1.key (some value) := by
  simp only [writeOne, Option.bind_eq_bind, Option.bind_eq_some_iff, Option.some.injEq, Prod.mk.injEq] at h
  obtain ⟨value, hvalue, written, hwritten, rfl, -⟩ := h
  simp only [setValue, Option.ite_none_right_eq_some, Option.some.injEq] at hwritten
  exact ⟨value, hvalue, hwritten.2.symm⟩

/-- What is read back of the row of a field. -/
lemma storedFrom_update (box : Secretbox) (rows : Rows) (name : Name) (value : Json) :
    storedFrom box (Function.update rows name.key (some value)) =
      ⟨Function.update (storedFrom box rows).values name
          (if name.isSecret then none else (some value).filter (valid name)),
        Function.update (storedFrom box rows).secrets name
          (if name.isSecret then ((token (some value)).bind box.decrypt).map .str else none),
        Function.update (storedFrom box rows).unreadable name
          (name.isSecret && (token (some value)).any fun t => (box.decrypt t).isNone)⟩ := by
  ext1 <;> funext n <;> by_cases hn : n = name
  all_goals first
    | subst hn; simp [storedFrom]
    | simp [storedFrom, Function.update_of_ne hn, Function.update_of_ne (mt Name.key_inj.1 hn)]

lemma update_values_secret {name : Name} (h : name.isSecret = true) :
    Function.update (storedFrom box rows).values name none = (storedFrom box rows).values :=
  Function.update_eq_self_iff.2 (by simp [storedFrom, h])

lemma update_secrets_plain {name : Name} (h : name.isSecret = false) :
    Function.update (storedFrom box rows).secrets name none = (storedFrom box rows).secrets :=
  Function.update_eq_self_iff.2 (by simp [storedFrom, h])

/-- A plain field's row gives the value it was given, and a null row none. -/
lemma filter_valid {name : Name} {value : Json} (hs : name.isSecret = false) (h : Admissible name value) :
    (some value).filter (valid name) = if value.isNull then none else some value := by
  rcases h with rfl | hv
  · cases name <;> rfl
  · have hv : valid name value = true := by simpa [hs] using hv
    have hnull : value.isNull = false := by
      cases value with
      | null => cases name <;> cases hv
      | _ => rfl
    simp [Option.filter, hv, hnull]

/-- A field merged is the field written and read back. -/
theorem change_storedFrom (hbox : box.RoundTrips) {c : Name × Json} (hc : Admissible c.1 c.2)
    (h : writeOne box nonce (rows, details) c = some (rows', details')) :
    (storedFrom box rows).change c = storedFrom box rows' := by
  obtain ⟨stored, hstored, rfl⟩ := writeOne_eq_some h
  obtain ⟨name, value⟩ := c
  rw [storedFrom_update]
  cases hs : name.isSecret
  · obtain rfl : value = stored := by simpa [rowValue, hs] using hstored
    simp only [StoredEmailSettings.change, hs, filter_valid hs hc, update_secrets_plain hs, Bool.false_eq_true,
      if_false, Bool.false_and]
  · rcases hc with hv | hv
    · obtain rfl : value = .null := hv
      obtain rfl : .null = stored := by simpa [rowValue, hs] using hstored
      simp [StoredEmailSettings.change, hs, update_values_secret hs, token, Json.isNull]
    · obtain ⟨s, rfl⟩ : ∃ s, value = .str s := by simpa [hs] using hv
      obtain rfl : .str (box.encrypt (nonce name) s) = stored := by simpa [rowValue, hs] using hstored
      obtain ⟨hne, hback⟩ := hbox (nonce name) s
      simp [StoredEmailSettings.change, hs, update_values_secret hs, token, hne, hback, Json.isNull]

/-- **Merged is written and read back.** -/
theorem merged_eq_storedFrom (hbox : box.RoundTrips) : ∀ {changes : List (Name × Json)} {rows details},
    (∀ c ∈ changes, Admissible c.1 c.2) → changes.foldlM (writeOne box nonce) (rows, details) = some (rows', details') →
      (storedFrom box rows).merged changes = storedFrom box rows'
  | [], rows, details, _, h => by
    obtain ⟨rfl, -⟩ := Prod.mk.inj (Option.some.inj h)
    rfl
  | c :: changes, rows, details, hc, h => by
    rw [List.foldlM_cons, Option.bind_eq_bind, Option.bind_eq_some_iff] at h
    obtain ⟨⟨between, detailsBetween⟩, hone, hrest⟩ := h
    have hstep := change_storedFrom hbox (hc c (by simp)) hone
    have ih := merged_eq_storedFrom hbox (fun c h => hc c (List.mem_cons_of_mem _ h)) hrest
    rw [← hstep] at ih
    exact ih

/-- Two changes of two fields, in either order. -/
lemma change_comm (s : StoredEmailSettings) {c c' : Name × Json} (h : c.1 ≠ c'.1) :
    (s.change c).change c' = (s.change c').change c := by
  simp only [StoredEmailSettings.change]
  cases c.1.isSecret <;> cases c'.1.isSecret <;>
    simp [Function.update_comm h]

lemma merged_perm (s : StoredEmailSettings) {changes changes' : List (Name × Json)} (hp : changes.Perm changes')
    (hd : (changes.map Prod.fst).Nodup) : s.merged changes = s.merged changes' := by
  refine hp.foldl_eq' (fun c hc c' hc' s => ?_) s
  by_cases h : c = c'
  · rw [h]
  · exact change_comm s fun h' => h (List.inj_on_of_nodup_map hd hc hc' h')

lemma changes_eq_some {reading : Reading} (hlower : ∀ s, reading.lower s = "" → s = "") :
    ∀ {body patch : List (Name × Json)}, EmailSettingsIn.changes reading body = some patch →
      patch.map Prod.fst = body.map Prod.fst ∧ ∀ c ∈ patch, Admissible c.1 c.2
  | [], patch, h => by
    obtain rfl : [] = patch := Option.some.inj h
    simp
  | field :: body, patch, h => by
    simp only [EmailSettingsIn.changes, List.mapM_cons, Option.bind_eq_bind, Option.bind_eq_some_iff,
      Option.map_eq_some_iff] at h
    obtain ⟨_, ⟨v, hv, rfl⟩, rest, hrest, hpatch⟩ := h
    obtain rfl : (field.1, v) :: rest = patch := Option.some.inj hpatch
    obtain ⟨hnames, hrest⟩ := changes_eq_some hlower hrest
    refine ⟨by simp [hnames], fun c hc => ?_⟩
    rcases List.mem_cons.1 hc with rfl | hc
    · exact admissible_of_validate hlower hv
    · exact hrest c hc

/-- **A test is sent with what saving gives.** -/
theorem test_is_saving {reading : Reading} (hlower : ∀ s, reading.lower s = "" → s = "") {box : Secretbox}
    (hbox : box.RoundTrips) (environment : Settings) (rows : Rows) {body patch : List (Name × Json)}
    (hbody : (body.map Prod.fst).Nodup) (hpatch : EmailSettingsIn.changes reading body = some patch)
    {unsaved changes : List (Name × Json)} (hunsaved : unsaved.Perm patch) (hchanges : changes.Perm patch)
    {nonce : Name → ℕ} {rows' : Rows} {details : List (String × Option String)}
    (hwrite : write box nonce rows changes = some (rows', details)) :
    resolve ((storedFrom box rows).merged unsaved) environment = resolve (storedFrom box rows') environment ∧
      ((storedFrom box rows).merged unsaved).unreadable = (storedFrom box rows').unreadable := by
  obtain ⟨hnames, hadmissible⟩ := changes_eq_some hlower hpatch
  have hsorted : (sorted changes).Perm patch := (List.mergeSort_perm changes _).trans hchanges
  have hd : (unsaved.map Prod.fst).Nodup := by
    rw [(hunsaved.map Prod.fst).nodup_iff, hnames]
    exact hbody
  have hmerged : (storedFrom box rows).merged unsaved = storedFrom box rows' := by
    rw [merged_perm _ (hunsaved.trans hsorted.symm) hd]
    exact merged_eq_storedFrom hbox (fun c hc => hadmissible c (hsorted.mem_iff.1 hc)) hwrite
  rw [hmerged]
  exact ⟨rfl, rfl⟩

/-- A token is a mark and the text. -/
def marked : Secretbox where
  encrypt _ s := "gAAAAA" ++ s
  decrypt t := if "gAAAAA".toList <+: t.toList then some (String.ofList (t.toList.drop 6)) else none

lemma marked_roundTrips : marked.RoundTrips := by
  intro nonce s
  have hcs : (marked.encrypt nonce s).toList = "gAAAAA".toList ++ s.toList := String.toList_append
  refine ⟨fun h => ?_, ?_⟩
  · rw [h] at hcs
    cases hcs
  · have hdrop : (marked.encrypt nonce s).toList.drop 6 = s.toList := by rw [hcs]; rfl
    change (if "gAAAAA".toList <+: (marked.encrypt nonce s).toList then _ else none) = some s
    rw [if_pos (hcs ▸ List.prefix_append _ _), hdrop, String.ofList_toList]

/-- Values as they are typed, and the ASCII part of `str.lower`. -/
def typed : Reading where
  int | .int n => some n
      | _ => none
  bool | .bool b => some b
       | _ => none
  lower s := String.ofList (s.toList.map Char.toLower)

lemma typed_lower (s : String) (h : typed.lower s = "") : s = "" := by
  have hl := congrArg String.toList h
  simpa [typed] using hl

def workstation : Settings where
  projectName := "Tia'i"
  emailProvider := .mailgun
  emailFromEmail := none
  emailFromName := none
  mailgunApiBaseUrl := "https://api.mailgun.net/v3"
  mailgunDomain := none
  mailgunApiKey := some "key"
  mailgunFromEmail := some "tiai@lycee.pf"
  mailgunFromName := some "Tia'i"
  mailgunTimeoutSeconds := 10
  smtpHost := some "relais"
  smtpPort := 587
  smtpUser := none
  smtpPassword := none
  smtpSecurity := .starttls
  smtpVerifyTls := true
  smtpTimeoutSeconds := 10

/-- A port typed as text, and a password no longer readable. -/
def oldRows : Rows
  | "email.smtp_port" => some (.str "2525")
  | "email.smtp_password" => some (.str "gBBBBB")
  | "email.smtp_host" => some (.str "smtp.lycee.pf")
  | _ => none

def form : List (Name × Json) :=
  [(.fromEmail, .str " Admin@Lycee.pf "), (.smtpHost, .str "  "), (.smtpPassword, .str "secret"), (.smtpPort, .int 25)]

def formChanges : List (Name × Json) :=
  [(.fromEmail, .str "admin@lycee.pf"), (.smtpHost, .null), (.smtpPassword, .str "secret"), (.smtpPort, .int 25)]

theorem test_is_saving_form : ∃ rows' details, write marked (fun _ => 0) oldRows formChanges = some (rows', details) ∧
    resolve ((storedFrom marked oldRows).merged formChanges) workstation =
      resolve (storedFrom marked rows') workstation ∧
    ((storedFrom marked oldRows).merged formChanges).unreadable = (storedFrom marked rows').unreadable := by
  have hsorted : sorted formChanges = formChanges := List.mergeSort_of_pairwise (by decide)
  obtain ⟨written, hwrite⟩ : ∃ written, write marked (fun _ => 0) oldRows formChanges = some written := by
    rw [write, hsorted]
    exact ⟨_, rfl⟩
  refine ⟨written.1, written.2, hwrite, ?_⟩
  have hform : EmailSettingsIn.changes typed form = some formChanges := rfl
  exact test_is_saving typed_lower marked_roundTrips workstation oldRows (by decide) hform (.refl _) (.refl _) hwrite

end Tiai.MailSettings
